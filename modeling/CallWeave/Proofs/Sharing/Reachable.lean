import CallWeave.Proofs.Sharing.Locality
import CallWeave.Workflow.Submit

/-!
# What is seen through a cell

A build names the cells of the workflows nested in it, and what is observed of a workflow is read from its own
cell and, from there, along these names. Two families of cells show the same at a cell when they hold one build
in it and show the same at all cells that the build names (`Cells.ShowSame`). They may differ anywhere else. All
that can be observed of a workflow is then the same (`Workflow.seesSame_of_showSame`). Filling or clearing a cell on
both sides keeps what is the same (`Cells.ShowSame.set`).
-/

namespace CallWeave

variable {σ : Type}

/-! ## Cells that show the same -/

/-- The cell that a step names. -/
def BuiltStep.cell? : BuiltStep → Option CellId
  | .own _ => none
  | .nested cell _ _ _ => some cell

/-- The cells that a build names. -/
def Build.cells (build : Build) : List CellId := build.steps.filterMap BuiltStep.cell?

/-- Two families of cells show the same at a cell: there is a set of cells around it in which both hold the same
builds, and which no build in it leads out of. -/
def Cells.ShowSame (cells other : Cells) (cell : CellId) : Prop :=
  ∃ around : CellId → Prop, around cell ∧ ∀ inside, around inside →
    cells inside = other inside ∧ ∀ build ∈ cells inside, ∀ named ∈ build.cells, around named

namespace Cells.ShowSame

variable {cells other : Cells} {cell : CellId}

theorem same (shows : cells.ShowSame other cell) : cells cell = other cell := by
  obtain ⟨around, isAround, closed⟩ := shows
  exact (closed cell isAround).1

/-- What a build names is shown the same where the build is. -/
theorem named (shows : cells.ShowSame other cell) {build : Build} (held : cells cell = some build) {inside : CellId}
    (isNamed : inside ∈ build.cells) : cells.ShowSame other inside := by
  obtain ⟨around, isAround, closed⟩ := shows
  exact ⟨around, (closed cell isAround).2 build held inside isNamed, closed⟩

/-- A cell that is changed on both sides to what names only cells that show the same shows the same, and so do
all that did. -/
theorem set {changed : CellId} {held : Option Build}
    (names : ∀ build ∈ held, ∀ inside ∈ build.cells, inside = changed ∨ cells.ShowSame other inside)
    (before : cell = changed ∨ cells.ShowSame other cell) :
    (cells.set changed held).ShowSame (other.set changed held) cell := by
  refine ⟨fun inside => inside = changed ∨ cells.ShowSame other inside, before, ?_⟩
  intro inside isAround
  by_cases isChanged : inside = changed
  · simp only [Cells.set, if_pos isChanged]
    exact ⟨trivial, names⟩
  · have shows : cells.ShowSame other inside := isAround.resolve_left isChanged
    simp only [Cells.set, if_neg isChanged]
    exact ⟨shows.same, fun build isHeld named isNamed => .inr (shows.named isHeld isNamed)⟩

/-- A cell that is cleared on both sides leaves the same to be shown. -/
theorem clear {changed : CellId} (shows : cells.ShowSame other cell) :
    (cells.set changed none).ShowSame (other.set changed none) cell :=
  .set (by simp) (.inr shows)

/-- Two cells without a build show the same. -/
theorem of_none (empty : cells cell = none) (empty' : other cell = none) : cells.ShowSame other cell := by
  refine ⟨(· = cell), rfl, ?_⟩
  rintro inside rfl
  refine ⟨empty.trans empty'.symm, ?_⟩
  intro build isHeld
  rw [empty] at isHeld
  cases isHeld

end Cells.ShowSame

/-! ## Reading along the names -/

section Reading

variable {build : Build} {cells other : Cells} {cell : CellId}

/-- What an emitted step names, the build names. -/
theorem Build.mem_cells_of_mem_emittedSteps {step : BuiltStep} (isEmitted : step ∈ build.emittedSteps)
    {named : CellId} (names : step.cell? = some named) : named ∈ build.cells := by
  obtain ⟨place, -, isThere⟩ := List.mem_filterMap.mp isEmitted
  exact List.mem_filterMap.mpr ⟨step, List.mem_of_getElem? isThere, names⟩

/-- The calls of a build depend on the calls of the workflows that it names. -/
theorem Build.calls_congr {nested nested' : NestedCalls} (same : ∀ named ∈ build.cells, nested named = nested' named)
    (name : String) : build.calls name nested = build.calls name nested' := by
  have calls : namedCalls nested build.emittedSteps = namedCalls nested' build.emittedSteps := by
    apply namedCalls_congr
    intro step isEmitted
    cases step with
    | own step => rfl
    | nested cell name amountOut value => exact same cell (mem_cells_of_mem_emittedSteps isEmitted rfl)
  rw [Build.calls, Build.calls, calls]

/-- Results are decoded alike where each step decodes alike. -/
theorem decodeAll_congr {nested nested' : NestedDecoders} {steps : List BuiltStep}
    (same : ∀ step ∈ steps, ∀ raw, step.decodeResult nested raw = step.decodeResult nested' raw)
    (results : List Bytes) : decodeAll nested steps results = decodeAll nested' steps results := by
  induction steps generalizing results with
  | nil => simp only [decodeAll]
  | cons step rest ih =>
    have ih := ih fun later isIn => same later (List.mem_cons_of_mem _ isIn)
    cases results with
    | nil => simp only [decodeAll]
    | cons raw results => simp only [decodeAll, same step List.mem_cons_self, ih]

/-- The decoded results of a build depend on what the workflows that it names decode. -/
theorem Build.decodeResults_congr {nested nested' : NestedDecoders}
    (same : ∀ named ∈ build.cells, nested named = nested' named) :
    build.decodeResults nested = build.decodeResults nested' := by
  have each : ∀ step ∈ build.emittedSteps, ∀ raw, step.decodeResult nested raw = step.decodeResult nested' raw := by
    intro step isEmitted raw
    cases step with
    | own step => rfl
    | nested cell name amountOut value =>
      simp only [BuiltStep.decodeResult, same cell (mem_cells_of_mem_emittedSteps isEmitted rfl)]
  funext results
  rw [Build.decodeResults, Build.decodeResults, decodeAll_congr each]

/-- The outbound call read at a cell is the same where the same is shown. -/
theorem outboundOf_eq_of_showSame (shows : cells.ShowSame other cell) {nested nested' : NestedCalls}
    (same : ∀ named, cells.ShowSame other named → nested named = nested' named) (name : String) (encoder : Encoder) :
    outboundOf cells cell name encoder nested = outboundOf other cell name encoder nested' := by
  rw [outboundOf, outboundOf, ← shows.same]
  cases held : cells cell with
  | none => rfl
  | some build =>
    have calls := build.calls_congr (fun named isNamed => same named (shows.named held isNamed)) name
    simp only [requireBuild, Build.outbound, calls]

/-- The results read at a cell are decoded the same where the same is shown. -/
theorem decodeResultsOf_eq_of_showSame (shows : cells.ShowSame other cell) {nested nested' : NestedDecoders}
    (same : ∀ named, cells.ShowSame other named → nested named = nested' named) (name : String) :
    decodeResultsOf cells cell name nested = decodeResultsOf other cell name nested' := by
  funext results
  rw [decodeResultsOf, decodeResultsOf, ← shows.same]
  cases held : cells cell with
  | none => rfl
  | some build =>
    simp only [requireBuild, build.decodeResults_congr fun named isNamed => same named (shows.named held isNamed)]

/-- What a generator answers for a cell at which the same is shown is the same. -/
theorem Generator.callIn?_eq_of_showSame (generator : Generator σ) {wanted : CellId}
    (shows : cells.ShowSame other wanted) : generator.callIn? cells wanted = generator.callIn? other wanted := by
  induction generator using Generator.induction generalizing wanted with
  | leaf name run => simp only [callIn?]
  | nested cell name encoder entries ih =>
    have nested (named : CellId) (shows : cells.ShowSame other named) :
        nestedCall? cells entries named = nestedCall? other entries named :=
      nestedCall?_congr fun entry isEntry => ih entry isEntry shows
    simp only [callIn?]
    by_cases isWanted : cell = wanted
    · subst isWanted
      rw [if_pos rfl, if_pos rfl, outboundOf_eq_of_showSame shows]
      intro named shows
      rw [nested named shows]
    · rw [if_neg isWanted, if_neg isWanted]

/-- When all generators decode alike for a cell, so do their entries. -/
theorem nestedDecode?_congr {entries : List (Entry (Generator σ))} {wanted : CellId}
    (same : ∀ entry ∈ entries, entry.generator.decodeIn? cells wanted = entry.generator.decodeIn? other wanted) :
    nestedDecode? cells entries wanted = nestedDecode? other entries wanted := by
  funext data
  induction entries with
  | nil => simp only [nestedDecode?]
  | cons entry rest ih =>
    obtain ⟨generator, options⟩ := entry
    have first : generator.decodeIn? cells wanted = generator.decodeIn? other wanted := same _ List.mem_cons_self
    simp only [nestedDecode?, first, ih fun later isIn => same later (List.mem_cons_of_mem _ isIn)]

/-- What a generator decodes for a cell at which the same is shown is the same. -/
theorem Generator.decodeIn?_eq_of_showSame (generator : Generator σ) {wanted : CellId}
    (shows : cells.ShowSame other wanted) : generator.decodeIn? cells wanted = generator.decodeIn? other wanted := by
  induction generator using Generator.induction generalizing wanted with
  | leaf name run =>
    funext data
    simp only [decodeIn?]
  | nested cell name encoder entries ih =>
    have nested (named : CellId) (shows : cells.ShowSame other named) :
        nestedDecode? cells entries named = nestedDecode? other entries named :=
      nestedDecode?_congr fun entry isEntry => ih entry isEntry shows
    funext data
    simp only [decodeIn?]
    by_cases isWanted : cell = wanted
    · subst isWanted
      rw [if_pos rfl, if_pos rfl, decodeReturnOf, decodeReturnOf, decodeResultsOf_eq_of_showSame shows]
      intro named shows
      rw [nested named shows]
    · rw [if_neg isWanted, if_neg isWanted]

end Reading

/-! ## What is observed of a workflow -/

namespace Workflow

variable {workflow : Workflow σ} {cells other : Cells}

/-- All that can be observed of a workflow is the same. -/
structure SeesSame (workflow : Workflow σ) (cells other : Cells) : Prop where
  isBuilt : workflow.isBuilt cells = workflow.isBuilt other
  findTag : workflow.findTag cells = workflow.findTag other
  tags : workflow.tags cells = workflow.tags other
  length : workflow.length cells = workflow.length other
  value : workflow.value cells = workflow.value other
  amountOut : workflow.amountOut cells = workflow.amountOut other
  summary : workflow.summary cells = workflow.summary other
  preparedCalls : workflow.preparedCalls cells = workflow.preparedCalls other
  finalize : workflow.finalize cells = workflow.finalize other
  decodeResult : workflow.decodeResult cells = workflow.decodeResult other

/-- A workflow whose cell shows the same is observed to be the same. -/
theorem seesSame_of_showSame (shows : cells.ShowSame other workflow.cell) : workflow.SeesSame cells other := by
  have calls (named : CellId) (shows : cells.ShowSame other named) :
      workflow.nestedCalls cells named = workflow.nestedCalls other named := by
    rw [nestedCalls, nestedCalls, nestedCall?_congr fun entry _ => entry.generator.callIn?_eq_of_showSame shows]
  have decoders (named : CellId) (shows : cells.ShowSame other named) :
      workflow.nestedDecoders cells named = workflow.nestedDecoders other named := by
    funext data
    rw [nestedDecoders, nestedDecoders,
      nestedDecode?_congr fun entry _ => entry.generator.decodeIn?_eq_of_showSame shows]
  have current : workflow.current cells = workflow.current other := by rw [Workflow.current, shows.same, Workflow.current]
  have build : workflow.currentOrEmpty cells = workflow.currentOrEmpty other := by
    rw [currentOrEmpty, shows.same, currentOrEmpty]
  have tags : workflow.tags cells = workflow.tags other := by rw [Workflow.tags, build, Workflow.tags]
  constructor
  case isBuilt => rw [Workflow.isBuilt, shows.same, Workflow.isBuilt]
  case findTag =>
    funext tag
    rw [Workflow.findTag, tags, Workflow.findTag]
  case tags => exact tags
  case length => rw [Workflow.length, build, Workflow.length]
  case value => rw [Workflow.value, build, Workflow.value]
  case amountOut => rw [Workflow.amountOut, current, Workflow.amountOut]
  case summary => rw [Workflow.summary, build, Workflow.summary]
  case preparedCalls =>
    rw [Workflow.preparedCalls, Workflow.preparedCalls, ← current, Workflow.current]
    cases held : cells workflow.cell with
    | none => rfl
    | some build =>
      exact build.calls_congr (fun named isNamed => calls named (shows.named held isNamed)) workflow.name
  case finalize => exact outboundOf_eq_of_showSame shows calls workflow.name workflow.encoder
  case decodeResult => exact decodeResultsOf_eq_of_showSame shows decoders workflow.name

/-- Nothing is observed of a workflow but that it is not built. -/
structure SeenUnbuilt (workflow : Workflow σ) (cells : Cells) : Prop where
  isBuilt : workflow.isBuilt cells = false
  findTag : ∀ tag, workflow.findTag cells tag = .error (.tagNotFound tag)
  tags : workflow.tags cells = []
  length : workflow.length cells = 0
  value : workflow.value cells = 0
  summary : workflow.summary cells = []
  amountOut : workflow.amountOut cells = .error (.notBuilt workflow.name)
  preparedCalls : workflow.preparedCalls cells = .error (.notBuilt workflow.name)
  finalize : workflow.finalize cells = .error (.notBuilt workflow.name)
  decodeResult : ∀ results, workflow.decodeResult cells results = .error (.notBuilt workflow.name)

/-- So it is when its cell holds no build. -/
theorem seenUnbuilt_of_none (empty : cells workflow.cell = none) : workflow.SeenUnbuilt cells := by
  constructor <;>
    simp [isBuilt, findTag, tags, length, value, summary, currentOrEmpty, amountOut, preparedCalls, current, finalize,
      outboundOf, decodeResult, decodeResultsOf, requireBuild, Build.empty, Except.map, empty]

end Workflow

end CallWeave
