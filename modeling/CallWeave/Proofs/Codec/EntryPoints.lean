import CallWeave.Proofs.Codec.Arguments

/-!
# Entry points lose nothing

What each of the three entry points makes of a list of prepared calls. `farm` and `advancedFarm` take any calls.
`advancedPipe` takes them exactly if all have a target, and names the first one that has none
(`Encoder.advancedPipeArguments_eq_error_iff`). Whatever is written reads back as the calls in their order, with
all that the entry point has a place for: `bytesArray` reads `(bytes[])`, and `EncoderKind.readArguments` reads
`((bytes,bytes)[])` and `((address,bytes,bytes)[],uint256)`.
-/

namespace CallWeave.Encoder

open Abi

variable {calls : List NamedCall} {value : Uint256} {arguments : Bytes}

/-! ## Missing targets -/

/-- The first call without a target. -/
def targetless? (calls : List NamedCall) : Option NamedCall :=
  calls.find? (·.call.target.isNone)

/-- There is no such call exactly if every call has a target. -/
theorem targetless?_eq_none_iff : targetless? calls = none ↔ ∀ named ∈ calls, named.call.target.isSome := by
  simp [targetless?, Option.isSome_iff_ne_none]

/-- The parts of a pipe's calls are refused for the first call without a target, and for nothing else. -/
theorem advancedPipeParts_eq_error_iff {e : WorkflowError} :
    advancedPipeParts calls = .error e ↔ ∃ named, targetless? calls = some named ∧ e = .missingTarget named.step := by
  induction calls with
  | nil => simp [advancedPipeParts, targetless?]
  | cons named rest ih =>
    rw [targetless?] at ih ⊢
    cases target : named.call.target with
    | none => simp [advancedPipeParts, advancedPipePart, target, eq_comm]
    | some address =>
      rw [List.find?_cons_of_neg (by simp [target]), ← ih]
      cases behind : advancedPipeParts rest <;> simp [advancedPipeParts, advancedPipePart, target, behind]

theorem advancedPipeArguments_eq_error_iff {e : WorkflowError} :
    advancedPipeArguments calls value = .error e ↔
      ∃ named, targetless? calls = some named ∧ e = .missingTarget named.step := by
  rw [← advancedPipeParts_eq_error_iff, advancedPipeArguments]
  cases advancedPipeParts calls <;> simp

/-- Only a pipe refuses calls. -/
theorem encodeArguments_eq_error_iff {encoder : Encoder} {e : WorkflowError} :
    encoder.encodeArguments calls value = .error e ↔
      encoder.kind = .advancedPipe ∧ ∃ named, targetless? calls = some named ∧ e = .missingTarget named.step := by
  cases kind : encoder.kind <;> simp [encodeArguments, kind, advancedPipeArguments_eq_error_iff]

/-- An entry point takes the calls unless it is a pipe and one of them has no target. -/
theorem exists_encodeArguments_iff {encoder : Encoder} :
    (∃ arguments, encoder.encodeArguments calls value = .ok arguments) ↔
      (encoder.kind = .advancedPipe → targetless? calls = none) := by
  cases made : encoder.encodeArguments calls value with
  | error e =>
    obtain ⟨isPipe, named, isFirst, -⟩ := encodeArguments_eq_error_iff.mp made
    simp [isPipe, isFirst]
  | ok arguments =>
    simp only [Except.ok.injEq, exists_eq', true_iff]
    intro isPipe
    cases first : targetless? calls with
    | none => rfl
    | some named =>
      have refused : encoder.encodeArguments calls value = .error (.missingTarget named.step) :=
        encodeArguments_eq_error_iff.mpr ⟨isPipe, named, first, rfl⟩
      exact absurd (made.symm.trans refused) (by simp)

/-- A pipe takes the calls if they all have a target. -/
theorem exists_advancedPipeArguments_iff :
    (∃ arguments, advancedPipeArguments calls value = .ok arguments) ↔
      ∀ named ∈ calls, named.call.target.isSome := by
  have isPipe : encodeArguments ⟨.advancedPipe, default⟩ calls value = advancedPipeArguments calls value := rfl
  rw [← targetless?_eq_none_iff, ← isPipe, exists_encodeArguments_iff]
  simp

/-! ## Reading back -/

/-- The payloads read back. -/
theorem bytesArray_farmArguments (held : (farmArguments calls).length < 2 ^ 64) :
    bytesArray (farmArguments calls) = .ok (calls.map fun named => named.call.payload) := by
  have entries : farmArguments calls =
      params [arrayPart ((calls.map fun named => named.call.payload).map bytesPart)] := by
    rw [List.map_map]
    rfl
  rw [entries] at held ⊢
  exact bytesArray_params held

/-- Payloads and clipboards read back; a call without a clipboard has got the empty one. -/
theorem readArguments_advancedFarmArguments (held : (advancedFarmArguments calls).length < 2 ^ 64) :
    EncoderKind.advancedFarm.readArguments (advancedFarmArguments calls) =
      .ok (calls.map fun named =>
        ⟨none, named.call.payload, some (named.call.clipboard.getD Clipboard.empty.toBytes)⟩, none) := by
  have encoded : encodeArguments ⟨.advancedFarm, default⟩ calls 0 = .ok (advancedFarmArguments calls) := rfl
  simpa only [EncoderKind.carried, EncoderKind.carriedValue] using readArguments_encodeArguments encoded held

/-- Targets, payloads, clipboards and the value read back. -/
theorem readArguments_advancedPipeArguments (made : advancedPipeArguments calls value = .ok arguments)
    (held : arguments.length < 2 ^ 64) :
    EncoderKind.advancedPipe.readArguments arguments =
      .ok (calls.map fun named =>
        ⟨named.call.target, named.call.payload, some (named.call.clipboard.getD Clipboard.empty.toBytes)⟩,
        some value) := by
  have encoded : encodeArguments ⟨.advancedPipe, default⟩ calls value = .ok arguments := made
  simpa only [EncoderKind.carried, EncoderKind.carriedValue] using readArguments_encodeArguments encoded held

/-- Nothing of any calls is lost in the arguments of an entry point, as long as these fit the memory: the places
and lengths in them are read as 64-bit numbers. Only the pipe refuses calls, exactly for a missing target. An
encoder that is chosen by its kind makes the arguments of the entry point that it stands for. -/
theorem arguments_lossless (calls : List NamedCall) (value : Uint256) :
    ((farmArguments calls).length < 2 ^ 64 →
      bytesArray (farmArguments calls) = .ok (calls.map fun named => named.call.payload)) ∧
    ((advancedFarmArguments calls).length < 2 ^ 64 →
      EncoderKind.advancedFarm.readArguments (advancedFarmArguments calls) =
        .ok (calls.map fun named =>
          ⟨none, named.call.payload, some (named.call.clipboard.getD Clipboard.empty.toBytes)⟩, none)) ∧
    ((∃ arguments, advancedPipeArguments calls value = .ok arguments) ↔
      ∀ named ∈ calls, named.call.target.isSome) ∧
    (∀ e, advancedPipeArguments calls value = .error e ↔
      ∃ named, targetless? calls = some named ∧ e = .missingTarget named.step) ∧
    (∀ arguments, advancedPipeArguments calls value = .ok arguments → arguments.length < 2 ^ 64 →
      EncoderKind.advancedPipe.readArguments arguments =
        .ok (calls.map fun named =>
          ⟨named.call.target, named.call.payload, some (named.call.clipboard.getD Clipboard.empty.toBytes)⟩,
          some value)) ∧
    ∀ target : Address,
      encodeArguments ⟨.farm, target⟩ calls value = .ok (farmArguments calls) ∧
      encodeArguments ⟨.advancedFarm, target⟩ calls value = .ok (advancedFarmArguments calls) ∧
      encodeArguments ⟨.advancedPipe, target⟩ calls value = advancedPipeArguments calls value :=
  ⟨bytesArray_farmArguments, readArguments_advancedFarmArguments, exists_advancedPipeArguments_iff,
    fun _ => advancedPipeArguments_eq_error_iff, fun _ => readArguments_advancedPipeArguments,
    fun _ => ⟨rfl, rfl, rfl⟩⟩

/-- A call with an empty payload, one that fills a word, and one that goes a byte beyond it without a target. -/
def unevenCalls : List NamedCall :=
  [⟨"swap", ⟨some ⟨7⟩, [], some [1, 2, 3]⟩⟩, ⟨"claim", ⟨some ⟨8⟩, List.replicate 32 5, none⟩⟩,
    ⟨"orphan", ⟨none, List.replicate 33 6, none⟩⟩]

theorem unevenCalls_lossless :
    bytesArray (farmArguments unevenCalls) = .ok [[], List.replicate 32 5, List.replicate 33 6] ∧
    advancedPipeArguments unevenCalls 9 = .error (.missingTarget "orphan") ∧
    ∃ arguments, advancedPipeArguments (unevenCalls.take 2) 9 = .ok arguments ∧
      EncoderKind.advancedPipe.readArguments arguments =
        .ok ([⟨some ⟨7⟩, [], some [1, 2, 3]⟩, ⟨some ⟨8⟩, List.replicate 32 5, some (List.replicate 32 0)⟩],
          some 9) := by
  obtain ⟨payloads, -, -, refused, -⟩ := arguments_lossless unevenCalls 9
  obtain ⟨-, -, taken, -, reads, -⟩ := arguments_lossless (unevenCalls.take 2) 9
  obtain ⟨arguments, made⟩ := taken.mpr (by decide)
  have isLess : ∀ arguments, advancedPipeArguments (unevenCalls.take 2) 9 = .ok arguments →
      arguments.length < 2 ^ 64 := by
    rintro _ ⟨⟩
    decide +kernel
  exact ⟨payloads (by decide +kernel), (refused _).mpr ⟨_, rfl, rfl⟩, arguments, made,
    reads arguments made (isLess arguments made)⟩

end CallWeave.Encoder
