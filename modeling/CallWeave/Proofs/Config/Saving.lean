import CallWeave.Config.Stored
import CallWeave.Proofs.Codec.Octets
import CallWeave.Proofs.Files.Writing
import CallWeave.Proofs.Json.Pretty

/-!
# Configurations that are loaded and saved

Which configurations are valid is said without the order of checks (`Config.Valid`). Only these are loaded, only these
are saved, and one that is saved is loaded again as it was (`Config.load_save`): its text is that of a document which
is read back, and the document that of a record which is read back field by field.
-/

namespace CallWeave

variable {config : Config} {tree after : FileTree} {path : String}

/-! ## Valid configurations -/

/-- What may be loaded and saved. Blanks around the endpoint do not count. -/
structure Config.Valid (config : Config) : Prop where
  notEmpty : Text.trim config.network.rpcUrl ≠ ""
  scheme : ∃ rest, Text.trim config.network.rpcUrl = "http://" ++ rest ∨
    Text.trim config.network.rpcUrl = "https://" ++ rest
  attempts : 1 ≤ config.retry.attempts.toNat
  slippage : ∀ percent ∈ config.defaultSlippage, 0.0 ≤ percent ∧ percent < 100.0

theorem Config.hasHttpScheme_iff {url : String} :
    hasHttpScheme url = true ↔ ∃ rest, url = "http://" ++ rest ∨ url = "https://" ++ rest := by
  have split (scheme : String) : scheme.toList.isPrefixOf url.toList = true ↔ ∃ rest, url = scheme ++ rest := by
    rw [List.isPrefixOf_iff_prefix]
    constructor
    · rintro ⟨rest, same⟩
      exact ⟨String.ofList rest, by rw [← String.toList_inj, String.toList_append, String.toList_ofList, same]⟩
    · rintro ⟨rest, rfl⟩
      exact ⟨rest.toList, String.toList_append.symm⟩
  rw [hasHttpScheme, Bool.or_eq_true, split, split, exists_or]

theorem Config.problem?_eq_none_iff : config.problem? = none ↔ config.Valid := by
  have attempts : config.retry.attempts = 0 ↔ ¬1 ≤ config.retry.attempts.toNat := by
    rw [← UInt32.toNat_inj, UInt32.toNat_zero]
    omega
  simp only [problem?, attempts]
  constructor
  · intro fine
    split_ifs at fine with isEmpty other few
    refine ⟨by simpa using isEmpty, hasHttpScheme_iff.mp (by simpa using other), few, ?_⟩
    intro percent isThere
    rw [Option.mem_def.mp isThere] at fine
    simpa using fine
  · rintro ⟨notEmpty, scheme, enough, slippage⟩
    rw [if_neg (by simpa using notEmpty), if_neg (by simp [hasHttpScheme_iff.mpr scheme]),
      if_neg (not_not.mpr enough)]
    cases isThere : config.defaultSlippage with
    | none => rfl
    | some percent => simpa using slippage percent isThere

/-! ## Records -/

theorem Contracts.ofJson?_toJson (contracts : Contracts) : ofJson? contracts.toJson = some contracts := by
  have fields : contracts.toJson.fields? ["beanstalk", "depot", "pipeline"] =
      some [some contracts.beanstalk.toJson, some contracts.depot.toJson, some contracts.pipeline.toJson] := rfl
  rw [ofJson?, fields]
  simp only [Address.ofJson?_toJson]

theorem Network.ofJson?_toJson (network : Network) : ofJson? network.toJson = some network := by
  have fields : network.toJson.fields? ["chainId", "rpcUrl", "contracts"] =
      some [some (.ofNat network.chainId.toNat), some (.string network.rpcUrl), some network.contracts.toJson] := rfl
  have chainId : network.chainId.toNat < Nat.pow 2 64 := network.chainId.toNat_lt
  rw [ofJson?, fields]
  simp only [Json.natBelow?_ofNat chainId, Json.string?, Json.defaulted?, Contracts.ofJson?_toJson,
    UInt64.ofNat_toNat]

theorem RetryPolicy.ofJson?_toJson (policy : RetryPolicy) : ofJson? policy.toJson = some policy := by
  have fields : policy.toJson.fields? ["attempts", "delayMs"] =
      some [some (.ofNat policy.attempts.toNat), some (.ofNat policy.delayMillis.toNat)] := rfl
  have attempts : policy.attempts.toNat < Nat.pow 2 32 := policy.attempts.toNat_lt
  have delay : policy.delayMillis.toNat < Nat.pow 2 64 := policy.delayMillis.toNat_lt
  rw [ofJson?, fields]
  simp only [Json.natBelow?_ofNat attempts, Json.natBelow?_ofNat delay, UInt32.ofNat_toNat, UInt64.ofNat_toNat]

/-- A configuration is read back from the record that it is written as. -/
theorem Config.ofJson?_toJson (config : Config) : ofJson? config.toJson = some config := by
  have fields : ∃ slippage, config.toJson.fields? ["network", "retry", "defaultSlippage"] =
      some [some config.network.toJson, some config.retry.toJson, some slippage] ∧
      Json.optional? Json.float? (some slippage) = some config.defaultSlippage := by
    refine ⟨_, rfl, ?_⟩
    cases config.defaultSlippage <;> rfl
  obtain ⟨slippage, fields, read⟩ := fields
  rw [ofJson?, fields]
  simp only [Json.defaulted?, Network.ofJson?_toJson, RetryPolicy.ofJson?_toJson, read]

/-- The document of a configuration is legible when its tolerance is. -/
theorem Config.legible_toJson (back : ∀ percent ∈ config.defaultSlippage, Json.ReadsBack percent) :
    config.toJson.Legible := by
  have contracts : config.network.contracts.toJson.Legible := .object (by simp [Address.toJson, Json.Legible.string])
  have network : config.network.toJson.Legible :=
    .object (by simp [Json.ofNat, Json.Legible.int, Json.Legible.string, contracts])
  have retry : config.retry.toJson.Legible := .object (by simp [Json.ofNat, Json.Legible.int])
  refine .object (List.forall_mem_cons.mpr ⟨network, List.forall_mem_cons.mpr ⟨retry,
    List.forall_mem_singleton.mpr ?_⟩⟩)
  cases isThere : config.defaultSlippage with
  | none => exact .null
  | some percent => exact .real (back percent isThere)

/-! ## Loading and saving -/

/-- What is read from a text is valid. -/
theorem Config.valid_of_parse {text : String} (read : parse text = .ok config) : config.Valid := by
  rw [parse] at read
  split at read
  case h_1 => cases read
  case h_2 =>
    split at read
    case h_1 => cases read
    case h_2 fine =>
      obtain rfl := Except.ok.inj read
      exact problem?_eq_none_iff.mp fine

/-- What is loaded is valid, also where there is no file. -/
theorem Config.valid_of_load (loaded : load tree path = .ok config) : config.Valid := by
  rw [load] at loaded
  split at loaded
  case isTrue =>
    obtain rfl := Except.ok.inj loaded
    exact problem?_eq_none_iff.mp rfl
  case isFalse =>
    split at loaded
    case h_1 => cases loaded
    case h_2 => exact valid_of_parse loaded

/-- Nothing happens to the files when what is to be saved is not valid. -/
theorem Config.save_of_not_valid (notValid : ¬config.Valid) :
    ∃ problem, config.problem? = some problem ∧ config.save tree path = (.error (.invalid problem), tree) := by
  rw [← problem?_eq_none_iff, ← ne_eq, Option.ne_none_iff_exists'] at notValid
  obtain ⟨problem, isProblem⟩ := notValid
  exact ⟨problem, isProblem, by rw [save, isProblem]⟩

/-- What has been saved is loaded again. -/
theorem Config.load_of_save (saved : config.save tree path = (.ok (), after))
    (back : ∀ percent ∈ config.defaultSlippage, Json.ReadsBack percent) : load after path = .ok config := by
  rw [save] at saved
  split at saved
  case h_1 => cases saved
  case h_2 fine =>
    split at saved
    case h_1 => cases saved
    case h_2 made =>
      split at saved
      case h_1 => cases saved
      case h_2 written =>
        obtain rfl := (Prod.mk.inj saved).2
        have parsed : Json.parse? config.fileText = some config.toJson := Json.parse?_pretty (legible_toJson back)
        rw [load, FileTree.pathExists_of_write? written, FileTree.readText?_of_write? written]
        simp only [parse, parsed, Option.bind_some, ofJson?_toJson, fine]
        rfl

/-- Only valid configurations are loaded, also where there is no file. One that is not valid is not saved, and nothing
happens to the files. One that has been saved is loaded again, provided that its tolerance is read back from its own
digits. -/
theorem Config.load_save (config : Config) (tree : FileTree) (path : String) :
    (load tree path = .ok config → config.Valid) ∧
    (¬config.Valid →
      ∃ problem, config.problem? = some problem ∧ config.save tree path = (.error (.invalid problem), tree)) ∧
    ∀ after, config.save tree path = (.ok (), after) →
      (∀ percent ∈ config.defaultSlippage, Json.ReadsBack percent) → load after path = .ok config :=
  ⟨valid_of_load, save_of_not_valid, fun _ => load_of_save⟩

/-- The usual configuration without any attempt. -/
def Config.idle : Config := { Config.usual with retry := ⟨0, 500⟩ }

theorem Config.usual_load_save :
    load (usual.save (.emptyAt ["home"]) "clips/config.json").2 "clips/config.json" = .ok usual ∧
    (usual.Valid ∧ load (.emptyAt ["home"]) "clips/config.json" = .ok usual) ∧
    idle.save (.emptyAt ["home"]) "clips/config.json" = (.error (.invalid .noAttempts), .emptyAt ["home"]) := by
  obtain ⟨valid, -, again⟩ := load_save usual (.emptyAt ["home"]) "clips/config.json"
  obtain ⟨-, refused, -⟩ := load_save idle (.emptyAt ["home"]) "clips/config.json"
  refine ⟨again _ (by rfl) nofun, ⟨valid (by rfl), by rfl⟩, ?_⟩
  obtain ⟨problem, isProblem, saved⟩ := refused fun valid => absurd valid.attempts (by decide)
  obtain rfl : ConfigProblem.noAttempts = problem := Option.some.inj isProblem
  exact saved

end CallWeave
