import CallWeave.Decimal.Layout
import CallWeave.Json.Quantity
import CallWeave.Json.Record
import CallWeave.Json.Writer
import CallWeave.Text.Blank
import CallWeave.Transport.Retry

/-!
# Configuration

One configuration describes one target network: its endpoint, the contracts that calls enter, how reads are
retried and the tolerance used when a caller gives none. `Config.problem?` says what is wrong with one. The
rest of the module is its form in JSON, where everything but the endpoint of a given network may be left out.
-/

namespace CallWeave

/-- The contracts that calls enter. -/
structure Contracts where
  beanstalk : Address
  depot : Address
  pipeline : Address
deriving DecidableEq, Inhabited

/-- The target network. -/
structure Network where
  chainId : UInt64
  rpcUrl : String
  contracts : Contracts
deriving DecidableEq, Inhabited

/-- A client's configuration. -/
structure Config where
  network : Network
  retry : RetryPolicy
  /-- The tolerance in percent when a caller gives none. -/
  defaultSlippage : Option Float
deriving BEq, Inhabited

/-- The contracts of the main network. -/
def Contracts.mainnet : Contracts :=
  ⟨.ofNat 0xc1e088fc1323b20bcbee9bd1b9fc9546db5624c5, .ofNat 0xdeb0f000082fd56c10f449d4f8497682494da84d,
    .ofNat 0xb1be0000c6b3c62749b5f0c92480146452d15423⟩

/-- The main network behind a local endpoint. -/
def Network.local : Network := ⟨1, "http://127.0.0.1:8545", .mainnet⟩

/-- Three attempts, half a second apart. -/
def RetryPolicy.usual : RetryPolicy := ⟨3, 500⟩

/-- The configuration used when there is no file. -/
def Config.usual : Config := ⟨.local, .usual, none⟩

/-- What can be wrong with the values of a configuration. -/
inductive ConfigProblem where
  | emptyUrl
  | unsupportedUrl (url : String)
  | noAttempts
  | slippageRange (percent : Float)

namespace ConfigProblem

/-- The name of the value that is wrong. -/
def field : ConfigProblem → String
  | .emptyUrl | .unsupportedUrl _ => "network.rpcUrl"
  | .noAttempts => "retry.attempts"
  | .slippageRange _ => "defaultSlippage"

/-- What is wrong with it. -/
def reason : ConfigProblem → String
  | .emptyUrl => "must not be empty"
  | .unsupportedUrl url => "'" ++ url ++ "' must use http or https"
  | .noAttempts => "must be at least 1"
  | .slippageRange percent => Decimal.plain.text percent ++ " is outside [0, 100)"

/-- The text of a problem. -/
def message (problem : ConfigProblem) : String :=
  "invalid config field '" ++ problem.field ++ "': " ++ problem.reason

end ConfigProblem

namespace Config

/-- Whether a text starts like the URL of a transport that is spoken. -/
def hasHttpScheme (url : String) : Bool :=
  "http://".toList.isPrefixOf url.toList || "https://".toList.isPrefixOf url.toList

/-- The first thing wrong with a configuration. -/
def problem? (config : Config) : Option ConfigProblem :=
  let url := Text.trim config.network.rpcUrl
  if url.isEmpty then some .emptyUrl
  else if !hasHttpScheme url then some (.unsupportedUrl url)
  else if config.retry.attempts = 0 then some .noAttempts
  else match config.defaultSlippage with
    | some percent => if 0.0 ≤ percent && percent < 100.0 then none else some (.slippageRange percent)
    | none => none

end Config

/-! ## JSON -/

/-- Contracts as a record. -/
def Contracts.toJson (contracts : Contracts) : Json :=
  .object [("beanstalk", contracts.beanstalk.toJson), ("depot", contracts.depot.toJson),
    ("pipeline", contracts.pipeline.toJson)]

/-- Reads contracts: all three. -/
def Contracts.ofJson? (json : Json) : Option Contracts :=
  match json.fields? ["beanstalk", "depot", "pipeline"] with
  | some [some a, some b, some c] =>
    match Address.ofJson? a, Address.ofJson? b, Address.ofJson? c with
    | some beanstalk, some depot, some pipeline => some ⟨beanstalk, depot, pipeline⟩
    | _, _, _ => none
  | _ => none

/-- A network as a record. -/
def Network.toJson (network : Network) : Json :=
  .object [("chainId", .ofNat network.chainId.toNat), ("rpcUrl", .string network.rpcUrl),
    ("contracts", network.contracts.toJson)]

/-- Reads a network: chain and endpoint, and contracts that may be left out. -/
def Network.ofJson? (json : Json) : Option Network :=
  match json.fields? ["chainId", "rpcUrl", "contracts"] with
  | some [some chainId, some rpcUrl, contracts] =>
    match chainId.natBelow? (Nat.pow 2 64), rpcUrl.string?, Json.defaulted? Contracts.ofJson? .mainnet contracts with
    | some chainId, some rpcUrl, some contracts => some ⟨UInt64.ofNat chainId, rpcUrl, contracts⟩
    | _, _, _ => none
  | _ => none

/-- A policy as a record. -/
def RetryPolicy.toJson (policy : RetryPolicy) : Json :=
  .object [("attempts", .ofNat policy.attempts.toNat), ("delayMs", .ofNat policy.delayMillis.toNat)]

/-- Reads a policy: both numbers. -/
def RetryPolicy.ofJson? (json : Json) : Option RetryPolicy :=
  match json.fields? ["attempts", "delayMs"] with
  | some [some attempts, some delay] =>
    match attempts.natBelow? (Nat.pow 2 32), delay.natBelow? (Nat.pow 2 64) with
    | some attempts, some delay => some ⟨UInt32.ofNat attempts, UInt64.ofNat delay⟩
    | _, _ => none
  | _ => none

/-- A configuration as a record. -/
def Config.toJson (config : Config) : Json :=
  .object [("network", config.network.toJson), ("retry", config.retry.toJson),
    ("defaultSlippage", match config.defaultSlippage with
      | some percent => .real percent
      | none => .null)]

/-- Reads a configuration, each part of which may be left out. -/
def Config.ofJson? (json : Json) : Option Config :=
  match json.fields? ["network", "retry", "defaultSlippage"] with
  | some [network, retry, slippage] =>
    match Json.defaulted? Network.ofJson? .local network, Json.defaulted? RetryPolicy.ofJson? .usual retry,
        Json.optional? Json.float? slippage with
    | some network, some retry, some slippage => some ⟨network, retry, slippage⟩
    | _, _, _ => none
  | _ => none

end CallWeave
