/-!
# Run modes

A workflow is built for one of five purposes. Two of them only ask for amounts, forward or backward; the
other three are *static*: they need the complete transaction, so no step may be left out for convenience.
-/

namespace CallWeave

/-- What a workflow is built for. -/
inductive RunMode where
  /-- The input amount is known; compute the output. -/
  | forward
  /-- The desired output is known; compute the required input. -/
  | reversed
  /-- Build the full transaction for submission. -/
  | execute
  /-- Simulate the full sequence against the current state without committing. -/
  | readOnlyCall
  /-- Build the full transaction to estimate its execution cost. -/
  | estimateCost
deriving DecidableEq, Inhabited

namespace RunMode

/-- Modes that need the complete transaction. -/
def isStatic : RunMode → Bool
  | .execute | .readOnlyCall | .estimateCost => true
  | .forward | .reversed => false

/-- Whether the steps are walked from the last to the first. -/
def isReversed : RunMode → Bool
  | .reversed => true
  | _ => false

/-- The name of a mode. -/
def name : RunMode → String
  | .forward => "forward"
  | .reversed => "reversed"
  | .execute => "execute"
  | .readOnlyCall => "read_only_call"
  | .estimateCost => "estimate_cost"

/-- The mode of a name. -/
def ofName? (text : String) : Option RunMode :=
  if text = "forward" then some .forward
  else if text = "reversed" then some .reversed
  else if text = "execute" then some .execute
  else if text = "read_only_call" then some .readOnlyCall
  else if text = "estimate_cost" then some .estimateCost
  else none

/-- The mode of a name or of one of the two further spellings that callers use. -/
def parse? (text : String) : Option RunMode :=
  if text = "call-static" then some .readOnlyCall
  else if text = "estimate-gas" then some .estimateCost
  else ofName? text

/-- What is said about a text that is no mode. -/
def parseMessage : String :=
  "invalid run mode; expected one of 'forward', 'reversed', 'execute', 'read_only_call', 'estimate_cost'"

/-- A name reads back. -/
theorem ofName?_name (mode : RunMode) : ofName? mode.name = some mode := by
  cases mode <;> decide

end RunMode

end CallWeave
