import CallWeave.Workflow.Plan

/-!
# Local adjustments

A step that corrects the running amount and has an empty call. It is meant for amounts that arrive by other
ways, and to be added as a local step.
-/

namespace CallWeave

/-- Corrects the running amount. -/
structure Adjustment where
  name : String
  adjust : Uint256 → RunContext → Except WorkflowError Uint256

namespace Adjustment

/-- The sum of two amounts, at most the largest amount. -/
def saturatingAdd (a b : Uint256) : Uint256 :=
  BitVec.ofNat 256 (min (a.toNat + b.toNat) (Nat.pow 2 256 - 1))

/-- Adds a fixed amount. -/
def add (name : String) (extra : Uint256) : Adjustment :=
  ⟨name, fun amount _ => .ok (saturatingAdd amount extra)⟩

/-- The step of an adjustment. -/
def step (adjustment : Adjustment) (amountIn : Uint256) (context : RunContext) : Except WorkflowError Step :=
  (adjustment.adjust amountIn context).map fun amountOut => .ofCall adjustment.name amountOut (.plain [])

/-- An adjustment as a generator. -/
def generator {σ : Type} (adjustment : Adjustment) : Generator σ :=
  .pure adjustment.name fun amount context => (adjustment.step amount context).map .step

end Adjustment

end CallWeave
