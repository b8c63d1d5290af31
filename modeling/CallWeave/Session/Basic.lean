import CallWeave.Session.Step
import CallWeave.Workflow.Submit

/-!
# Sessions

Workflows under names, over one stage of scripted transports. A workflow that is added to another is shared
with it: building either shows in both. A copy starts unbuilt and shares nothing but what it nests.
-/

namespace CallWeave

/-- Workflows under names. -/
structure Session where
  /-- The workflows, the latest under a name first. -/
  workflows : List (String × Workflow Stage)
  world : World Stage
  /-- How many cells have been given out. -/
  serial : Nat

namespace Session

/-- A session without workflows. -/
def start (stage : Stage) : Session := ⟨[], .start stage, 0⟩

/-- The workflow under a name. -/
def workflow? (session : Session) (id : String) : Option (Workflow Stage) := session.workflows.lookup id

/-- The cell of the next workflow. -/
def nextCell (session : Session) : CellId := [session.serial]

/-- Puts a workflow under a name. -/
def put (session : Session) (id : String) (workflow : Workflow Stage) : Session :=
  { session with workflows := (id, workflow) :: session.workflows }

/-- Puts a workflow with a cell of its own under a name. -/
def define (session : Session) (id : String) (workflow : Workflow Stage) : Session :=
  { session.put id workflow with serial := session.serial + 1 }

/-- A workflow without generators under a name. -/
def create (session : Session) (id name : String) (encoder : Encoder) : Session :=
  session.define id (.new session.nextCell name encoder)

/-- A copy of a workflow under a name. -/
def copy (session : Session) (id : String) (workflow : Workflow Stage) : Session :=
  session.define id (workflow.copy session.nextCell)

/-- The builds of the session. -/
def cells (session : Session) : Cells := session.world.cells

/-- The session after something that changed builds or transports. -/
def after (session : Session) (world : World Stage) : Session := { session with world := world }

/-- Forgets the build of a workflow. -/
def clear (session : Session) (workflow : Workflow Stage) : Session :=
  session.after (session.world.clear workflow.cell)

end Session

end CallWeave
