import CallWeave.CommandLine.Run

/-!
# The program

Looks at the files that a command line names, runs it and reports. The program has no network: a simulation
finds no answer. Of the names of hosts it reads those in plain characters.
-/

namespace CallWeave

/-- What stands at a path. What is there and cannot be read counts as a directory. -/
def nodeAt (path : String) : IO (Option FileNode) := do
  try
    let content ← IO.FS.readBinFile path
    return some (.file content.toList)
  catch
    | .noFileOrDirectory .. => return none
    | _ => return some .directory

/-- The files that a run reads, as they are now. -/
def treeFor (here : List String) (paths : List String) : IO FileTree := do
  let known := FileTree.directoriesAt here
  paths.foldlM (fun tree path => do
    match known.locate? path with
    | none => return tree
    | some location => return tree.observe location (← nodeAt path)) known

end CallWeave

open CallWeave CallWeave.CommandLine

/-- Runs the command line of the program. -/
def main (arguments : List String) : IO UInt32 := do
  let here := Path.parts (← IO.currentDir).toString
  let env : Environment :=
    ⟨(← IO.getEnv "HOME").getD "", ← IO.getEnv "XDG_CONFIG_HOME", ← IO.getEnv "CLIPFLOW_CONFIG_PATH"⟩
  let paths := match Invocation.parse arguments with
    | .error _ => []
    | .ok invocation => invocation.paths env
  let (outcome, _) := CommandLine.run Url.Host.plain env (← treeFor here paths) arguments (.opened [])
  IO.print outcome.output
  IO.eprint outcome.complaint
  return UInt32.ofNat outcome.status
