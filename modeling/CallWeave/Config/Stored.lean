import CallWeave.Config.Basic
import CallWeave.Files.Tree
import CallWeave.Json.Reader

/-!
# Configuration files

Where the configuration file stands, and loading and saving it. Only valid configurations go either way: a
file that reads as an invalid one is refused, and an invalid one is refused before anything is written.
-/

namespace CallWeave

/-- What keeps a configuration from being loaded or saved. -/
inductive ConfigError where
  /-- The file or its directory cannot be read or written, or holds no text. -/
  | access
  /-- The file is no configuration in JSON. -/
  | malformed
  | invalid (problem : ConfigProblem)

/-- What the environment says about where files are. -/
structure Environment where
  home : String
  /-- The directory for configuration files, if it is set. -/
  configHome : Option String
  /-- The path that stands in for the usual one, if it is set. -/
  configPath : Option String

namespace Config

/-- The directory for configuration files: only an absolute path counts. -/
def directory (env : Environment) : String :=
  match env.configHome with
  | some path => if Path.isAbsolute path then path else Path.join env.home ".config"
  | none => Path.join env.home ".config"

/-- The path of the configuration file. -/
def defaultPath (env : Environment) : String :=
  let usual := Path.join (Path.join (directory env) "clipflow") "config.json"
  match env.configPath with
  | some path => if (Text.trim path).isEmpty then usual else Path.expandHome env.home path
  | none => usual

/-- Reads a configuration from a text. -/
def parse (text : String) : Except ConfigError Config :=
  match (Json.parse? text).bind Config.ofJson? with
  | none => .error .malformed
  | some config =>
    match config.problem? with
    | some problem => .error (.invalid problem)
    | none => .ok config

/-- Loads the configuration at a path, or the usual one if nothing stands there. -/
def load (tree : FileTree) (path : String) : Except ConfigError Config :=
  if !tree.pathExists path then .ok .usual
  else match tree.readText? path with
    | none => .error .access
    | some text => parse text

/-- The text of a configuration file. -/
def fileText (config : Config) : String := config.toJson.pretty

/-- Saves a configuration at a path and makes the directories on the way. -/
def save (config : Config) (tree : FileTree) (path : String) : Except ConfigError Unit × FileTree :=
  match config.problem? with
  | some problem => (.error (.invalid problem), tree)
  | none =>
    match tree.makeDirectories (tree.start path) [] (Path.parentParts path) with
    | (false, after) => (.error .access, after)
    | (true, after) =>
      match after.write? path (FileTree.textBytes config.fileText) with
      | none => (.error .access, after)
      | some written => (.ok (), written)

end Config

end CallWeave
