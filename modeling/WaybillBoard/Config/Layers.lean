import WaybillBoard.Config.Check
import WaybillBoard.Config.Yaml
import WaybillBoard.Files.Content

/-!
Where a configuration comes from: defaults, under a file, under the environment.
-/

namespace WaybillBoard

/-- The variables that are set, each with its value. -/
abbrev Environment := List (String × String)

/-- The values that an environment puts over others. -/
structure Overrides where
  apiUrl : Option String := none
  requestTimeout : Option String := none
  defaultNamespace : Option String := none

def Overrides.of (env : Environment) : Overrides where
  apiUrl := env.lookup "KA9S_API_URL"
  requestTimeout := env.lookup "KA9S_REQUEST_TIMEOUT"
  defaultNamespace := env.lookup "KA9S_DEFAULT_NAMESPACE"

/-- A file that may hold a configuration. -/
structure ConfigFile where
  path : String
  content : FileContent

inductive LoadError
  | unreadable (path : String) (cause : FileError)
  | malformed (path : String)

/-- The messages of an error, the outermost first. -/
def LoadError.messages : LoadError → List String
  | .unreadable path cause => ["Failed to read config file: " ++ path, cause.message]
  | .malformed path => ["Failed to parse config file: " ++ path, "not a configuration document"]

inductive ValidationError
  | load (cause : LoadError)
  | file (path : String) (cause : CheckError)
  | merged (cause : CheckError)

/-- The messages of an error, the outermost first. -/
def ValidationError.messages : ValidationError → List String
  | .load cause => cause.messages
  | .file path cause => ("Invalid config file: " ++ path) :: cause.messages
  | .merged cause => "Invalid merged configuration" :: cause.messages

namespace Config

def override (c : Config) (o : Overrides) : Config :=
  { c with
    apiUrl := o.apiUrl.getD c.apiUrl
    requestTimeout := o.requestTimeout.getD c.requestTimeout
    defaultNamespace := o.defaultNamespace.getD c.defaultNamespace }

/-- The configuration in a file. -/
def ofFile (file : ConfigFile) : Except LoadError Config :=
  match file.content.readText with
  | .error cause => .error (.unreadable file.path cause)
  | .ok text =>
    match ofYaml? text with
    | some c => .ok c
    | none => .error (.malformed file.path)

/-- The configuration in a file, or the defaults where there is none. -/
def stored (file : ConfigFile) : Except LoadError Config :=
  if file.content.isPresent then ofFile file else .ok {}

def load (file : ConfigFile) (env : Environment) : Except LoadError Config :=
  (stored file).map (·.override (.of env))

/-- Checks what the file holds, if there is one, and what it makes with the environment. -/
def validate (file : ConfigFile) (env : Environment) : Except ValidationError Unit := do
  let c ← (stored file).mapError .load
  if file.content.isPresent then c.check.mapError (.file file.path)
  (c.override (.of env)).check.mapError .merged

/-- The file with the configuration in it. -/
def save (c : Config) (file : ConfigFile) : ConfigFile :=
  { file with content := .octets (Text.Octets.encode c.toYaml) }

end Config

namespace ConfigFile

/-- One more name under a directory. The empty path is the current directory. -/
def join (directory name : String) : String :=
  match directory.toList.getLast? with
  | none => name
  | some last => if last = '/' then directory ++ name else directory ++ "/" ++ name

def home (env : Environment) : String :=
  match env.lookup "HOME" with
  | some path => if path.isEmpty then "." else path
  | none => "."

/-- Where configurations are kept. -/
def directory (env : Environment) : String :=
  match env.lookup "KA9S_CONFIG_DIR" with
  | some path => path
  | none =>
    match env.lookup "XDG_CONFIG_HOME" with
    | some path => join path "ka9s"
    | none => join (join (home env) ".config") "ka9s"

def pathIn (env : Environment) : String := join (directory env) "config.yaml"

end ConfigFile

end WaybillBoard
