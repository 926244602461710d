import WaybillBoard.CommandLine.Invocation
import WaybillBoard.Config.Layers
import WaybillBoard.Report.Document
import WaybillBoard.Report.Listing
import WaybillBoard.Report.Request
import WaybillBoard.Source.Local
import WaybillBoard.Source.Server

/-!
What the program prints, with which code it ends, and what it leaves in the configuration file.
-/

namespace WaybillBoard.CommandLine

/-- What the program finds around it. -/
structure Machine where
  env : Environment
  file : String → FileContent
  now : Time.Instant
  /-- The answer of a server. -/
  ask : Server → Scope → FetchOutcome :=
    fun _ _ => .error (.network "no server can be asked from here")

structure Exit where
  code : Nat := 0
  out : String := ""
  err : String := ""
  /-- The configuration file, if it was written. -/
  saved : Option ConfigFile := none

/-- A message of several lines, indented under its first one. -/
def indented (first further : String) (message : String) : String :=
  first ++ ("\n" ++ further).intercalate
    ((Text.splitOn '\n' message.toList).map String.ofList)

def numbered (number : Nat) (message : String) : String :=
  let digits := toString number
  indented (String.ofList (List.replicate (5 - digits.length) ' ') ++ digits ++ ": ") "       "
    message

def numberedFrom (number : Nat) : List String → String
  | [] => ""
  | message :: messages => "\n" ++ numbered number message ++ numberedFrom (number + 1) messages

/-- The messages of an error under each other, the outermost first. -/
def errorText : List String → String
  | [] => ""
  | [message] => message
  | [message, cause] => message ++ "\n\nCaused by:\n" ++ indented "    " "    " cause
  | message :: causes => message ++ "\n\nCaused by:" ++ numberedFrom 0 causes

def Exit.failure (messages : List String) : Exit :=
  { code := 1, err := "Error: " ++ errorText messages ++ "\n" }

def Exit.printed (out : String) : Exit := { out }

def versionText : String :=
  "ka9s 0.1.0\n  A K9s-inspired terminal dashboard for kube-applier Waybill status\n"
    ++ "  Dan Guns <danbguns@gmail.com>\n  License: Apache-2.0\n"

namespace Machine

def configFile (m : Machine) : ConfigFile :=
  let path := ConfigFile.pathIn m.env
  ⟨path, m.file path⟩

def loadFailure (e : LoadError) : Exit := .failure ("Failed to load configuration" :: e.messages)

def runConfig (m : Machine) : ConfigCommand → Exit
  | .get name =>
    match Config.load m.configFile m.env with
    | .error e => loadFailure e
    | .ok c =>
      match name with
      | none => .printed (String.ofList c.toYaml)
      | some name =>
        match Setting.named? name with
        | some setting => .printed (c.get setting ++ "\n")
        | none => .failure [unknownNameMessage name]
  | .set name text =>
    match Config.stored m.configFile with
    | .error e => .failure e.messages
    | .ok c =>
      match c.setNamed name text with
      | .error e => .failure (("Failed to set " ++ name ++ " = " ++ text) :: e.messages)
      | .ok c => { out := "Configuration saved\n", saved := some (c.save m.configFile) }
  | .list =>
    match Config.load m.configFile m.env with
    | .error e => loadFailure e
    | .ok c => .printed (String.join (Setting.all.map fun s => s.name ++ ": " ++ c.get s ++ "\n"))
  | .path => .printed (m.configFile.path ++ "\n")
  | .validate =>
    match Config.validate m.configFile m.env with
    | .ok _ => .printed "Configuration is valid\n"
    | .error e =>
      { code := 1,
        err := "Configuration validation failed: " ++ ": ".intercalate e.messages ++ "\n" }

/-- The configuration that is used. A file that cannot be loaded leaves the defaults, also where the
environment has a value. -/
def config (m : Machine) (i : Invocation) : Config :=
  let c := (Config.load m.configFile m.env).toOption.getD {}
  { c with
    apiUrl := i.apiUrl.getD c.apiUrl
    refreshInterval := i.refresh.getD c.refreshInterval }

/-- Where the snapshots come from, or the messages of an error. -/
def source (i : Invocation) (c : Config) : Except (List String) Source :=
  match i.fromFile with
  | some path => .ok (.file path)
  | none => do
    let timeout ← c.timeout.mapError CheckError.messages
    let server ← (Server.ofText c.apiUrl timeout).mapError fun e =>
      ("Failed to create status client for " ++ c.apiUrl) :: e.messages
    return .server server

def fetch (m : Machine) : Source → Scope → FetchOutcome
  | .file path, scope => Snapshot.ofFile path (m.file path) scope m.now
  | .server server, scope => m.ask server scope
  | .memory list, scope => Snapshot.select list scope m.now

/-- The namespace to begin with: the one in the arguments, or the configured one. -/
def startNamespace (i : Invocation) (c : Config) : String :=
  i.namespaceArgument.getD c.defaultNamespace

def request (i : Invocation) (c : Config) (o : StatusOptions) : ReportRequest where
  route := .ofNamespace? (some (startNamespace i c))
  query := o.query
  outcome := o.filter
  expand := o.expand
  threshold := c.threshold

def runStatus (m : Machine) (source : Source) (r : ReportRequest) (format : Format) : Exit :=
  let d := Dashboard.fetched (m.fetch source) r
  match d.phase with
  | .failed e => .failure [e.message]
  | _ =>
    .printed (match format with
      | .text => Report.listing d m.now
      | .json => Report.document d m.now)

/-- A dashboard needs a screen of its own, which this program does not open. -/
def noDashboard : Exit :=
  .failure ["ka9s was built without the \"tui\" feature; use \x60ka9s status\x60 instead"]

/-- Carries out what the arguments ask for. -/
def run (m : Machine) (i : Invocation) : Exit :=
  match i.command with
  | .version => .printed versionText
  | .config command => m.runConfig command
  | .dashboard | .status _ =>
    let c := m.config i
    match c.check with
    | .error e => .failure ("Invalid configuration" :: e.messages)
    | .ok _ =>
      match source i c with
      | .error messages => .failure messages
      | .ok source =>
        match i.command with
        | .status options => m.runStatus source (request i c options) options.format
        | _ => noDashboard

end Machine

end WaybillBoard.CommandLine
