import WaybillBoard.CommandLine.Options
import WaybillBoard.View.Outcome

/-!
What the arguments of the program ask for.
-/

namespace WaybillBoard.CommandLine

inductive Format
  | text
  | json
  deriving DecidableEq, Repr

def Format.named? (name : String) : Option Format :=
  if name = "text" then some .text else if name = "json" then some .json else none

structure StatusOptions where
  namespaceName : Option String := none
  query : Option String := none
  filter : Option Outcome := none
  expand : Bool := false
  format : Format := .text

inductive ConfigCommand
  /-- One setting by its name, or the whole configuration. -/
  | get (name : Option String)
  | set (name text : String)
  | list
  | path
  | validate

inductive Command
  | dashboard
  | status (options : StatusOptions)
  | config (command : ConfigCommand)
  | version

structure Invocation where
  apiUrl : Option String := none
  namespaceName : Option String := none
  fromFile : Option String := none
  refresh : Option String := none
  command : Command := .dashboard

def anyText (_ : String) : Bool := true

/-- These options may stand at every level; the innermost counts. -/
def commonOptions : List Opt :=
  [{ long := "api-url", accepts := some anyText },
    { long := "from-file", accepts := some (!·.isEmpty) },
    { long := "debug", short := some 'd' }]

def topLevel : Level where
  options := commonOptions ++
    [{ long := "namespace", short := some 'n', accepts := some anyText },
      { long := "refresh", accepts := some anyText }]
  commands := ["status", "config", "version", "help"]

def statusLevel : Level where
  options := commonOptions ++
    [{ long := "query", short := some 'q', accepts := some anyText },
      { long := "filter", short := some 'f', accepts := some fun s => (Outcome.parse s).isSome },
      { long := "expand", short := some 'e' },
      { long := "output", short := some 'o', accepts := some fun s => (Format.named? s).isSome }]
  positionals := 1

def configLevel : Level where
  options := commonOptions
  commands := ["get", "set", "list", "path", "validate", "help"]

/-- A command with nothing but common options and so many arguments of its own. -/
def leafLevel (positionals : Nat) : Level := { options := commonOptions, positionals }

/-- Help is asked for a command by its name. -/
def helpFor (level : Level) : List String → Usage
  | [] => .help
  | [name] => if level.commands.contains name then .help else .mistake
  | ["config", name] =>
    if level.commands.contains "config" && configLevel.commands.contains name then .help
    else .mistake
  | _ => .mistake

def StatusOptions.ofGiven (g : Given) : StatusOptions where
  namespaceName := g.positionals.head?
  query := g.value? "query"
  filter := (g.value? "filter").bind Outcome.parse
  expand := g.has "expand"
  format := ((g.value? "output").bind Format.named?).getD .text

namespace Invocation

/-- The namespace that is asked for. The command's own argument counts before the option. -/
def namespaceArgument (i : Invocation) : Option String :=
  match i.command with
  | .status options => options.namespaceName <|> i.namespaceName
  | _ => i.namespaceName

/-- The options of an outer level count where the inner one has none. -/
def within (outer : Given) (i : Invocation) : Invocation :=
  { i with
    apiUrl := i.apiUrl <|> outer.value? "api-url"
    fromFile := i.fromFile <|> outer.value? "from-file" }

def readConfig (args : List String) : Except Usage Invocation := do
  let g ← configLevel.read args
  let leaf (positionals : Nat) (args : List String) (command : List String → Option ConfigCommand) :
      Except Usage Invocation := do
    let own ← (leafLevel positionals).read args
    match command own.positionals with
    | some command => return within g (within own { command := .config command })
    | none => throw .mistake
  match g.command with
  | some ("get", args) => leaf 1 args fun names => some (.get names.head?)
  | some ("set", args) => leaf 2 args fun
    | [name, text] => some (.set name text)
    | _ => none
  | some ("list", args) => leaf 0 args fun _ => some .list
  | some ("path", args) => leaf 0 args fun _ => some .path
  | some ("validate", args) => leaf 0 args fun _ => some .validate
  | some ("help", args) => throw (helpFor configLevel args)
  | _ => throw .mistake

def readStatus (args : List String) : Except Usage Invocation := do
  let g ← statusLevel.read args
  return within g { command := .status (.ofGiven g) }

def readVersion (args : List String) : Except Usage Invocation := do
  return within (← (leafLevel 0).read args) { command := .version }

def read (args : List String) : Except Usage Invocation := do
  let g ← topLevel.read args
  let i ← match g.command with
    | some ("status", args) => readStatus args
    | some ("config", args) => readConfig args
    | some ("version", args) => readVersion args
    | some (_, args) => throw (helpFor topLevel args)
    | none => pure {}
  return { within g i with
    namespaceName := g.value? "namespace", refresh := g.value? "refresh" }

end Invocation

end WaybillBoard.CommandLine
