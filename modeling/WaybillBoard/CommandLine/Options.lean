/-!
Reading arguments from the left: options by their names, values, and what stands without an option.
Reading stops at the first mistake and where help is asked for.
-/

namespace WaybillBoard.CommandLine

/-- Why arguments are not carried out. -/
inductive Usage
  | help
  | mistake
  deriving DecidableEq, Repr

structure Opt where
  long : String
  short : Option Char := none
  /-- The values that it takes, and nothing for one that takes none. -/
  accepts : Option (String → Bool) := none

/-- What may stand between one command and the next. -/
structure Level where
  options : List Opt
  /-- At most so many arguments stand without an option. -/
  positionals : Nat := 0
  commands : List String := []

/-- What stands there. -/
structure Given where
  /-- By the long name of the option; empty for one without a value. -/
  values : List (String × String) := []
  positionals : List String := []
  command : Option (String × List String) := none

namespace Given

def value? (g : Given) (long : String) : Option String := g.values.lookup long

def has (g : Given) (long : String) : Bool := (g.value? long).isSome

/-- An option stands at most once. -/
def add (g : Given) (o : Opt) (value : String) : Except Usage Given :=
  if g.has o.long || !((o.accepts.map (· value)).getD true) then .error .mistake
  else .ok { g with values := g.values ++ [(o.long, value)] }

end Given

namespace Level

/-- Short options behind one hyphen; the last may wait for its value. -/
def readShorts (level : Level) (g : Given) : List Char → Except Usage (Given × Option Opt)
  | [] => .ok (g, none)
  | c :: cs =>
    if c = 'h' then .error .help
    else match level.options.find? (·.short = some c) with
      | none => .error .mistake
      | some o =>
        if o.accepts.isNone then do level.readShorts (← g.add o "") cs
        else match cs with
          | [] => .ok (g, some o)
          | '=' :: value => do return (← g.add o (String.ofList value), none)
          | value => do return (← g.add o (String.ofList value), none)

/-- A long option behind two hyphens; it may wait for its value. -/
def readLong (level : Level) (g : Given) (cs : List Char) : Except Usage (Given × Option Opt) :=
  let long := String.ofList (cs.takeWhile (· ≠ '='))
  let attached := match cs.dropWhile (· ≠ '=') with
    | _ :: value => some (String.ofList value)
    | [] => none
  if long = "help" then .error (if attached.isNone then .help else .mistake)
  else match level.options.find? (·.long = long) with
    | none => .error .mistake
    | some o =>
      match o.accepts.isSome, attached with
      | true, some value => do return (← g.add o value, none)
      | true, none => .ok (g, some o)
      | false, some _ => .error .mistake
      | false, none => do return (← g.add o "", none)

def addPositional (level : Level) (g : Given) (arg : String) : Except Usage Given :=
  if g.positionals.length < level.positionals then
    .ok { g with positionals := g.positionals ++ [arg] }
  else .error .mistake

/-- No options follow two hyphens alone. -/
def readPositionals (level : Level) (g : Given) : List String → Except Usage Given
  | [] => .ok g
  | arg :: args => do level.readPositionals (← level.addPositional g arg) args

/-- Reads on up to the next command. `waiting` is the option whose value comes next. -/
def readFrom (level : Level) : Given → (waiting : Option Opt) → List String → Except Usage Given
  | g, none, [] => .ok g
  | _, some _, [] => .error .mistake
  | g, some o, arg :: args =>
    match arg.toList with
    | '-' :: _ :: _ => .error .mistake
    | _ => do level.readFrom (← g.add o arg) none args
  | g, none, arg :: args =>
    if level.commands.contains arg then .ok { g with command := some (arg, args) }
    else match arg.toList with
      | ['-', '-'] => level.readPositionals g args
      | '-' :: '-' :: long => do
        let (g, waiting) ← level.readLong g long
        level.readFrom g waiting args
      | '-' :: c :: shorts => do
        let (g, waiting) ← level.readShorts g (c :: shorts)
        level.readFrom g waiting args
      | _ => do level.readFrom (← level.addPositional g arg) none args

def read (level : Level) (args : List String) : Except Usage Given := level.readFrom {} none args

end Level

end WaybillBoard.CommandLine
