import WaybillBoard.View.Output
import WaybillBoard.Waybill.Basic

/-!
How the last run of a Waybill went: its outcome, the color it is shown in, filters by outcome and
the count of each outcome.
-/

namespace WaybillBoard

inductive StatusColor
  | success
  | failure
  | neutral
  deriving DecidableEq, Repr

namespace StatusColor

def of (w : Waybill) : StatusColor :=
  match w.lastRun with
  | none => .neutral
  | some run => if run.success then .success else .failure

def name : StatusColor → String
  | .success => "success"
  | .failure => "failure"
  | .neutral => "neutral"

end StatusColor

inductive Outcome
  | pending
  | failure
  | warning
  | success
  deriving DecidableEq, Repr

namespace Outcome

/-- The outcome of the last run; pending when there was none. Warnings count in a success only. -/
def of (w : Waybill) : Outcome :=
  match w.lastRun with
  | none => .pending
  | some run =>
    if !run.success then .failure
    else if Output.hasWarnings run.output then .warning
    else .success

def name : Outcome → String
  | .pending => "pending"
  | .failure => "failure"
  | .warning => "warning"
  | .success => "success"

def all : List Outcome := [.pending, .failure, .warning, .success]

/-- The outcome that a text names, in letters of either case, with blanks around it. -/
def parse (s : String) : Option Outcome :=
  let cs := (Text.trim s.toList).map Text.asciiLower
  all.find? (fun o => o.name.toList = cs)

end Outcome

/-- All Waybills, or those with one outcome. -/
inductive OutcomeFilter
  | all
  | only (outcome : Outcome)
  deriving DecidableEq, Repr

namespace OutcomeFilter

def admits (f : OutcomeFilter) (w : Waybill) : Bool :=
  match f with
  | .all => true
  | .only outcome => Outcome.of w = outcome

/-- The next filter, in a cycle through all of them. -/
def next : OutcomeFilter → OutcomeFilter
  | .all => .only .pending
  | .only .pending => .only .failure
  | .only .failure => .only .warning
  | .only .warning => .only .success
  | .only .success => .all

def label : OutcomeFilter → String
  | .all => "all"
  | .only outcome => outcome.name

end OutcomeFilter

/-- How many Waybills there are, and how many have each outcome. -/
structure Summary where
  total : Nat
  pending : Nat
  failure : Nat
  warning : Nat
  success : Nat
  deriving DecidableEq, Repr

namespace Summary

def count (waybills : List Waybill) (outcome : Outcome) : Nat :=
  waybills.countP (fun w => Outcome.of w = outcome)

def of (waybills : List Waybill) : Summary where
  total := waybills.length
  pending := count waybills .pending
  failure := count waybills .failure
  warning := count waybills .warning
  success := count waybills .success

end Summary

end WaybillBoard
