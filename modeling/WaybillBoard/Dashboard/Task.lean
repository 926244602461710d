import WaybillBoard.Dashboard.Fetching
import WaybillBoard.Source.Decode

/-!
Tasks that fetch from a list of Waybills in memory, or never end. They do nothing until they are
advanced, in the order in which they began.
-/

namespace WaybillBoard

inductive Work
  | endless
  /-- Answers a ticket from the list. -/
  | fetch (ticket : Ticket) (list : StatusList)

structure Task where
  id : TaskId
  generation : Nat
  work : Work

inductive Ending
  | done
  | aborted
  deriving DecidableEq, Repr

def Ending.name : Ending → String
  | .done => "done"
  | .aborted => "aborted"

/-- The tasks that run, and those that ended with how they did. -/
structure TaskReport where
  running : List Task
  ended : List (Nat × Ending)

namespace Task

/-- A task that is aborted drops its ticket. -/
def abort (t : Task) (d : Dashboard) : Dashboard :=
  match t.work with
  | .endless => d
  | .fetch ticket _ => d.abandon ticket.generation

/-- The task's turn: the dashboard after it, and how it ended, if it did. -/
def turn (t : Task) (d : Dashboard) (now : Time.Instant) : Dashboard × Option Ending :=
  if d.aborted.contains t.id then (t.abort d, some .aborted)
  else
    match t.work with
    | .endless => (d, none)
    | .fetch ticket list =>
      ((d.deliver ticket.generation (Snapshot.select list ticket.scope now)).1, some .done)

/-- Every task has its turn. -/
def advance (d : Dashboard) (now : Time.Instant) : List Task → Dashboard × TaskReport
  | [] => (d, ⟨[], []⟩)
  | t :: tasks =>
    let (d, ending) := t.turn d now
    let (d, report) := advance d now tasks
    match ending with
    | none => (d, { report with running := t :: report.running })
    | some ending => (d, { report with ended := (t.generation, ending) :: report.ended })

end Task

end WaybillBoard
