import WaybillBoard.Session.Fetching

/-!
What keys and the mouse wheel do to a session.
-/

namespace WaybillBoard

inductive Key
  | char (c : Char)
  | escape
  | enter
  | tab
  | backTab
  | backspace
  | delete
  | up
  | down
  | left
  | right
  | pageUp
  | pageDown
  | home
  | endKey
  | function (number : Nat)
  deriving DecidableEq, Repr

structure KeyPress where
  key : Key
  control : Bool := false
  deriving DecidableEq, Repr

inductive Wheel
  | up
  | down
  deriving DecidableEq, Repr

namespace Session

/-- Searches for another text, with the first row selected. -/
def search (s : Session) (query : String) : Session :=
  selectFirst { s with dashboard := s.dashboard.setQuery query }

def toggleSelected (s : Session) : Session :=
  match s.selectedWaybill? with
  | none => s
  | some w => { s with dashboard := s.dashboard.toggle w.namespaceName }

/-- Opens the namespace of the selected row. -/
def openSelected (s : Session) (now : Nat) : Session :=
  match s.selectedWaybill? with
  | none => s
  | some w => s.navigate (.only w.namespaceName) now

/-- A key in the search prompt. -/
def pressInPrompt (s : Session) : Key → Session
  | .escape => { s with searching := false }.search ""
  | .enter => { s with searching := false }
  | .backspace => s.search (String.ofList s.dashboard.query.toList.dropLast)
  | .char c => s.search (s.dashboard.query.push c)
  | _ => s

/-- Clears what narrows the list, else leaves the namespace, else quits. -/
def escape (s : Session) (now : Nat) : Session × Bool :=
  if s.dashboard.query ≠ "" ∨ s.dashboard.filter ≠ .all then
    (selectFirst { s with dashboard := (s.dashboard.setQuery "").setFilter .all }, false)
  else
    match s.dashboard.route with
    | .only _ => (s.navigate .all now, false)
    | .all => (s, true)

def cycleFilter (s : Session) : Session :=
  let s := selectFirst { s with dashboard := s.dashboard.cycleFilter }
  s.say ("Outcome filter: " ++ s.dashboard.filter.label) false

def refreshByKey (s : Session) (now : Nat) : Session :=
  let s := s.refresh now
  s.say ("Refreshing " ++ s.dashboard.route.text) false

/-- A key in the list: the session after it, and whether to quit. -/
def pressInList (s : Session) (key : Key) (now : Nat) : Session × Bool :=
  match key with
  | .char 'q' | .char 'Q' => (s, true)
  | .escape => s.escape now
  | .char 'j' | .down => (s.selectNext 1, false)
  | .char 'k' | .up => (s.selectPrevious 1, false)
  | .pageDown => (s.selectNext (max s.pageSize 1), false)
  | .pageUp => (s.selectPrevious (max s.pageSize 1), false)
  | .char 'g' | .home => ({ s with selected := 0 }, false)
  | .char 'G' | .endKey => ({ s with selected := s.dashboard.visible.length - 1 }, false)
  | .enter =>
    match s.dashboard.mode with
    | .list => (s.openSelected now, false)
    | .single => (s.toggleSelected, false)
  | .char ' ' | .tab => (s.toggleSelected, false)
  | .char '/' => ({ s with searching := true }, false)
  | .char 'o' => (s.cycleFilter, false)
  | .char 'r' => (s.refreshByKey now, false)
  | .char '?' => ({ s with showsHelp := true }, false)
  | _ => (s, false)

/-- A key: the session after it, and whether to quit. Any key closes the help; in the list, Escape
takes a message away before it does anything else. -/
def press (s : Session) (p : KeyPress) (now : Nat) : Session × Bool :=
  if p.control ∧ p.key = .char 'c' then (s, true)
  else if s.showsHelp then ({ s with showsHelp := false }, false)
  else if s.searching then (s.pressInPrompt p.key, false)
  else if s.message.isSome ∧ p.key = .escape then ({ s with message := none }, false)
  else
    let s := if p.key = .char 'r' then s else { s with message := none }
    s.pressInList p.key now

/-- The wheel moves the selection. -/
def turnWheel (s : Session) : Wheel → Session
  | .down => s.selectNext 1
  | .up => s.selectPrevious 1

end Session

end WaybillBoard
