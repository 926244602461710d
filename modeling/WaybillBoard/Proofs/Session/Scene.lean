import WaybillBoard.Session.Drawing
import WaybillBoard.Session.Input

/-!
Runs of a session. A scene is a session with the tickets that were taken out of its queue; an event
is an operation on the session, the end of a message's time, or the use of a ticket that is out.
-/

namespace WaybillBoard.Session

/-- What can happen around a session, in any order. -/
inductive Event
  | press (p : KeyPress) (now : Nat)
  | turnWheel (w : Wheel)
  | say (text : String) (isError : Bool)
  /-- The message has stood long enough. -/
  | expire
  | take
  | track (generation : Nat) (task : TaskId)
  | refresh (now : Nat)
  | navigate (route : Route) (now : Nat)
  | poll
  | tick (now : Nat)
  | draw (width height : Nat) (now : Time.Instant)
  | unmount
  | send (ticket : Ticket) (outcome : FetchOutcome)
  | drop (ticket : Ticket)

structure Scene where
  session : Session
  /-- The tickets that were taken and neither sent nor dropped, the latest first. -/
  taken : List Ticket := []
  /-- The tickets that were sent or dropped. -/
  spent : List Ticket := []

namespace Scene

/-- A new session, with the ticket of its route in the queue. -/
def start (route : Route) (threshold : Binary64) (label : String) (noIcons : Bool)
    (interval : Option Time.Period) : Scene :=
  { session := .start route threshold label noIcons interval }

/-- With the session changed. A ticket that its queue loses is dropped. -/
def enter (k : Scene) (s : Session) : Scene :=
  { k with
    session := s
    spent := if s.queued = k.session.queued then k.spent else k.session.queued.toList ++ k.spent }

/-- The scene after an event. Nobody can use a ticket that is not out. -/
def step (k : Scene) : Event → Scene
  | .press p now => k.enter (k.session.press p now).1
  | .turnWheel w => k.enter (k.session.turnWheel w)
  | .say text isError => k.enter (k.session.say text isError)
  | .expire => k.enter { k.session with message := none }
  | .take =>
    { k with
      session := k.session.take.1
      taken := k.session.take.2.toList ++ k.taken }
  | .track generation task =>
    k.enter { k.session with dashboard := k.session.dashboard.track generation task }
  | .refresh now => k.enter (k.session.refresh now)
  | .navigate route now => k.enter (k.session.navigate route now)
  | .poll => k.enter k.session.poll.1
  | .tick now => k.enter (k.session.tick now)
  | .draw width height now => k.enter (k.session.draw width height now).1
  | .unmount => k.enter k.session.unmount
  | .send ticket outcome =>
    if ticket ∈ k.taken then
      { session :=
          { k.session with
            dashboard := (k.session.dashboard.deliver ticket.generation outcome).1 }
        taken := k.taken.erase ticket
        spent := ticket :: k.spent }
    else k
  | .drop ticket =>
    if ticket ∈ k.taken then
      { session := { k.session with dashboard := k.session.dashboard.abandon ticket.generation }
        taken := k.taken.erase ticket
        spent := ticket :: k.spent }
    else k

def run (k : Scene) (events : List Event) : Scene := events.foldl step k

/-- The scene that events make of a new session. -/
def after (route : Route) (threshold : Binary64) (label : String) (noIcons : Bool)
    (interval : Option Time.Period) (events : List Event) : Scene :=
  (start route threshold label noIcons interval).run events

end Scene

end WaybillBoard.Session
