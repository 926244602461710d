import WaybillBoard.Proofs.Session.Effects

/-!
The way out. Escape takes away what lies over the list of all namespaces, one layer with every
press, and quits when nothing is left. Meanwhile only a fetch that fails can put a layer back, so
as many presses as there are layers and failures are enough to quit with the next one.
-/

namespace WaybillBoard

open Board (StatusMessage)

def Phase.isFailed : Phase → Bool
  | .failed _ => true
  | _ => false

/-- What Escape takes away. -/
inductive Layer
  | help
  | prompt
  | message
  /-- What narrows the list: the query and the filter. -/
  | narrowing
  | namespaceRoute
  deriving DecidableEq, Repr

/-- The part of a session that lies over the list of all namespaces. -/
structure Covers where
  showsHelp : Bool
  searching : Bool
  message : Option StatusMessage
  query : String
  filter : OutcomeFilter
  route : Route

namespace Layer

/-- All layers, the topmost first. -/
def order : List Layer := [.help, .prompt, .message, .narrowing, .namespaceRoute]

def isOn (c : Covers) : Layer → Bool
  | .help => c.showsHelp
  | .prompt => c.searching
  | .message => c.message.isSome
  | .narrowing => c.query != "" || c.filter != .all
  | .namespaceRoute => c.route != .all

end Layer

namespace Covers

def top? (c : Covers) : Option Layer := Layer.order.find? (Layer.isOn c)

def depth (c : Covers) : Nat := Layer.order.countP (Layer.isOn c)

/-- Without a layer. The query goes with the prompt, the filter does not. -/
def without (c : Covers) : Layer → Covers
  | .help => { c with showsHelp := false }
  | .prompt => { c with searching := false, query := "" }
  | .message => { c with message := none }
  | .narrowing => { c with query := "", filter := .all }
  | .namespaceRoute => { c with route := .all }

theorem isOn_without_self (c : Covers) (layer : Layer) : layer.isOn (c.without layer) = false := by
  cases layer <;> simp [Layer.isOn, without]

theorem isOn_of_without {c : Covers} {layer other : Layer} (h : other.isOn (c.without layer)) :
    other.isOn c := by
  cases layer <;> cases other <;> simp_all [Layer.isOn, without]

/-- No other layer goes with one, but a query alone goes with the prompt. -/
theorem isOn_without {c : Covers} {layer other : Layer} (hne : other ≠ layer)
    (h : ¬ (layer = .prompt ∧ other = .narrowing ∧ c.filter = .all)) :
    other.isOn (c.without layer) = other.isOn c := by
  cases layer <;> cases other <;> simp_all [Layer.isOn, without]

theorem top?_eq_none_iff (c : Covers) :
    c.top? = none ↔ ∀ layer : Layer, layer.isOn c = false := by
  simp only [top?, List.find?_eq_none, Bool.not_eq_true]
  exact ⟨fun h layer => h layer (by cases layer <;> decide), fun h layer _ => h layer⟩

/-- The topmost layer, with what is known about those above it. -/
inductive Topmost (c : Covers) : Option Layer → Prop
  | help (on : c.showsHelp) : Topmost c (some .help)
  | prompt (help : ¬ c.showsHelp) (on : c.searching) : Topmost c (some .prompt)
  | message (help : ¬ c.showsHelp) (prompt : ¬ c.searching) (on : c.message.isSome) :
      Topmost c (some .message)
  | narrowing (help : ¬ c.showsHelp) (prompt : ¬ c.searching) (message : c.message = none)
      (on : c.query ≠ "" ∨ c.filter ≠ .all) : Topmost c (some .narrowing)
  | namespaceRoute (help : ¬ c.showsHelp) (prompt : ¬ c.searching) (message : c.message = none)
      (query : c.query = "") (filter : c.filter = .all) (on : c.route ≠ .all) :
      Topmost c (some .namespaceRoute)
  | nothing (help : ¬ c.showsHelp) (prompt : ¬ c.searching) (message : c.message = none)
      (query : c.query = "") (filter : c.filter = .all) (route : c.route = .all) : Topmost c none

theorem topmost (c : Covers) : Topmost c c.top? := by
  rw [top?, Layer.order]
  by_cases help : Layer.help.isOn c
  · rw [List.find?_cons_of_pos help]
    exact .help help
  by_cases prompt : Layer.prompt.isOn c
  · rw [List.find?_cons_of_neg help, List.find?_cons_of_pos prompt]
    exact .prompt help prompt
  by_cases message : Layer.message.isOn c
  · rw [List.find?_cons_of_neg help, List.find?_cons_of_neg prompt, List.find?_cons_of_pos message]
    exact .message help prompt message
  rw [List.find?_cons_of_neg help, List.find?_cons_of_neg prompt, List.find?_cons_of_neg message]
  have hmessage : c.message = none := by simpa [Layer.isOn] using message
  by_cases narrowing : Layer.narrowing.isOn c
  · rw [List.find?_cons_of_pos narrowing]
    exact .narrowing help prompt hmessage (by simpa [Layer.isOn] using narrowing)
  obtain ⟨hquery, hfilter⟩ : c.query = "" ∧ c.filter = .all := by
    simpa [Layer.isOn] using narrowing
  rw [List.find?_cons_of_neg narrowing]
  by_cases namespaceRoute : Layer.namespaceRoute.isOn c
  · rw [List.find?_cons_of_pos namespaceRoute]
    exact .namespaceRoute help prompt hmessage hquery hfilter
      (by simpa [Layer.isOn] using namespaceRoute)
  · rw [List.find?_cons_of_neg namespaceRoute, List.find?_nil]
    exact .nothing help prompt hmessage hquery hfilter
      (by simpa [Layer.isOn] using namespaceRoute)

theorem depth_le (c : Covers) : c.depth ≤ 5 := List.countP_le_length

theorem depth_without_lt {c : Covers} {layer : Layer} (h : c.top? = some layer) :
    (c.without layer).depth < c.depth := by
  have hon : layer ∈ Layer.order.filter (Layer.isOn c) :=
    List.mem_filter.mpr ⟨List.mem_of_find?_eq_some h, List.find?_some h⟩
  have hfewer : Layer.order.filter (Layer.isOn (c.without layer)) =
      (Layer.order.filter (Layer.isOn c)).filter (Layer.isOn (c.without layer)) := by
    rw [List.filter_filter]
    refine List.filter_congr fun other _ => ?_
    rw [Bool.eq_self_and]
    exact isOn_of_without
  rw [depth, depth, List.countP_eq_length_filter, List.countP_eq_length_filter, hfewer,
    List.length_filter_lt_length_iff_exists]
  exact ⟨layer, hon, by rw [isOn_without_self]; exact Bool.false_ne_true⟩

theorem depth_message_le (c : Covers) (message : Option StatusMessage) :
    ({ c with message } : Covers).depth ≤ c.depth + 1 := by
  simp only [depth, Layer.order, List.countP_cons, List.countP_nil, Layer.isOn]
  grind

end Covers

namespace Session

def covers (s : Session) : Covers where
  showsHelp := s.showsHelp
  searching := s.searching
  message := s.message
  query := s.dashboard.query
  filter := s.dashboard.filter
  route := s.dashboard.route

/-- The key alone. -/
def escapeKey : KeyPress := ⟨.escape, false⟩

theorem covers_navigate_all {s : Session} (now : Nat) (hsearching : ¬ s.searching)
    (hquery : s.dashboard.query = "") (hfilter : s.dashboard.filter = .all)
    (hroute : s.dashboard.route ≠ .all) :
    (s.navigate .all now).covers = s.covers.without .namespaceRoute := by
  have hleave : ¬ (.all = s.dashboard.route ∧ s.dashboard.phase ≠ .idle) :=
    fun h => hroute h.1.symm
  rw [navigate, Dashboard.navigate_eq, if_neg hleave, Dashboard.refresh_eq]
  simp [covers, selectFirst, Covers.without, Dashboard.moved, Dashboard.clear, hsearching, hquery,
    hfilter]

/-- Where neither help nor prompt nor message is, the list gets the key. -/
theorem press_escape_in_list {s : Session} (now : Nat) (hhelp : ¬ s.showsHelp)
    (hsearching : ¬ s.searching) (hmessage : s.message = none) :
    s.press escapeKey now = s.escape now := by
  have hsame : ({ s with message := none } : Session) = s := by rw [← hmessage]
  rw [press, if_neg (by simp [escapeKey]), if_neg hhelp, if_neg hsearching,
    if_neg (by simp [hmessage])]
  simp only [escapeKey, pressInList, reduceCtorEq, if_false, hsame]

theorem not_narrowed {s : Session} (hquery : s.dashboard.query = "")
    (hfilter : s.dashboard.filter = .all) :
    ¬ (s.dashboard.query ≠ "" ∨ s.dashboard.filter ≠ .all) :=
  not_or.mpr ⟨not_not_intro hquery, not_not_intro hfilter⟩

/-- What a press of Escape does under a topmost layer: it quits if there is none. -/
def Peeled (s : Session) (after : Session × Bool) : Option Layer → Prop
  | none => after.2 = true
  | some layer => after.2 = false ∧ after.1.covers = s.covers.without layer

theorem peeled_press (s : Session) (now : Nat) :
    s.Peeled (s.press escapeKey now) s.covers.top? := by
  have h := s.covers.topmost
  generalize s.covers.top? = top at h
  cases h with
  | help on =>
      rw [press, if_neg (by simp [escapeKey]), if_pos (show s.showsHelp from on)]
      exact ⟨rfl, rfl⟩
  | prompt help on =>
      rw [press, if_neg (by simp [escapeKey]), if_neg (show ¬ s.showsHelp from help),
        if_pos (show s.searching from on)]
      exact ⟨rfl, rfl⟩
  | message help prompt on =>
      rw [press, if_neg (by simp [escapeKey]), if_neg (show ¬ s.showsHelp from help),
        if_neg (show ¬ s.searching from prompt), if_pos ⟨on, rfl⟩]
      exact ⟨rfl, rfl⟩
  | narrowing help prompt message on =>
      rw [press_escape_in_list now help prompt message, escape,
        if_pos (show s.dashboard.query ≠ "" ∨ s.dashboard.filter ≠ .all from on)]
      exact ⟨rfl, rfl⟩
  | namespaceRoute help prompt message query filter on =>
      rw [press_escape_in_list now help prompt message, escape, if_neg (not_narrowed query filter)]
      cases hroute : s.dashboard.route with
      | all => exact absurd hroute on
      | only ns => exact ⟨rfl, covers_navigate_all now prompt query filter on⟩
  | nothing help prompt message query filter route =>
      have hroute : s.dashboard.route = .all := route
      rw [press_escape_in_list now help prompt message, escape, if_neg (not_narrowed query filter),
        hroute]
      rfl

theorem poll_narrowing (d : Dashboard) :
    d.poll.1.query = d.query ∧ d.poll.1.filter = d.filter ∧ d.poll.1.route = d.route := by
  cases harrived : d.arrived? with
  | none =>
      rw [Dashboard.poll_of_none harrived]
      exact ⟨rfl, rfl, rfl⟩
  | some found =>
      rw [Dashboard.poll_of_some harrived, Dashboard.complete_eq]
      split
      · cases found.2 <;> exact ⟨rfl, rfl, rfl⟩
      · exact ⟨rfl, rfl, rfl⟩

theorem covers_clampSelection (s : Session) : s.clampSelection.covers = s.covers := by
  obtain ⟨selected, offset, heq, -⟩ := s.clampSelection_eq
  rw [heq]
  rfl

/-- A poll covers nothing, but for the message of a fetch that failed. -/
theorem covers_poll (s : Session) :
    ∃ message, s.poll.1.covers = { s.covers with message } ∧
      (message = s.message ∨ (s.poll.2 && s.poll.1.dashboard.phase.isFailed) = true) := by
  have hcovers (message : Option StatusMessage) :
      ({ s with dashboard := s.dashboard.poll.1, message } : Session).covers =
        { s.covers with message } := by
    obtain ⟨hquery, hfilter, hroute⟩ := poll_narrowing s.dashboard
    simp only [covers, hquery, hfilter, hroute]
  rcases hpoll : s.dashboard.poll with ⟨d, changed⟩
  rw [hpoll] at hcovers
  cases changed with
  | false => exact ⟨s.message, by simp [poll, hpoll, ← hcovers], .inl rfl⟩
  | true =>
      cases hphase : d.phase with
      | failed e =>
          refine ⟨some ⟨"Refresh failed: " ++ e.message, true⟩, ?_, .inr ?_⟩
          · simp [poll, hpoll, hphase, say, covers_clampSelection, ← hcovers]
          · simp [poll, hpoll, hphase, say, clampSelection_same, Phase.isFailed]
      | _ =>
          refine ⟨s.message, ?_, .inl rfl⟩
          simp [poll, hpoll, hphase, covers_clampSelection, ← hcovers]

namespace Scene

/-- What goes on while the user presses nothing but Escape: looks for what a fetch brought, what is
done for fetches behind the screen, and the screen itself. -/
inductive Waits : Event → Prop
  | press (now : Nat) : Waits (.press escapeKey now)
  | poll : Waits .poll
  | take : Waits .take
  | track (generation : Nat) (task : TaskId) : Waits (.track generation task)
  | send (ticket : Ticket) (outcome : FetchOutcome) : Waits (.send ticket outcome)
  | drop (ticket : Ticket) : Waits (.drop ticket)
  | draw (width height : Nat) (now : Time.Instant) : Waits (.draw width height now)

/-- Is the event a poll that shows a fetch that failed? -/
def failsAt (k : Scene) : Event → Bool
  | .poll => k.session.poll.2 && k.session.poll.1.dashboard.phase.isFailed
  | _ => false

/-- How many polls of a run show a fetch that failed. -/
def failures (k : Scene) : List Event → Nat
  | [] => 0
  | e :: rest => (k.failsAt e).toNat + (k.step e).failures rest

def isPress : Event → Bool
  | .press .. => true
  | _ => false

def presses (events : List Event) : Nat := events.countP isPress

theorem presses_cons (e : Event) (events : List Event) :
    presses (e :: events) = presses events + (isPress e).toNat := by
  rw [presses, List.countP_cons, presses]
  cases isPress e <;> rfl

theorem covers_used {k : Scene} {ticket : Ticket} {d : Dashboard}
    (h : Dashboard.Used k.session.dashboard ticket d) :
    ({ k.session with dashboard := d } : Session).covers = k.session.covers := by
  obtain ⟨inFlight, rfl⟩ := h.eq
  rfl

theorem depth_poll (s : Session) :
    s.poll.1.covers.depth ≤
      s.covers.depth + (s.poll.2 && s.poll.1.dashboard.phase.isFailed).toNat := by
  obtain ⟨message, hcovers, hsame | hfailed⟩ := covers_poll s
  · rw [hcovers, hsame]
    exact Nat.le_add_right _ _
  · rw [hcovers, hfailed]
    exact Covers.depth_message_le s.covers message

/-- A press that does not quit leaves a layer less, and a failure at most one more. -/
theorem depth_step {k : Scene} {e : Event} (h : Waits e)
    (hstays : ∀ now, e = .press escapeKey now → k.session.covers.top? ≠ none) :
    (k.step e).session.covers.depth + (isPress e).toNat ≤
      k.session.covers.depth + (k.failsAt e).toNat := by
  cases h with
  | press now =>
      obtain ⟨layer, htop⟩ := Option.ne_none_iff_exists'.mp (hstays now rfl)
      have hpeeled := peeled_press k.session now
      rw [htop] at hpeeled
      change (k.session.press escapeKey now).1.covers.depth < _
      rw [hpeeled.2]
      exact Covers.depth_without_lt htop
  | poll => exact depth_poll k.session
  | take | draw => exact Nat.le_refl _
  | track generation task =>
      obtain ⟨aborted, heq⟩ := Dashboard.track_eq k.session.dashboard generation task
      simp only [step, enter, heq]
      exact Nat.le_refl _
  | send ticket outcome =>
      by_cases out : ticket ∈ k.taken
      · simp only [step, if_pos out, covers_used (.sent outcome)]
        exact Nat.le_refl _
      · simp only [step, if_neg out]
        exact Nat.le_refl _
  | drop ticket =>
      by_cases out : ticket ∈ k.taken
      · simp only [step, if_pos out, covers_used .dropped]
        exact Nat.le_refl _
      · simp only [step, if_neg out]
        exact Nat.le_refl _

/-- With more presses than there are layers and failures, one of them quits, and early enough. -/
theorem quits_of_presses {k : Scene} {rest : List Event} (hwaits : ∀ e ∈ rest, Waits e)
    (henough : k.session.covers.depth + k.failures rest < presses rest) :
    ∃ before now later, rest = before ++ .press escapeKey now :: later ∧
      ((k.run before).session.press escapeKey now).2 = true ∧
      presses before ≤ k.session.covers.depth + k.failures before := by
  induction rest generalizing k with
  | nil => exact absurd henough (Nat.not_lt_zero _)
  | cons e rest ih =>
      obtain ⟨hwait, hwaits⟩ := List.forall_mem_cons.mp hwaits
      -- Either this press quits, or the layers and the failures to come pay for the event.
      by_cases hquits : ∃ now, e = .press escapeKey now ∧ k.session.covers.top? = none
      · obtain ⟨now, rfl, htop⟩ := hquits
        have hpeeled := peeled_press k.session now
        rw [htop] at hpeeled
        exact ⟨[], now, rest, rfl, hpeeled, Nat.zero_le _⟩
      · have hstep := depth_step hwait fun now he htop => hquits ⟨now, he, htop⟩
        rw [presses_cons, failures] at henough
        obtain ⟨before, now, later, rfl, hquit, hbefore⟩ := ih (k := k.step e) hwaits (by omega)
        refine ⟨e :: before, now, later, rfl, hquit, ?_⟩
        rw [presses_cons, failures]
        omega

/-- The way out from a scene, while nothing happens but what the user waits for. -/
structure WayOut (k : Scene) (rest : List Event) : Prop where
  /-- A press quits when nothing lies over the list, and only then. -/
  quits_iff : ∀ before now later, rest = before ++ .press escapeKey now :: later →
    let s := (k.run before).session
    (s.press escapeKey now).2 = true ↔ ∀ layer : Layer, layer.isOn s.covers = false
  /-- Any other press takes the topmost layer away and leaves the others, except that the query
  goes with the prompt. -/
  peels : ∀ before now later, rest = before ++ .press escapeKey now :: later →
    let s := (k.run before).session
    let s' := (s.press escapeKey now).1
    ∀ layer, s.covers.top? = some layer →
      s'.covers = s.covers.without layer ∧ layer.isOn s'.covers = false ∧
        ∀ other, other ≠ layer →
          ¬ (layer = .prompt ∧ other = .narrowing ∧ s.dashboard.filter = .all) →
          other.isOn s'.covers = other.isOn s.covers
  /-- Six presses, and one more for every failure, are enough to quit. -/
  quits : 6 + k.failures rest ≤ presses rest →
    ∃ before now later, rest = before ++ .press escapeKey now :: later ∧
      ((k.run before).session.press escapeKey now).2 = true ∧
      presses before + 1 ≤ 6 + k.failures before

theorem escape_leads_out (k : Scene) (rest : List Event) (hwaits : ∀ e ∈ rest, Waits e) :
    WayOut k rest := by
  refine ⟨?_, ?_, fun henough => ?_⟩
  · intro before now later _ s
    have hpeeled := peeled_press s now
    rw [← Covers.top?_eq_none_iff]
    cases htop : s.covers.top? with
    | none =>
        rw [htop] at hpeeled
        exact ⟨fun _ => rfl, fun _ => hpeeled⟩
    | some layer =>
        rw [htop] at hpeeled
        simp only [hpeeled.1, Bool.false_eq_true, reduceCtorEq]
  · intro before now later _ s s' layer htop
    have hpeeled := peeled_press s now
    rw [htop] at hpeeled
    have hcovers : s'.covers = s.covers.without layer := hpeeled.2
    rw [hcovers]
    exact ⟨rfl, Covers.isOn_without_self _ _, fun other hne h => Covers.isOn_without hne h⟩
  · have hdepth := k.session.covers.depth_le
    obtain ⟨before, now, later, heq, hquit, hbefore⟩ :=
      quits_of_presses (k := k) hwaits (by omega)
    exact ⟨before, now, later, heq, hquit, by omega⟩

/-- Seven presses are enough where the help is shown over a narrowed list of one namespace, the
fetch for which fails. -/
theorem escape_leads_out_failing :
    let k := after (.only "a") Search.defaultThreshold "" false none
      [.take, .press ⟨.char '/', false⟩ 1, .press ⟨.char 'x', false⟩ 2, .press ⟨.enter, false⟩ 3,
        .press ⟨.char 'o', false⟩ 4, .press ⟨.char '?', false⟩ 5, .drop ⟨1, .only "a"⟩]
    ∃ before now later,
      .poll :: List.replicate 7 (.press escapeKey 6) = before ++ .press escapeKey now :: later ∧
        ((k.run before).session.press escapeKey now).2 = true ∧
        presses before + 1 ≤ 6 + k.failures before := by
  intro k
  have hwaits : ∀ e ∈ Event.poll :: List.replicate 7 (.press escapeKey 6), Waits e := by
    intro e he
    rcases List.mem_cons.mp he with rfl | he
    · exact .poll
    · rw [List.eq_of_mem_replicate he]
      exact .press 6
  exact (escape_leads_out k _ hwaits).quits (by decide +kernel)

end Scene

end Session

end WaybillBoard
