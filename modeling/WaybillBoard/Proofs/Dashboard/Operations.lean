import WaybillBoard.Dashboard.Fetching

/-!
What the operations on a dashboard do, each said once and in closed form. The other modules use
these equations and leave the definitions alone.
-/

namespace WaybillBoard

/-- What a look into the mailbox finds. A ticket that is gone leaves an error. -/
def Mailbox.outcome? : Mailbox → Option FetchOutcome
  | .empty => none
  | .delivered outcome => some outcome
  | .abandoned => some (.error (.network "fetch ended without a result"))

/-- With a task registered, if it works for this fetch. -/
def InFlight.register (f : InFlight) (generation : Nat) (task : TaskId) : InFlight :=
  if f.generation = generation then { f with task := some task } else f

@[simp] theorem InFlight.register_generation (f : InFlight) (generation : Nat) (task : TaskId) :
    (f.register generation task).generation = f.generation := by
  unfold register
  split <;> rfl

@[simp] theorem InFlight.register_mailbox (f : InFlight) (generation : Nat) (task : TaskId) :
    (f.register generation task).mailbox = f.mailbox := by
  unfold register
  split <;> rfl

namespace Dashboard

/-- The outcome that has arrived, with the generation that it answers. -/
def arrived? (d : Dashboard) : Option (Nat × FetchOutcome) :=
  d.inFlight.bind fun f => f.mailbox.outcome?.map (Prod.mk f.generation)

/-- The mailbox of a generation is there and takes mail. -/
def Expects (d : Dashboard) (generation : Nat) : Prop :=
  ∃ f, d.inFlight = some f ∧ f.mailbox = .empty ∧ f.generation = generation

/-- With mail in the box that is waited at. -/
def mailed (d : Dashboard) (mail : Mailbox) : Dashboard :=
  { d with inFlight := d.inFlight.map fun f => { f with mailbox := mail } }

/-- With an outcome taken. -/
def settled (d : Dashboard) : FetchOutcome → Dashboard
  | .ok s => { d with inFlight := none }.display s
  | .error e => { { d with inFlight := none }.clear with phase := .failed e }

/-- On another route, before that is asked for. -/
def moved (d : Dashboard) (route : Route) : Dashboard :=
  { d.clear with route, query := "", filter := .all, expansion := [] }

/-- The tasks that are aborted when the fetch in flight is given up. -/
def givenUp (d : Dashboard) : List TaskId := (d.inFlight.bind InFlight.task).toList

@[simp] theorem settled_inFlight (d : Dashboard) (outcome : FetchOutcome) :
    (d.settled outcome).inFlight = none := by cases outcome <;> rfl

@[simp] theorem settled_generation (d : Dashboard) (outcome : FetchOutcome) :
    (d.settled outcome).generation = d.generation := by cases outcome <;> rfl

@[simp] theorem settled_route (d : Dashboard) (outcome : FetchOutcome) :
    (d.settled outcome).route = d.route := by cases outcome <;> rfl

theorem settled_phase_ne_loading (d : Dashboard) (outcome : FetchOutcome) :
    (d.settled outcome).phase ≠ .loading := by cases outcome <;> exact Phase.noConfusion

theorem generation_of_moved {d d' : Dashboard} (h : d' = d ∨ ∃ route, d' = d.moved route) :
    d'.generation = d.generation := by
  rcases h with rfl | ⟨route, rfl⟩ <;> rfl

theorem giveUp_eq (d : Dashboard) :
    d.giveUp = { d with inFlight := none, aborted := d.givenUp ++ d.aborted } := by
  cases h : d.inFlight with
  | none => cases d; simp_all [giveUp, givenUp]
  | some f => simp only [giveUp, givenUp, h, Option.bind_some]

theorem refresh_eq (d : Dashboard) :
    d.refresh =
      ({ d with
          generation := d.generation + 1
          inFlight := some { generation := d.generation + 1 }
          phase := .loading
          aborted := d.givenUp ++ d.aborted },
        ⟨d.generation + 1, d.route.scope⟩) := by
  simp only [refresh, giveUp_eq]

theorem navigate_eq (d : Dashboard) (route : Route) :
    d.navigate route =
      if route = d.route ∧ d.phase ≠ .idle then (d, none)
      else ((d.moved route).refresh.1, some (d.moved route).refresh.2) := rfl

theorem unmount_eq (d : Dashboard) :
    d.unmount =
      { d.clear with
        generation := d.generation + 1
        inFlight := none
        phase := .idle
        aborted := d.givenUp ++ d.aborted } := by
  simp only [unmount, giveUp_eq, clear]

theorem complete_eq (d : Dashboard) (generation : Nat) (outcome : FetchOutcome) :
    d.complete generation outcome =
      if generation = d.generation ∧ d.phase = .loading then (d.settled outcome, true)
      else (d, false) := by
  have hloading : d.phase.isLoading = true ↔ d.phase = .loading := by
    cases d.phase <;> simp [Phase.isLoading]
  by_cases h : generation = d.generation ∧ d.phase = .loading
  · rw [if_pos h, complete, if_neg (by simp [h.1, hloading.mpr h.2])]
    cases outcome <;> rfl
  · rw [if_neg h, complete, if_pos]
    by_cases hg : generation = d.generation
    · exact .inr (by simpa using fun hl => h ⟨hg, hloading.mp hl⟩)
    · exact .inl hg

theorem setAllExpanded_eq (d : Dashboard) (expanded : Bool) :
    ∃ expansion, d.setAllExpanded expanded = { d with expansion } := by
  unfold setAllExpanded
  split
  · exact ⟨d.expansion, rfl⟩
  · exact ⟨_, rfl⟩

theorem track_eq (d : Dashboard) (generation : Nat) (task : TaskId) :
    ∃ aborted, d.track generation task =
      { d with inFlight := d.inFlight.map (·.register generation task), aborted } := by
  cases h : d.inFlight with
  | none => exact ⟨task :: d.aborted, by cases d; simp_all [track]⟩
  | some f =>
      by_cases hg : f.generation = generation
      · exact ⟨d.aborted, by simp [track, h, InFlight.register, hg]⟩
      · exact ⟨task :: d.aborted, by simp [track, h, InFlight.register, hg]⟩

theorem arrived_track (d : Dashboard) (generation : Nat) (task : TaskId) :
    (d.track generation task).arrived? = d.arrived? := by
  obtain ⟨aborted, heq⟩ := track_eq d generation task
  have hsame (f : InFlight) : (f.register generation task).mailbox.outcome?.map
      (Prod.mk (f.register generation task).generation) =
        f.mailbox.outcome?.map (Prod.mk f.generation) := by
    rw [InFlight.register_generation, InFlight.register_mailbox]
  rw [heq, arrived?, arrived?, Option.bind_map]
  exact congrArg d.inFlight.bind (funext hsame)

theorem arrived_setAllExpanded (d : Dashboard) (expanded : Bool) :
    (d.setAllExpanded expanded).arrived? = d.arrived? := by
  obtain ⟨expansion, heq⟩ := setAllExpanded_eq d expanded
  rw [heq]
  rfl

theorem poll_of_none {d : Dashboard} (h : d.arrived? = none) : d.poll = (d, false) := by
  unfold arrived? at h
  unfold poll
  cases hf : d.inFlight with
  | none => rfl
  | some f =>
      cases hm : f.mailbox <;> simp_all [Mailbox.outcome?]

theorem poll_of_some {d : Dashboard} {generation : Nat} {outcome : FetchOutcome}
    (h : d.arrived? = some (generation, outcome)) :
    d.poll = { d with inFlight := none }.complete generation outcome := by
  unfold arrived? at h
  unfold poll
  cases hf : d.inFlight with
  | none => simp [hf] at h
  | some f =>
      cases hm : f.mailbox <;> simp_all [Mailbox.outcome?]

theorem deliver_of_expects {d : Dashboard} {generation : Nat} (h : d.Expects generation)
    (outcome : FetchOutcome) :
    d.deliver generation outcome = (d.mailed (.delivered outcome), true) := by
  obtain ⟨⟨g, mailbox, task⟩, hf, rfl, rfl⟩ := h
  simp [deliver, mailed, hf]

theorem deliver_of_not_expects {d : Dashboard} {generation : Nat} (h : ¬ d.Expects generation)
    (outcome : FetchOutcome) : d.deliver generation outcome = (d, false) := by
  unfold deliver
  split
  · next g task hf => rw [if_neg fun hg => h ⟨_, hf, rfl, hg⟩]
  · rfl

theorem abandon_of_expects {d : Dashboard} {generation : Nat} (h : d.Expects generation) :
    d.abandon generation = d.mailed .abandoned := by
  obtain ⟨⟨g, mailbox, task⟩, hf, rfl, rfl⟩ := h
  simp [abandon, mailed, hf]

theorem abandon_of_not_expects {d : Dashboard} {generation : Nat} (h : ¬ d.Expects generation) :
    d.abandon generation = d := by
  unfold abandon
  split
  · next g task hf => rw [if_neg fun hg => h ⟨_, hf, rfl, hg⟩]
  · rfl

/-- What the use of a ticket can make of a dashboard. -/
inductive Used (d : Dashboard) (ticket : Ticket) : Dashboard → Prop
  | sent (outcome : FetchOutcome) : Used d ticket (d.deliver ticket.generation outcome).1
  | dropped : Used d ticket (d.abandon ticket.generation)

/-- A ticket reaches nothing but the mailbox. -/
theorem Used.eq {d d' : Dashboard} {ticket : Ticket} (h : Used d ticket d') :
    ∃ inFlight, d' = { d with inFlight } := by
  by_cases hbox : d.Expects ticket.generation
  · cases h with
    | sent outcome =>
        rw [deliver_of_expects hbox]
        exact ⟨_, rfl⟩
    | dropped =>
        rw [abandon_of_expects hbox]
        exact ⟨_, rfl⟩
  · refine ⟨d.inFlight, ?_⟩
    cases h with
    | sent outcome => rw [deliver_of_not_expects hbox]
    | dropped => rw [abandon_of_not_expects hbox]

end Dashboard

end WaybillBoard
