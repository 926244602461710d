import WaybillBoard.Proofs.Dashboard.Linked
import WaybillBoard.Proofs.Session.Effects

/-!
A run of a session is a run of its dashboard: what happens around the session happens around the
dashboard, where the tickets that are out are those in the queue and those that were taken from it.
What holds of every run of a dashboard holds of the dashboard of every session.
-/

namespace WaybillBoard

namespace Dashboard

theorem not_expects_refresh {d : Dashboard} {generation : Nat} (h : generation ≤ d.generation) :
    ¬ d.refresh.1.Expects generation := by
  rw [refresh_eq]
  rintro ⟨f, hf, -, rfl⟩
  cases hf
  exact Nat.not_succ_le_self _ h

theorem not_expects_unmount (d : Dashboard) (generation : Nat) : ¬ d.unmount.Expects generation := by
  rw [unmount_eq]
  rintro ⟨f, hf, -⟩
  cases hf

end Dashboard

namespace Session

open Dashboard (Used)

namespace Scene

/-- What an event can do to a scene. -/
inductive Happening (k : Scene) : Scene → Prop
  | nothing : Happening k k
  | entered {s : Session} (h : Effect k.session s) : Happening k (k.enter s)
  | taken : Happening k
      { k with
        session := k.session.take.1
        taken := k.session.queued.toList ++ k.taken }
  | used {ticket : Ticket} {d : Dashboard} (out : ticket ∈ k.taken)
      (h : Used k.session.dashboard ticket d) : Happening k
      { session := { k.session with dashboard := d }
        taken := k.taken.erase ticket
        spent := ticket :: k.spent }

theorem happening_step (k : Scene) (e : Event) : Happening k (k.step e) := by
  cases e with
  | press p now => exact .entered (effect_press k.session p now)
  | turnWheel w => exact .entered (effect_turnWheel k.session w)
  | say | expire | draw => exact .entered ⟨.nothing, id⟩
  | take => exact .taken
  | track generation task => exact .entered (effect_track k.session generation task)
  | refresh now => exact .entered (effect_refresh k.session now)
  | navigate route now => exact .entered (effect_navigate k.session route now)
  | poll => exact .entered (effect_poll k.session)
  | tick now => exact .entered (effect_tick k.session now)
  | unmount => exact .entered (effect_unmount k.session)
  | send ticket outcome =>
      rw [step]
      by_cases out : ticket ∈ k.taken
      · rw [if_pos out]
        exact .used out (.sent outcome)
      · rw [if_neg out]
        exact .nothing
  | drop ticket =>
      rw [step]
      by_cases out : ticket ∈ k.taken
      · rw [if_pos out]
        exact .used out .dropped
      · rw [if_neg out]
        exact .nothing

/-- A scene of the dashboard alone, where the same tickets are out. -/
structure Behind (K : Dashboard.Scene) (k : Scene) : Prop where
  dashboard_eq : K.dashboard = k.session.dashboard
  held_eq : K.held = k.session.queued.toList ++ k.taken

/-- A ticket for which no box waits can be dropped, and nothing else changes. -/
theorem discard {K : Dashboard.Scene} (hK : K.Linked) (new : Option Ticket) {old : Option Ticket}
    {taken : List Ticket} (hheld : K.held = new.toList ++ (old.toList ++ taken))
    (hstale : ∀ t ∈ old, ¬ K.dashboard.Expects t.generation) :
    ∃ events, (K.run events).dashboard = K.dashboard ∧ (K.run events).held = new.toList ++ taken := by
  cases old with
  | none => exact ⟨[], rfl, hheld⟩
  | some t =>
      have hout : t ∈ K.held := by simp [hheld]
      have hnew : t ∉ new.toList := fun hmem =>
        List.disjoint_of_nodup_append (hheld ▸ hK.held_nodup.of_map) hmem (by simp)
      refine ⟨[.drop t], ?_⟩
      rw [Dashboard.Scene.run_singleton, Dashboard.Scene.step, if_pos hout, hheld,
        List.erase_append_right _ hnew]
      exact ⟨Dashboard.abandon_of_not_expects (hstale t rfl), by simp⟩

/-- Another ticket takes the place of the one that was queued. -/
theorem follow_request {K : Dashboard.Scene} (hK : K.Linked) {queued : Option Ticket}
    {taken : List Ticket} (hheld : K.held = queued.toList ++ taken) {e : Dashboard.Event}
    {d : Dashboard} (hd : d = K.dashboard ∨ ∃ route, d = K.dashboard.moved route)
    (he : K.step e = K.issue d.refresh) :
    ∃ events, (K.run events).dashboard = d.refresh.1 ∧
      (K.run events).held = (some d.refresh.2).toList ++ taken := by
  have hstale : ∀ t ∈ queued, ¬ (K.step e).dashboard.Expects t.generation := by
    intro t ht
    rw [he]
    refine Dashboard.not_expects_refresh ?_
    rw [Dashboard.generation_of_moved hd]
    refine hK.held_le t ?_
    rw [hheld, Option.mem_def.mp ht]
    exact List.mem_append_left _ (List.mem_singleton_self t)
  have hissued : (K.step e).held = (some d.refresh.2).toList ++ (queued.toList ++ taken) := by
    rw [he, ← hheld]
    rfl
  obtain ⟨events, hdashboard, hrest⟩ := discard (hK.effect (Dashboard.Scene.effect_step hK e))
    (some d.refresh.2) hissued hstale
  refine ⟨e :: events, ?_, hrest⟩
  rw [Dashboard.Scene.run_cons, hdashboard, he]
  rfl

theorem follow {K : Dashboard.Scene} (hK : K.Linked) {queued queued' : Option Ticket}
    {taken : List Ticket} {d' : Dashboard} (hheld : K.held = queued.toList ++ taken)
    (h : Change K.dashboard queued d' queued') :
    ∃ events, (K.run events).dashboard = d' ∧ (K.run events).held = queued'.toList ++ taken := by
  cases h with
  | nothing => exact ⟨[], rfl, hheld⟩
  | narrowed query filter => exact ⟨[.setQuery query, .setFilter filter], rfl, hheld⟩
  | toggled ns => exact ⟨[.toggle ns], rfl, hheld⟩
  | tracked generation task => exact ⟨[.track generation task], rfl, hheld⟩
  | asked => exact follow_request hK hheld (e := .refresh) (.inl rfl) rfl
  | moved hstay =>
      rename_i route
      refine follow_request hK hheld (e := .navigate route) (.inr ⟨route, rfl⟩) ?_
      rw [Dashboard.Scene.step, Dashboard.navigate_eq, if_neg hstay]
  | polled =>
      refine ⟨[.poll], ?_⟩
      rw [Dashboard.Scene.run_singleton, Dashboard.Scene.step]
      split
      · exact ⟨rfl, hheld⟩
      · exact ⟨rfl, hheld⟩
  | unmounted =>
      obtain ⟨events, hdashboard, hrest⟩ := discard (K := K.step .unmount) (hK.effect .unmounted)
        none hheld fun t _ => Dashboard.not_expects_unmount _ _
      exact ⟨.unmount :: events, hdashboard, hrest⟩

theorem Behind.happening {K : Dashboard.Scene} {k k' : Scene} (hK : K.Linked) (h : Behind K k)
    (e : Happening k k') : ∃ events, Behind (K.run events) k' := by
  cases e with
  | nothing => exact ⟨[], h⟩
  | entered he =>
      obtain ⟨events, hdashboard, hheld⟩ := follow hK h.held_eq (h.dashboard_eq ▸ he.change)
      exact ⟨events, hdashboard, hheld⟩
  | taken => exact ⟨[], h.dashboard_eq, h.held_eq⟩
  | used out hd =>
      rename_i ticket d
      have hout : ticket ∈ K.held := by
        rw [h.held_eq]
        exact List.mem_append_right _ out
      have hqueued : ticket ∉ k.session.queued.toList := fun hmem =>
        List.disjoint_of_nodup_append (h.held_eq ▸ hK.held_nodup.of_map) hmem out
      have herase : K.held.erase ticket = k.session.queued.toList ++ k.taken.erase ticket := by
        rw [h.held_eq, List.erase_append_right _ hqueued]
      cases hd with
      | sent outcome =>
          refine ⟨[.send ticket outcome], ?_⟩
          rw [Dashboard.Scene.run_singleton, Dashboard.Scene.step, if_pos hout, h.dashboard_eq]
          exact ⟨rfl, herase⟩
      | dropped =>
          refine ⟨[.drop ticket], ?_⟩
          rw [Dashboard.Scene.run_singleton, Dashboard.Scene.step, if_pos hout, h.dashboard_eq]
          exact ⟨rfl, herase⟩

/-- What holds of a new session and survives whatever can happen holds after every run, and its
dashboard has made a run of its own. -/
theorem run_induction {P : Scene → Prop}
    (keep : ∀ {K k k'}, K.Linked → Behind K k → P k → Happening k k' → P k')
    {K : Dashboard.Scene} {k : Scene} (hK : K.Linked) (h : Behind K k) (hP : P k)
    (events : List Event) : P (k.run events) ∧ ∃ events', Behind (K.run events') (k.run events) := by
  induction events generalizing K k with
  | nil => exact ⟨hP, [], h⟩
  | cons e events ih =>
      have he := happening_step k e
      obtain ⟨first, hfirst⟩ := h.happening hK he
      obtain ⟨hlast, rest, hrest⟩ := ih (hK.run first) hfirst (keep hK h hP he)
      refine ⟨hlast, first ++ rest, ?_⟩
      rw [Dashboard.Scene.run_append]
      exact hrest

theorem behind_start (route : Route) (threshold : Binary64) (label : String) (noIcons : Bool)
    (interval : Option Time.Period) :
    Behind (Dashboard.Scene.after route threshold [.refresh])
      (start route threshold label noIcons interval) := ⟨rfl, rfl⟩

theorem after_induction {P : Scene → Prop}
    (keep : ∀ {K k k'}, K.Linked → Behind K k → P k → Happening k k' → P k') {route : Route}
    {threshold : Binary64} {label : String} {noIcons : Bool} {interval : Option Time.Period}
    (hP : P (start route threshold label noIcons interval)) (events : List Event) :
    let k := after route threshold label noIcons interval events
    P k ∧ ∃ events', Behind (Dashboard.Scene.after route threshold events') k := by
  obtain ⟨hlast, rest, hrest⟩ := run_induction keep
    (Dashboard.Scene.linked_after route threshold [.refresh])
    (behind_start route threshold label noIcons interval) hP events
  refine ⟨hlast, .refresh :: rest, ?_⟩
  rwa [Dashboard.Scene.after, ← Dashboard.Scene.run_append] at hrest

end Scene

end Session

end WaybillBoard
