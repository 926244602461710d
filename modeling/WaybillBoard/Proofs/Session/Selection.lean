import WaybillBoard.Proofs.Board.Highlight
import WaybillBoard.Proofs.Dashboard.Expansion
import WaybillBoard.Proofs.Session.Underlying

/-!
The selection. Whatever happens it is on a row as long as there is one; that row alone is
highlighted, and the keys for a row act on its Waybill or on nothing.
-/

namespace WaybillBoard

/-- The keys that act on the selected row. -/
def Key.ActsOnRow (key : Key) : Prop := key = .enter ∨ key = .tab ∨ key = .char ' '

namespace Session

open Board (Highlighted HighlightedAt linesBefore summaryLine waybillList)

theorem onRow_happening {k k' : Scene} (h : k.session.OnRow) (e : k.Happening k') :
    k'.session.OnRow := by
  cases e with
  | nothing => exact h
  | entered he => exact he.onRow h
  | taken => exact h
  | used out hd =>
      obtain ⟨inFlight, rfl⟩ := hd.eq
      exact h

theorem OnRow.selected_isSome_iff {s : Session} (h : s.OnRow) :
    s.selectedWaybill?.isSome ↔ s.dashboard.visible ≠ [] := by
  rw [selectedWaybill?, Option.isSome_iff_ne_none, ne_eq, List.getElem?_eq_none_iff, Nat.not_le]
  constructor
  · exact fun hlt => List.length_pos_iff.mp (Nat.zero_lt_of_lt hlt)
  · exact h

/-- The panel of the selected Waybill is in its place among the others. -/
theorem row_of_selected {s : Session} {w : Waybill} (h : s.selectedWaybill? = some w)
    (now : Time.Instant) : ∃ url, (s.dashboard.rows now)[s.selected]? =
      some (Panel.of w (s.dashboard.isExpanded w.namespaceName) url now) := by
  cases hs : s.dashboard.snapshot with
  | none => simp [selectedWaybill?, Dashboard.visible, hs] at h
  | some shown =>
      refine ⟨shown.diffUrlFormat, ?_⟩
      rw [selectedWaybill?] at h
      simp only [Dashboard.rows, hs, List.getElem?_map, h, Option.map_some]

section Keys

variable {s : Session} {p : KeyPress} (hkey : p.key.ActsOnRow) (now : Nat)
include hkey

/-- The help takes any key, and the prompt takes these for the search. -/
theorem press_covered (h : s.showsHelp = true ∨ s.searching = true) :
    let d := (s.press p now).1.dashboard
    (s.press p now).2 = false ∧ d.route = s.dashboard.route ∧
      d.expansion = s.dashboard.expansion ∧ d.generation = s.dashboard.generation := by
  obtain ⟨key, control⟩ := p
  cases hhelp : s.showsHelp with
  | true => rcases hkey with rfl | rfl | rfl <;> simp [press, hhelp]
  | false =>
      have hsearching : s.searching = true := h.resolve_left (by simp [hhelp])
      rcases hkey with rfl | rfl | rfl <;>
        simp [press, hhelp, hsearching, pressInPrompt, search, selectFirst, Dashboard.setQuery,
          Dashboard.updateVisible]

/-- In the list the keys open or toggle the selected Waybill. The message goes in either case. -/
theorem press_row (hhelp : s.showsHelp = false) (hsearching : s.searching = false) :
    s.press p now =
      (if p.key = .enter ∧ s.dashboard.mode = .list then
        ({ s with message := none } : Session).openSelected now
      else ({ s with message := none } : Session).toggleSelected, false) := by
  obtain ⟨key, control⟩ := p
  rcases hkey with rfl | rfl | rfl
  · cases hmode : s.dashboard.mode <;> simp [press, hhelp, hsearching, pressInList, hmode]
  · simp [press, hhelp, hsearching, pressInList]
  · simp [press, hhelp, hsearching, pressInList]

theorem press_goes_on : (s.press p now).2 = false := by
  by_cases hcovered : s.showsHelp = true ∨ s.searching = true
  · exact (press_covered hkey now hcovered).1
  · simp only [not_or, Bool.not_eq_true] at hcovered
    rw [press_row hkey now hcovered.1 hcovered.2]

theorem press_nothing (hhelp : s.showsHelp = false) (hsearching : s.searching = false)
    (hnone : s.selectedWaybill? = none) : (s.press p now).1 = { s with message := none } := by
  have hnone' : ({ s with message := none } : Session).selectedWaybill? = none := hnone
  rw [press_row hkey now hhelp hsearching]
  simp only [openSelected, toggleSelected, hnone', ite_self]

theorem press_toggles (hhelp : s.showsHelp = false) (hsearching : s.searching = false) {w : Waybill}
    (hw : s.selectedWaybill? = some w) (hmode : ¬ (p.key = .enter ∧ s.dashboard.mode = .list)) :
    (s.press p now).1 =
      { s with message := none, dashboard := s.dashboard.toggle w.namespaceName } := by
  have hw' : ({ s with message := none } : Session).selectedWaybill? = some w := hw
  rw [press_row hkey now hhelp hsearching, if_neg hmode]
  simp only [toggleSelected, hw']

end Keys

theorem press_opens {s : Session} {p : KeyPress} (hkey : p.key = .enter) (now : Nat)
    (hhelp : s.showsHelp = false) (hsearching : s.searching = false) {w : Waybill}
    (hw : s.selectedWaybill? = some w) (hmode : s.dashboard.mode = .list) :
    let s' := (s.press p now).1
    s'.dashboard.route = .only w.namespaceName ∧
      s'.queued = some ⟨s.dashboard.generation + 1, .only w.namespaceName⟩ := by
  have hw' : ({ s with message := none } : Session).selectedWaybill? = some w := hw
  have hleave : ¬ (.only w.namespaceName = s.dashboard.route ∧ s.dashboard.phase ≠ .idle) := by
    rintro ⟨hroute, -⟩
    rw [Dashboard.mode, ← hroute] at hmode
    cases hmode
  rw [press_row (.inl hkey) now hhelp hsearching, if_pos ⟨hkey, hmode⟩]
  simp only [openSelected, hw', navigate, Dashboard.navigate_eq, if_neg hleave,
    Dashboard.refresh_eq]
  exact ⟨rfl, rfl⟩

/-- The selection of a session, how it is drawn, and what the keys for a row do. -/
structure SelectionOnRow (s : Session) : Prop where
  selected_lt : s.dashboard.visible ≠ [] → s.selected < s.dashboard.visible.length
  isSome_iff : s.selectedWaybill?.isSome ↔ s.dashboard.visible ≠ []
  /-- In a list of any height, the line that sums up the selected Waybill is highlighted and no
  other line is. -/
  highlighted : ∀ w, s.selectedWaybill? = some w → ∀ height now, ∃ url,
    let rows := s.dashboard.rows now
    let panel := Panel.of w (s.dashboard.isExpanded w.namespaceName) url now
    rows[s.selected]? = some panel ∧
      HighlightedAt (waybillList s.dashboard s.selected s.offset height now s.noIcons).1.lines
        (linesBefore rows s.selected) (summaryLine panel true s.noIcons)
  none_highlighted : s.dashboard.visible = [] → ∀ height now,
    ∀ l ∈ (waybillList s.dashboard s.selected s.offset height now s.noIcons).1.lines,
      ¬ Highlighted l
  goes_on : ∀ p now, p.key.ActsOnRow → (s.press p now).2 = false
  covered : ∀ p now, p.key.ActsOnRow → s.showsHelp = true ∨ s.searching = true →
    let d := (s.press p now).1.dashboard
    d.route = s.dashboard.route ∧ d.expansion = s.dashboard.expansion ∧
      d.generation = s.dashboard.generation
  nothing : ∀ p now, p.key.ActsOnRow → s.showsHelp = false → s.searching = false →
    s.dashboard.visible = [] → (s.press p now).1 = { s with message := none }
  opens : ∀ p now, p.key = .enter → s.showsHelp = false → s.searching = false →
    s.dashboard.mode = .list → ∀ w, s.selectedWaybill? = some w →
      (s.press p now).1.dashboard.route = .only w.namespaceName ∧
        (s.press p now).1.queued = some ⟨s.dashboard.generation + 1, .only w.namespaceName⟩
  toggles : ∀ p now, p.key.ActsOnRow → s.showsHelp = false → s.searching = false →
    ¬ (p.key = .enter ∧ s.dashboard.mode = .list) → ∀ w, s.selectedWaybill? = some w →
      ∃ expansion,
        (s.press p now).1 =
          { s with message := none, dashboard := { s.dashboard with expansion } } ∧
        ∀ ns, (s.press p now).1.dashboard.isExpanded ns =
          if ns = w.namespaceName then !s.dashboard.isExpanded ns else s.dashboard.isExpanded ns

theorem selection_on_row (route : Route) (threshold : Binary64) (label : String) (noIcons : Bool)
    (interval : Option Time.Period) (events : List Event) :
    SelectionOnRow (Scene.after route threshold label noIcons interval events).session := by
  obtain ⟨h, events', hbehind⟩ := Scene.after_induction (P := fun k => k.session.OnRow)
    (fun _ _ h e => onRow_happening h e)
    (onRow_of_first (s := .start route threshold label noIcons interval) rfl) events
  have hderived := Dashboard.Scene.derived_after route threshold events'
  rw [hbehind.dashboard_eq] at hderived
  generalize (Scene.after route threshold label noIcons interval events).session = s at h hderived
  refine ⟨h, h.selected_isSome_iff, ?_, ?_, ?_, ?_, ?_, ?_, ?_⟩
  · intro w hw height now
    obtain ⟨url, hrow⟩ := row_of_selected hw now
    exact ⟨url, hrow, Board.highlightedAt_waybillList hderived hrow _ _ _⟩
  · exact fun hempty _ _ => Board.not_highlighted_waybillList hderived hempty
  · exact fun p now hkey => press_goes_on hkey now
  · exact fun p now hkey hcovered => (press_covered hkey now hcovered).2
  · intro p now hkey hhelp hsearching hempty
    refine press_nothing hkey now hhelp hsearching ?_
    rw [← Option.not_isSome_iff_eq_none, h.selected_isSome_iff]
    exact not_not.mpr hempty
  · exact fun p now hkey hhelp hsearching hmode w hw =>
      press_opens hkey now hhelp hsearching hw hmode
  · intro p now hkey hhelp hsearching hmode w hw
    have hpress := press_toggles hkey now hhelp hsearching hw hmode
    refine ⟨_, hpress, fun ns => ?_⟩
    rw [hpress, Dashboard.isExpanded_toggle]
    split
    · next hns => rw [hns]
    · rfl

/-- The second of two rows is selected when only one of them is left, and Enter opens that one. -/
theorem selection_on_row_left :
    let waybill (ns : String) : Waybill := { identity := { namespaceName := ns } }
    let both : Snapshot := ⟨.all, [waybill "a", waybill "b"], "", .epoch⟩
    let one : Snapshot := ⟨.all, [waybill "b"], "", .epoch⟩
    let s := (Scene.after .all Search.defaultThreshold "" false none
      [.take, .send ⟨1, .all⟩ (.ok both), .poll, .press ⟨.char 'j', false⟩ 1, .refresh 2, .take,
        .send ⟨2, .all⟩ (.ok one), .poll]).session
    s.selectedWaybill? = some (waybill "b") ∧
      (s.press ⟨.enter, false⟩ 3).1.dashboard.route = .only "b" := by
  intro waybill both one s
  have hw : s.selectedWaybill? = some (waybill "b") := by decide +kernel
  refine ⟨hw, ?_⟩
  have h : SelectionOnRow s := selection_on_row _ _ _ _ _ _
  have hopens := h.opens ⟨.enter, false⟩ 3 rfl (by decide +kernel) (by decide +kernel)
    (by decide +kernel) (waybill "b") hw
  exact hopens.1

end Session

end WaybillBoard
