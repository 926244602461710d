import WaybillBoard.Board.WaybillList
import WaybillBoard.Proofs.Dashboard.Visible

/-!
The highlight. Of all lines of a list one is highlighted, the first of the selected panel; a message
that stands in the place of the list has none.
-/

namespace WaybillBoard

open Screen (Line Paragraph)

namespace Board

def Highlighted (l : Line) : Prop := l.style = Theme.selected

theorem not_highlighted_of_plain {l : Line} (h : l.style = .plain) : ¬ Highlighted l := by
  rw [Highlighted, h]
  decide

theorem timeField_plain (label : String) (t : Option Timestamp) :
    ∀ l ∈ timeField label t, l.style = .plain := by
  cases t with
  | none => exact List.forall_mem_nil _
  | some t => exact List.forall_mem_singleton.mpr rfl

theorem detailLines_plain (d : RunDetail) : ∀ l ∈ detailLines d, l.style = .plain := by
  simp only [detailLines, List.forall_mem_append]
  refine ⟨⟨⟨⟨⟨⟨⟨?head, timeField_plain _ _⟩, timeField_plain _ _⟩, ?duration⟩, ?command⟩, ?error⟩,
    ?title⟩, ?output⟩
  case head => exact List.forall_mem_cons.mpr ⟨rfl, List.forall_mem_singleton.mpr rfl⟩
  case duration =>
    cases d.duration with
    | none => exact List.forall_mem_nil _
    | some duration => exact List.forall_mem_singleton.mpr rfl
  case error =>
    cases d.errorMessage with
    | none => exact List.forall_mem_nil _
    | some message => exact List.forall_mem_singleton.mpr rfl
  case output => exact List.forall_mem_map.mpr fun _ _ => rfl
  case command | title => exact List.forall_mem_singleton.mpr rfl

/-- Only the first line of a panel depends on whether it is selected. -/
theorem panelLines_eq (p : Panel) : ∃ below, (∀ l ∈ below, l.style = .plain) ∧
    ∀ selected noIcons, panelLines p selected noIcons = summaryLine p selected noIcons :: below := by
  by_cases hexpanded : p.expanded = true
  · cases hdetail : p.detail with
    | none =>
        refine ⟨_, ?_, fun selected noIcons => by simp only [panelLines, hexpanded, hdetail]; rfl⟩
        exact List.forall_mem_cons.mpr ⟨rfl, List.forall_mem_singleton.mpr rfl⟩
    | some d =>
        refine ⟨_, ?_, fun selected noIcons => by simp only [panelLines, hexpanded, hdetail]; rfl⟩
        exact List.forall_mem_append.mpr
          ⟨detailLines_plain d, List.forall_mem_singleton.mpr rfl⟩
  · refine ⟨[], List.forall_mem_nil _, fun selected noIcons => ?_⟩
    simp [panelLines, hexpanded]

theorem length_panelLines (p : Panel) (selected noIcons : Bool) :
    (panelLines p selected noIcons).length = (panelLines p false false).length := by
  obtain ⟨below, -, heq⟩ := panelLines_eq p
  rw [heq, heq, List.length_cons, List.length_cons]

theorem not_highlighted_unselected {p : Panel} {noIcons : Bool} :
    ∀ l ∈ panelLines p false noIcons, ¬ Highlighted l := by
  obtain ⟨below, hbelow, heq⟩ := panelLines_eq p
  rw [heq]
  exact List.forall_mem_cons.mpr
    ⟨not_highlighted_of_plain rfl, fun l hl => not_highlighted_of_plain (hbelow l hl)⟩

/-- The lines of panels that stand in a list from a place on. -/
def linesFrom (rows : List Panel) (place selected : Nat) (noIcons : Bool) : List Line :=
  (rows.zipIdx place).flatMap fun (p, i) => panelLines p (i = selected) noIcons

theorem length_linesFrom (rows : List Panel) (place selected : Nat) (noIcons : Bool) (n : Nat) :
    n + (linesFrom rows place selected noIcons).length =
      rows.foldl (fun n p => n + (panelLines p false false).length) n := by
  induction rows generalizing n place with
  | nil => rfl
  | cons p rows ih =>
      rw [List.foldl_cons, ← ih (place + 1), linesFrom, List.zipIdx_cons, List.flatMap_cons,
        List.length_append, length_panelLines, Nat.add_assoc]
      rfl

theorem not_highlighted_elsewhere {rows : List Panel} {place selected : Nat} {noIcons : Bool}
    (h : selected < place ∨ place + rows.length ≤ selected) :
    ∀ l ∈ linesFrom rows place selected noIcons, ¬ Highlighted l := by
  intro l hl
  obtain ⟨⟨p, i⟩, hp, hl⟩ := List.mem_flatMap.mp hl
  have hi := List.mem_zipIdx hp
  have hne : i ≠ selected := by omega
  simp only [hne, decide_false] at hl
  exact not_highlighted_unselected l hl

/-- Where the highlight is in a list of lines. -/
structure HighlightedAt (lines : List Line) (place : Nat) (line : Line) : Prop where
  eq_at : lines[place]? = some line
  highlighted_iff : ∀ n l, lines[n]? = some l → (Highlighted l ↔ n = place)

theorem highlightedAt_append {before after : List Line} {line : Line} (h : Highlighted line)
    (hbefore : ∀ l ∈ before, ¬ Highlighted l) (hafter : ∀ l ∈ after, ¬ Highlighted l) :
    HighlightedAt (before ++ line :: after) before.length line := by
  refine ⟨by simp, fun n l hl => ?_⟩
  rcases Nat.lt_trichotomy n before.length with hn | rfl | hn
  · rw [List.getElem?_append_left hn] at hl
    exact iff_of_false (hbefore l (List.mem_of_getElem? hl)) (Nat.ne_of_lt hn)
  · rw [List.getElem?_append_right (Nat.le_refl _), Nat.sub_self, List.getElem?_cons_zero] at hl
    cases hl
    exact iff_of_true h rfl
  · obtain ⟨m, hm⟩ : ∃ m, n - before.length = m + 1 := ⟨n - before.length - 1, by omega⟩
    rw [List.getElem?_append_right (Nat.le_of_lt hn), hm, List.getElem?_cons_succ] at hl
    exact iff_of_false (hafter l (List.mem_of_getElem? hl)) (Nat.ne_of_gt hn)

/-- The lines of a list are those of the panels before the selected one, its own, and those of the
panels after it. -/
theorem listLines_eq {rows : List Panel} {selected : Nat} {p : Panel}
    (h : rows[selected]? = some p) (noIcons : Bool) :
    listLines rows selected noIcons =
      linesFrom (rows.take selected) 0 selected noIcons ++ panelLines p true noIcons ++
        linesFrom (rows.drop (selected + 1)) (selected + 1) selected noIcons := by
  obtain ⟨hlt, hp⟩ := List.getElem?_eq_some_iff.mp h
  have hsplit : rows = rows.take selected ++ p :: rows.drop (selected + 1) := by
    rw [← hp, List.getElem_cons_drop, List.take_append_drop]
  have hlength : (rows.take selected).length = selected := by
    rw [List.length_take, Nat.min_eq_left (Nat.le_of_lt hlt)]
  conv_lhs => rw [listLines, hsplit, List.zipIdx_append, List.zipIdx_cons, hlength]
  simp [linesFrom]

theorem linesBefore_eq (rows : List Panel) (place selected : Nat) (noIcons : Bool) :
    linesBefore rows place = (linesFrom (rows.take place) 0 selected noIcons).length := by
  rw [linesBefore, ← length_linesFrom _ 0 selected noIcons, Nat.zero_add]

theorem highlightedAt_listLines {rows : List Panel} {selected : Nat} {p : Panel}
    (h : rows[selected]? = some p) (noIcons : Bool) :
    HighlightedAt (listLines rows selected noIcons) (linesBefore rows selected)
      (summaryLine p true noIcons) := by
  have hlength := List.length_take_le selected rows
  obtain ⟨below, hbelow, hpanel⟩ := panelLines_eq p
  rw [listLines_eq h, linesBefore_eq rows selected selected noIcons, hpanel, List.append_assoc,
    List.cons_append]
  refine highlightedAt_append rfl ?_ ?_
  · exact not_highlighted_elsewhere (.inr (by omega))
  · intro l hl
    rcases List.mem_append.mp hl with hl | hl
    · exact not_highlighted_of_plain (hbelow l hl)
    · exact not_highlighted_elsewhere (.inl (Nat.lt_succ_self _)) l hl

theorem twoMessages_plain (title first second : String) :
    ∀ l ∈ (twoMessages title first second).lines, l.style = .plain :=
  List.forall_mem_cons.mpr
    ⟨rfl, List.forall_mem_cons.mpr ⟨rfl, List.forall_mem_singleton.mpr rfl⟩⟩

theorem failureMessage_plain (e : FetchError) :
    ∀ l ∈ (failureMessage e).lines, l.style = .plain := by
  simp only [failureMessage, List.forall_mem_append]
  refine ⟨⟨?said, ?status⟩, ?hint⟩
  case said =>
    exact List.forall_mem_cons.mpr
      ⟨rfl, List.forall_mem_cons.mpr ⟨rfl, List.forall_mem_singleton.mpr rfl⟩⟩
  case status =>
    cases e.status with
    | none => exact List.forall_mem_nil _
    | some status => exact List.forall_mem_singleton.mpr rfl
  case hint => exact List.forall_mem_cons.mpr ⟨rfl, List.forall_mem_singleton.mpr rfl⟩

theorem listMessage_plain {d : Dashboard} {rows : List Panel} {message : Paragraph}
    (h : listMessage d rows = some message) : ∀ l ∈ message.lines, l.style = .plain := by
  unfold listMessage at h
  split at h
  · cases h
    exact failureMessage_plain _
  · cases h
    exact twoMessages_plain _ _ _
  · cases h
    exact twoMessages_plain _ _ _
  · split at h
    · cases h
    · split at h <;> cases h <;> exact twoMessages_plain _ _ _

theorem length_rows (d : Dashboard) (now : Time.Instant) :
    (d.rows now).length = d.visible.length := by
  cases hs : d.snapshot with
  | none => simp [Dashboard.rows, Dashboard.visible, hs]
  | some s => simp only [Dashboard.rows, hs, List.length_map]

/-- There is a list when there is something to list, and else a message. -/
theorem listMessage_eq_none_iff {d : Dashboard} {threshold : Binary64}
    (h : Dashboard.Derived d threshold) (now : Time.Instant) :
    listMessage d (d.rows now) = none ↔ d.visible ≠ [] := by
  have hrows : d.rows now = [] ↔ d.visible = [] := by
    rw [← List.length_eq_zero_iff, length_rows, List.length_eq_zero_iff]
  have hvisible : d.snapshot = none → d.visible = [] := fun hs => by
    simp only [Dashboard.visible, hs]
  constructor
  · intro hnone hempty
    simp only [listMessage, hrows.mpr hempty] at hnone
    split at hnone
    · cases hnone
    · cases hnone
    · cases hnone
    · rw [List.isEmpty_nil, Bool.not_true, if_neg Bool.false_ne_true] at hnone
      split at hnone <;> cases hnone
  · intro hsome
    obtain ⟨s, hs⟩ := Option.ne_none_iff_exists'.mp fun hs => hsome (hvisible hs)
    have hsome : (d.rows now).isEmpty = false := by
      rw [List.isEmpty_eq_false_iff]
      exact fun hnil => hsome (hrows.mp hnil)
    cases hphase : d.phase with
    | idle => exact absurd (h.idle hphase) (by simp [hs])
    | failed e => exact absurd (h.failed e hphase) (by simp [hs])
    | loading | ready => simp [listMessage, hphase, hs, hsome]

section Drawn

variable {d : Dashboard} {threshold : Binary64} (h : Dashboard.Derived d threshold)
include h

theorem highlightedAt_waybillList {now : Time.Instant} {selected : Nat} {p : Panel}
    (hrow : (d.rows now)[selected]? = some p) (offset height : Nat) (noIcons : Bool) :
    HighlightedAt (waybillList d selected offset height now noIcons).1.lines
      (linesBefore (d.rows now) selected) (summaryLine p true noIcons) := by
  have hvisible : d.visible ≠ [] := by
    rw [← List.length_pos_iff, ← length_rows d now]
    exact Nat.zero_lt_of_lt (List.getElem?_eq_some_iff.mp hrow).1
  simp only [waybillList, (listMessage_eq_none_iff h now).mpr hvisible]
  exact highlightedAt_listLines hrow noIcons

theorem not_highlighted_waybillList (hempty : d.visible = []) {selected offset height : Nat}
    {now : Time.Instant} {noIcons : Bool} :
    ∀ l ∈ (waybillList d selected offset height now noIcons).1.lines, ¬ Highlighted l := by
  obtain ⟨message, hmessage⟩ := Option.ne_none_iff_exists'.mp fun hnone =>
    (listMessage_eq_none_iff h now).mp hnone hempty
  intro l hl
  simp only [waybillList, hmessage] at hl
  exact not_highlighted_of_plain (listMessage_plain hmessage l hl)

end Drawn

end Board

end WaybillBoard
