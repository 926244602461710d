import WaybillBoard.Proofs.Board.Highlight
import WaybillBoard.Proofs.Screen.Rows

/-!
Scrolling. However far a list was scrolled, after it is drawn the selected panel is on the screen:
its first line always, all of it when there is room, and then the line above it as well when there
is room for that. Drawing the list again does not move it.
-/

namespace WaybillBoard

open Screen (AlikeIn Area Line Paragraph cut)

namespace Board

/-! ### The offset -/

/-- The lines from `first` to before `last` are where they should be in a window of `height` lines
from an offset on. -/
structure InWindow (first last height offset : Nat) : Prop where
  offset_le : offset ≤ first
  first_lt : first < offset + height
  whole : last - first ≤ height → last ≤ offset + height
  context : last - first + 1 ≤ height → 0 < first → offset < first
  /-- What fills the window begins at its top. -/
  tall : height ≤ last - first → offset = first

section Offset

variable {first last height : Nat} (hspan : first < last) (hheight : 0 < height)
include hspan hheight

theorem inWindow_scrollTo (offset : Nat) :
    InWindow first last height (scrollTo first last height 1 offset) := by
  -- After the first move the window begins before the panel, or with it at the top of the list.
  have hmoved : ∀ moved, moved = (if first < offset + 1 then first - 1 else offset) →
      moved ≤ first ∧ (0 < first → moved < first) := by
    intro moved hmoved
    split at hmoved <;> omega
  obtain ⟨hle, hlt⟩ := hmoved _ rfl
  simp only [scrollTo, if_neg (Nat.ne_of_gt hheight)]
  generalize (if first < offset + 1 then first - 1 else offset) = moved at hle hlt
  split
  · next hfits =>
      exact ⟨hle, by omega, fun _ => hfits, fun _ => hlt, by omega⟩
  · split
    · next htall =>
        exact ⟨Nat.le_refl _, by omega, by omega, by omega, fun _ => rfl⟩
    · next hshort =>
        exact ⟨by omega, by omega, by omega, by omega, fun htall => absurd htall hshort⟩

/-- A window in which the panel is where it should be does not move. -/
theorem scrollTo_of_inWindow {offset : Nat} (h : InWindow first last height offset) :
    scrollTo first last height 1 offset = offset := by
  obtain ⟨hle, hlt, hwhole, hcontext, htall⟩ := h
  simp only [scrollTo, if_neg (Nat.ne_of_gt hheight)]
  by_cases htop : first < offset + 1
  · rw [if_pos htop]
    split
    · omega
    · split <;> omega
  · rw [if_neg htop]
    split
    · rfl
    · split <;> omega

end Offset

/-! ### What is drawn -/

/-- The line at a place of a paragraph is drawn. In every area of a height that has room inside its
frame, it is as far below the first row as the place is below an offset, and that row is as if the
line alone were drawn in the frame. -/
structure DrawnAt (p : Paragraph) (height offset place : Nat) : Prop where
  offset_le : offset ≤ place
  lt_offset : place < offset + (height - 2)
  drawn : ∃ line, p.lines[place]? = some line ∧
    ∀ (s : Screen) (a : Area), a.within s.area = a → a.height = height → 3 ≤ a.width →
      let row := a.y + 1 + (place - offset)
      AlikeIn row (p.draw s a)
        ((p.frame.draw (s.restyle a p.style) a).drawGlyphs (a.x + 1) row
          (cut (a.width - 2) line.glyphs))

theorem drawnAt_of_scroll {p : Paragraph} (hwraps : p.wraps = false) {height place : Nat}
    (hplace : place < p.lines.length) (hoffset : p.scroll ≤ place)
    (hlt : place < p.scroll + (height - 2)) : DrawnAt p height p.scroll place := by
  refine ⟨hoffset, hlt, p.lines[place], List.getElem?_eq_getElem hplace, ?_⟩
  intro s a hwithin hheight hwidth
  have hshown : (p.shownRows (a.width - 2) (a.height - 2))[place - p.scroll]? =
      some (cut (a.width - 2) p.lines[place].glyphs) := by
    rw [Paragraph.shownRows, if_neg (by omega), hwraps, if_neg Bool.false_ne_true,
      List.getElem?_map, List.getElem?_take_of_lt (by omega), List.getElem?_drop,
      Nat.add_sub_cancel' hoffset, List.getElem?_eq_getElem hplace]
    rfl
  have hx : min (a.x + 1) a.right = a.x + 1 := Nat.min_eq_left (by rw [Area.right]; omega)
  have hy : min (a.y + 1) a.bottom = a.y + 1 := Nat.min_eq_left (by rw [Area.bottom]; omega)
  simp only [Paragraph.draw, hwithin, Screen.Frame.inner, hx, hy]
  exact Screen.drawRows_alikeIn hshown _ _ _

/-- The selected panel stands between other lines of the list that is drawn. -/
structure SelectedDrawn (list : Paragraph) (height offset : Nat) (before panel : List Line) :
    Prop where
  isPrefix : before ++ panel <+: list.lines
  offset_le : offset ≤ before.length
  first_lt : before.length < offset + (height - 2)
  first : DrawnAt list height offset before.length
  whole : panel.length ≤ height - 2 →
    ∀ n < panel.length, DrawnAt list height offset (before.length + n)
  above : panel.length + 1 ≤ height - 2 → 0 < before.length →
    DrawnAt list height offset (before.length - 1)

theorem panelLines_ne_nil (p : Panel) (selected noIcons : Bool) :
    panelLines p selected noIcons ≠ [] := by
  obtain ⟨below, -, hpanel⟩ := panelLines_eq p
  rw [hpanel]
  exact List.cons_ne_nil _ _

section List

variable {rows : List Panel} {selected : Nat} {p : Panel} (hrow : rows[selected]? = some p)
  (noIcons : Bool)
include hrow

theorem selectedSpan_eq :
    selectedSpan rows selected =
      let before := linesFrom (rows.take selected) 0 selected noIcons
      (before.length, before.length + (panelLines p true noIcons).length) := by
  obtain ⟨hlt, hp⟩ := List.getElem?_eq_some_iff.mp hrow
  simp only [selectedSpan, if_pos hlt, ← linesBefore_eq]
  rw [linesBefore, linesBefore, List.take_succ_eq_append_getElem hlt, hp, List.foldl_append,
    length_panelLines p true]
  rfl

/-- The list scrolled from any offset. -/
theorem selectedDrawn_panelList {height offset : Nat}
    (hlimit : (listLines rows selected noIcons).length ≤ scrollLimit)
    (hwindow : InWindow (selectedSpan rows selected).1 (selectedSpan rows selected).2
      (height - 2) offset) :
    SelectedDrawn (panelList rows selected noIcons offset) height offset
      (linesFrom (rows.take selected) 0 selected noIcons) (panelLines p true noIcons) := by
  have hlines := listLines_eq hrow noIcons
  rw [selectedSpan_eq hrow noIcons] at hwindow
  have hpanel := List.length_pos_iff.mpr (panelLines_ne_nil p true noIcons)
  generalize linesFrom (rows.take selected) 0 selected noIcons = before at hlines hwindow
  generalize panelLines p true noIcons = panel at hlines hwindow hpanel
  obtain ⟨hle, hlt, hwhole, hcontext, -⟩ := hwindow
  simp only [Nat.add_sub_cancel_left] at hle hlt hwhole hcontext
  have htotal : before.length + panel.length ≤ (listLines rows selected noIcons).length := by
    rw [hlines, List.length_append, List.length_append]
    exact Nat.le_add_right _ _
  have hscroll : (panelList rows selected noIcons offset).scroll = offset :=
    Nat.min_eq_left (by omega)
  have hdrawn (place : Nat) (hplace : place < before.length + panel.length)
      (hfrom : offset ≤ place) (hto : place < offset + (height - 2)) :
      DrawnAt (panelList rows selected noIcons offset) height offset place := by
    have h := drawnAt_of_scroll (p := panelList rows selected noIcons offset) rfl
      (Nat.lt_of_lt_of_le hplace htotal) (hscroll.symm ▸ hfrom) (hscroll.symm ▸ hto)
    rwa [hscroll] at h
  refine ⟨⟨_, hlines.symm⟩, hle, hlt, hdrawn _ (by omega) hle hlt, ?_, ?_⟩
  · intro hfits n hn
    have := hwhole hfits
    exact hdrawn _ (by omega) (by omega) (by omega)
  · intro hfits hbefore
    have := hcontext hfits hbefore
    exact hdrawn _ (by omega) (by omega) (by omega)

end List

/-- Drawing the list of a dashboard, however far it was scrolled, shows the selected panel, and
drawing it again changes nothing. -/
theorem selected_panel_drawn (route : Route) (threshold : Binary64)
    (events : List Dashboard.Event) (now : Time.Instant) (noIcons : Bool)
    (selected offset height : Nat) (hheight : 3 ≤ height) :
    let d := (Dashboard.Scene.after route threshold events).dashboard
    selected < (d.rows now).length →
      (listLines (d.rows now) selected noIcons).length ≤ scrollLimit →
        let drawn := waybillList d selected offset height now noIcons
        (∃ p, (d.rows now)[selected]? = some p ∧
            SelectedDrawn drawn.1 height drawn.2
              (linesFrom ((d.rows now).take selected) 0 selected noIcons)
              (panelLines p true noIcons)) ∧
          waybillList d selected drawn.2 height now noIcons = drawn := by
  intro d hselected hlimit
  have hvisible : d.visible ≠ [] := by
    rw [← List.length_pos_iff, ← length_rows d now]
    exact Nat.zero_lt_of_lt hselected
  have hmessage : listMessage d (d.rows now) = none :=
    (listMessage_eq_none_iff (Dashboard.Scene.derived_after route threshold events) now).mpr
      hvisible
  have hrow := List.getElem?_eq_getElem hselected
  have hspan : (selectedSpan (d.rows now) selected).1 < (selectedSpan (d.rows now) selected).2 := by
    rw [selectedSpan_eq hrow noIcons]
    exact Nat.lt_add_of_pos_right (List.length_pos_iff.mpr (panelLines_ne_nil _ true noIcons))
  have hinside : 0 < height - 2 := by omega
  have hwindow := inWindow_scrollTo hspan hinside offset
  simp only [waybillList, hmessage, scrollTo_of_inWindow hspan hinside hwindow]
  exact ⟨⟨_, hrow, selectedDrawn_panelList hrow noIcons hlimit hwindow⟩, trivial⟩

/-- Below an expanded panel of three lines a list that was scrolled too far begins with the last of
them. -/
theorem selected_panel_drawn_below :
    let waybill (ns : String) : Waybill := { identity := { namespaceName := ns } }
    let s : Snapshot := ⟨.all, [waybill "a", waybill "b"], "", .epoch⟩
    let d := (Dashboard.Scene.after .all Search.defaultThreshold
      [.refresh, .complete 1 (.ok s), .toggle "a"]).dashboard
    let drawn := waybillList d 1 40 5 .epoch false
    drawn.2 = 2 ∧ DrawnAt drawn.1 5 2 2 ∧ DrawnAt drawn.1 5 2 3 := by
  intro waybill s d drawn
  have hoffset : drawn.2 = 2 := by decide +kernel
  have hbefore : (linesFrom ((d.rows .epoch).take 1) 0 1 false).length = 3 := by decide +kernel
  obtain ⟨⟨p, hp, h⟩, -⟩ := selected_panel_drawn .all Search.defaultThreshold
    [.refresh, .complete 1 (.ok s), .toggle "a"] .epoch false 1 40 5 (by decide)
    (by decide +kernel) (by decide +kernel)
  have hpanel : (panelLines p true false).length = 1 := by
    obtain rfl : p = Panel.of (waybill "b") false "" .epoch := Option.some.inj (hp.symm.trans rfl)
    decide +kernel
  have hfirst := h.first
  have habove := h.above (by rw [hpanel]; decide) (by rw [hbefore]; decide)
  rw [hbefore, hoffset] at hfirst habove
  exact ⟨hoffset, habove, hfirst⟩

end Board

end WaybillBoard
