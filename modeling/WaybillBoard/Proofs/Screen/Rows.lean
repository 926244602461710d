import WaybillBoard.Screen.Basic

/-!
Rows of a screen. What is drawn in a row leaves the others as they are and depends on nothing but
the row, so each of several rows of glyphs is drawn as if it were the only one.
-/

namespace WaybillBoard.Screen

theorem getElem?_row (s : Screen) (x y : Nat) :
    (s.row y)[x]? = if x < s.width then s.cells[y * s.width + x]? else none := by
  rw [row, Array.getElem?_toList, Array.getElem?_extract, Nat.succ_mul]
  by_cases hx : x < s.width
  · rw [if_pos hx]
    split
    · rfl
    · rw [Array.getElem?_eq_none (by omega)]
  · rw [if_neg hx, if_neg (by omega)]

/-- Cells in different rows or columns are different ones. -/
theorem cell_inj {width x y x' y' : Nat} (hx : x < width) (hx' : x' < width) :
    y * width + x = y' * width + x' ↔ y = y' ∧ x = x' := by
  refine ⟨fun h => ?_, fun ⟨hy, hx⟩ => by rw [hy, hx]⟩
  have hwidth : 0 < width := Nat.zero_lt_of_lt hx
  have hrow := congrArg (· / width) h
  simp only [Nat.mul_comm _ width, Nat.mul_add_div hwidth, Nat.div_eq_of_lt hx,
    Nat.div_eq_of_lt hx', Nat.add_zero] at hrow
  subst hrow
  exact ⟨rfl, Nat.add_left_cancel h⟩

theorem getElem?_row_update (s : Screen) (x y : Nat) (change : Cell → Cell) (i y' : Nat) :
    ((s.update x y change).row y')[i]? =
      if x < s.width ∧ y < s.height ∧ y = y' ∧ x = i then ((s.row y')[i]?).map change
      else (s.row y')[i]? := by
  unfold update
  split
  · next hinside =>
      simp only [getElem?_row, Array.getElem?_modify]
      by_cases hi : i < s.width
      · simp only [hi, hinside.1, hinside.2, cell_inj hinside.1 hi, true_and, if_true]
      · simp only [hi, if_false, Option.map_none, ite_self]
  · next houtside => rw [if_neg fun h => houtside ⟨h.1, h.2.1⟩]

/-- Two screens of one size that show the same in a row. -/
structure AlikeIn (y : Nat) (s t : Screen) : Prop where
  width_eq : s.width = t.width
  height_eq : s.height = t.height
  row_eq : s.row y = t.row y

theorem AlikeIn.refl (y : Nat) (s : Screen) : AlikeIn y s s := ⟨rfl, rfl, rfl⟩

theorem AlikeIn.trans {y : Nat} {s t u : Screen} (h : AlikeIn y s t) (h' : AlikeIn y t u) :
    AlikeIn y s u :=
  ⟨h.width_eq.trans h'.width_eq, h.height_eq.trans h'.height_eq, h.row_eq.trans h'.row_eq⟩

theorem width_update (s : Screen) (x y : Nat) (change : Cell → Cell) :
    (s.update x y change).width = s.width := by
  unfold update
  split <;> rfl

theorem height_update (s : Screen) (x y : Nat) (change : Cell → Cell) :
    (s.update x y change).height = s.height := by
  unfold update
  split <;> rfl

theorem AlikeIn.update {y : Nat} {s t : Screen} (h : AlikeIn y s t) (x : Nat)
    (change : Cell → Cell) : AlikeIn y (s.update x y change) (t.update x y change) := by
  refine ⟨?_, ?_, ?_⟩
  · rw [width_update, width_update, h.width_eq]
  · rw [height_update, height_update, h.height_eq]
  · apply List.ext_getElem?
    intro i
    rw [getElem?_row_update, getElem?_row_update, h.width_eq, h.height_eq, h.row_eq]

theorem alikeIn_update {y y' : Nat} (hy : y ≠ y') (s : Screen) (x : Nat) (change : Cell → Cell) :
    AlikeIn y' (s.update x y change) s := by
  refine ⟨width_update s x y change, height_update s x y change, ?_⟩
  apply List.ext_getElem?
  intro i
  rw [getElem?_row_update, if_neg fun h => hy h.2.2.1]

theorem AlikeIn.drawGlyphs {y : Nat} {s t : Screen} (h : AlikeIn y s t) (x : Nat)
    (glyphs : List Glyph) : AlikeIn y (s.drawGlyphs x y glyphs) (t.drawGlyphs x y glyphs) := by
  induction glyphs generalizing s t x with
  | nil => exact h
  | cons g glyphs ih =>
      rw [Screen.drawGlyphs, Screen.drawGlyphs]
      split
      · exact ih h x
      · exact ih (h.update x (Cell.write g)) (x + g.width)

theorem alikeIn_drawGlyphs {y y' : Nat} (hy : y ≠ y') (s : Screen) (x : Nat)
    (glyphs : List Glyph) : AlikeIn y' (s.drawGlyphs x y glyphs) s := by
  induction glyphs generalizing s x with
  | nil => exact .refl y' s
  | cons g glyphs ih =>
      rw [drawGlyphs]
      split
      · exact ih s x
      · exact (ih _ _).trans (alikeIn_update hy s x (Cell.write g))

theorem alikeIn_drawRows {y y' : Nat} (hy : y' < y) (s : Screen) (x : Nat)
    (rows : List (List Glyph)) : AlikeIn y' (s.drawRows x y rows) s := by
  induction rows generalizing s y with
  | nil => exact .refl y' s
  | cons row rows ih =>
      rw [drawRows]
      exact (ih (Nat.lt_succ_of_lt hy) _).trans (alikeIn_drawGlyphs (Nat.ne_of_gt hy) s x row)

/-- Of several rows, each is drawn as if it were the only one. -/
theorem drawRows_alikeIn {rows : List (List Glyph)} {i : Nat} {glyphs : List Glyph}
    (h : rows[i]? = some glyphs) (s : Screen) (x y : Nat) :
    AlikeIn (y + i) (s.drawRows x y rows) (s.drawGlyphs x (y + i) glyphs) := by
  induction rows generalizing s y i with
  | nil => cases h
  | cons row rows ih =>
      rw [drawRows]
      cases i with
      | zero =>
          cases h
          exact alikeIn_drawRows (Nat.lt_succ_self y) _ x rows
      | succ i =>
          have hrest := ih h (s.drawGlyphs x y row) (y + 1)
          rw [Nat.add_right_comm, Nat.add_assoc] at hrest
          exact hrest.trans ((alikeIn_drawGlyphs (by omega) s x row).drawGlyphs x glyphs)

end WaybillBoard.Screen
