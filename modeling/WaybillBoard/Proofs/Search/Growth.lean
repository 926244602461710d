import WaybillBoard.Proofs.Search.Table

/-!
The distance as a query is typed and as names grow. Another character at the end of the query never
lowers the distance and raises it by one at most, it is never more than the length of the query, and
characters around a candidate never raise it.
-/

namespace WaybillBoard.Search

/-- What is left of an alignment without the first character of the query costs no more. -/
theorem Alignment.tail {x : Char} {query text : List Char} {cost : Nat}
    (h : Alignment (x :: query) text cost) :
    ∃ rest less, rest <:+ text ∧ less ≤ cost ∧ Alignment query rest less := by
  -- Inserted characters may come first, so the induction is on the alignment.
  generalize hwhole : x :: query = whole at h
  induction h with
  | empty => cases hwhole
  | keep c h =>
      cases hwhole
      exact ⟨_, _, List.suffix_cons .., Nat.le_refl _, h⟩
  | replace _ h =>
      cases hwhole
      exact ⟨_, _, List.suffix_cons .., Nat.le_succ _, h⟩
  | insert b _ ih =>
      obtain ⟨rest, less, hrest, hless, h⟩ := ih hwhole
      exact ⟨rest, less, hrest.trans (List.suffix_cons ..), Nat.le_succ_of_le hless, h⟩
  | delete a h =>
      cases hwhole
      exact ⟨_, _, List.suffix_rfl, Nat.le_succ _, h⟩
  | swap a b h =>
      -- The second of the two is kept, and the first is inserted behind it.
      cases hwhole
      exact ⟨_, _, List.suffix_rfl, Nat.le_refl _, .keep b (.insert _ h)⟩

/-- The same at the end of the query. -/
theorem Alignment.dropLast {query text : List Char} {x : Char} {cost : Nat}
    (h : Alignment (query ++ [x]) text cost) :
    ∃ front less, front <+: text ∧ less ≤ cost ∧ Alignment query front less := by
  have hreverse := h.reverse
  rw [List.reverse_append, List.reverse_singleton, List.singleton_append] at hreverse
  obtain ⟨rest, less, hrest, hless, ha⟩ := hreverse.tail
  refine ⟨rest.reverse, less, ?_, hless, ?_⟩
  · rw [← List.reverse_suffix, List.reverse_reverse]
    exact hrest
  · simpa only [List.reverse_reverse] using ha.reverse

theorem distance_le_concat (query candidate : List Char) (x : Char) :
    distance query candidate ≤ distance (query ++ [x]) candidate := by
  obtain ⟨part, hpart, h⟩ := exists_part_distance (query ++ [x]) candidate
  obtain ⟨front, less, hfront, hless, ha⟩ := h.dropLast
  exact (distance_le (hfront.isInfix.trans hpart) ha).trans hless

theorem distance_concat_le (query candidate : List Char) (x : Char) :
    distance (query ++ [x]) candidate ≤ distance query candidate + 1 := by
  obtain ⟨part, hpart, h⟩ := exists_part_distance query candidate
  have ha : Alignment (query ++ [x]) (part ++ []) (distance query candidate + 1) :=
    h.append (.delete x .empty)
  rw [List.append_nil] at ha
  exact distance_le hpart ha

/-- A part of a candidate is no nearer than the candidate. -/
theorem distance_le_of_infix {candidate longer : List Char} (h : candidate <:+: longer)
    (query : List Char) : distance query longer ≤ distance query candidate := by
  obtain ⟨part, hpart, ha⟩ := exists_part_distance query candidate
  exact distance_le (hpart.trans h) ha

/-- One more character in the query, and more characters around the candidate. -/
theorem distance_as_texts_grow (query candidate : List Char) :
    (∀ x, distance query candidate ≤ distance (query ++ [x]) candidate ∧
        distance (query ++ [x]) candidate ≤ distance query candidate + 1) ∧
      distance query candidate ≤ query.length ∧
      ∀ before after,
        distance query (before ++ candidate ++ after) ≤ distance query candidate := by
  refine ⟨fun x => ⟨?lower, ?upper⟩, distance_le_length query candidate,
    fun before after => ?around⟩
  case lower => exact distance_le_concat query candidate x
  case upper => exact distance_concat_le query candidate x
  case around => exact distance_le_of_infix ⟨before, after, rfl⟩ query

end WaybillBoard.Search
