import WaybillBoard.Proofs.Search.Alignment

/-!
The table of the distance. A number of the table is the least cost of aligning the query so far
with a part that ends in its column, and a row is made from the two above it; so the least number
of the last row is the least edit distance of the query from a part of the candidate. What stands
before a place of the query or the candidate is read backwards from there.
-/

namespace WaybillBoard.Search

theorem cell_le_above (x : Char) (earlier : Option Char) (behind : Option (Char × Nat)) (c : Char)
    (diagonal above left : Nat) : cell x earlier behind c diagonal above left ≤ above + 1 := by
  unfold cell
  grind

theorem cell_le_left (x : Char) (earlier : Option Char) (behind : Option (Char × Nat)) (c : Char)
    (diagonal above left : Nat) : cell x earlier behind c diagonal above left ≤ left + 1 := by
  unfold cell
  grind

theorem cell_le_diagonal (x : Char) (earlier : Option Char) (behind : Option (Char × Nat))
    (c : Char) (diagonal above left : Nat) :
    cell x earlier behind c diagonal above left ≤ diagonal + if x = c then 0 else 1 := by
  unfold cell
  grind

theorem cell_le_corner (x c : Char) (corner diagonal above left : Nat) :
    cell x (some c) (some (x, corner)) c diagonal above left ≤ corner + 1 := by
  unfold cell
  grind

/-- A number comes from one of its neighbors by an edit, or from the one a swap away. -/
theorem cell_cases (x : Char) (earlier : Option Char) (behind : Option (Char × Nat)) (c : Char)
    (diagonal above left : Nat) :
    let number := cell x earlier behind c diagonal above left
    number = above + 1 ∨ number = left + 1 ∨ (x = c ∧ number = diagonal) ∨
      (x ≠ c ∧ number = diagonal + 1) ∨
      ∃ corner, earlier = some c ∧ behind = some (x, corner) ∧ number = corner + 1 := by
  unfold cell
  grind

/-- The least cost of aligning a query with a part that ends at a place; both backwards. -/
noncomputable def costAt (query before : List Char) : Nat :=
  sInf {cost | ∃ part, part <+: before ∧ Alignment query part cost}

theorem exists_part_costAt (query before : List Char) :
    ∃ part, part <+: before ∧ Alignment query part (costAt query before) :=
  Nat.sInf_mem (s := {cost | ∃ part, part <+: before ∧ Alignment query part cost})
    ⟨_, [], List.nil_prefix, Alignment.deleteAll query⟩

theorem costAt_le {query before part : List Char} {cost : Nat} (hpart : part <+: before)
    (h : Alignment query part cost) : costAt query before ≤ cost := Nat.sInf_le ⟨part, hpart, h⟩

theorem costAt_nil (before : List Char) : costAt [] before = 0 :=
  Nat.le_zero.mp (costAt_le List.nil_prefix .empty)

theorem costAt_cons_nil (x : Char) (query : List Char) :
    costAt (x :: query) [] = costAt query [] + 1 := by
  obtain ⟨part, hpart, h⟩ := exists_part_costAt query []
  apply Nat.le_antisymm (costAt_le hpart (.delete x h))
  obtain ⟨part, hpart, h⟩ := exists_part_costAt (x :: query) []
  generalize costAt (x :: query) [] = cost at h
  obtain rfl := List.prefix_nil.mp hpart
  cases h with
  | delete _ h => exact Nat.succ_le_succ (costAt_le List.nil_prefix h)

/-- The neighbor a swap away from the place after `before`. -/
noncomputable def behindAt (query : List Char) : List Char → Option (Char × Nat)
  | [] => none
  | b :: before => some (b, costAt query.tail before)

theorem costAt_le_cell (x c : Char) (query before : List Char) :
    costAt (x :: query) (c :: before) ≤
      cell x query.head? (behindAt query before) c (costAt query before)
        (costAt query (c :: before)) (costAt (x :: query) before) := by
  rcases cell_cases x query.head? (behindAt query before) c (costAt query before)
    (costAt query (c :: before)) (costAt (x :: query) before) with
    h | h | ⟨rfl, h⟩ | ⟨hne, h⟩ | ⟨corner, hhead, hbehind, h⟩
  · obtain ⟨part, hpart, ha⟩ := exists_part_costAt query (c :: before)
    exact h ▸ costAt_le hpart (.delete x ha)
  · obtain ⟨part, hpart, ha⟩ := exists_part_costAt (x :: query) before
    exact h ▸ costAt_le ((List.prefix_cons_inj c).mpr hpart) (.insert c ha)
  · obtain ⟨part, hpart, ha⟩ := exists_part_costAt query before
    rw [h]
    exact costAt_le ((List.prefix_cons_inj x).mpr hpart) (.keep x ha)
  · obtain ⟨part, hpart, ha⟩ := exists_part_costAt query before
    exact h ▸ costAt_le ((List.prefix_cons_inj c).mpr hpart) (.replace hne ha)
  · obtain ⟨query, rfl⟩ := List.head?_eq_some_iff.mp hhead
    cases before with
    | nil => cases hbehind
    | cons b before =>
        cases hbehind
        obtain ⟨part, hpart, ha⟩ := exists_part_costAt query before
        exact h ▸ costAt_le
          ((List.prefix_cons_inj c).mpr ((List.prefix_cons_inj x).mpr hpart)) (.swap x c ha)

theorem cell_le_costAt (x c : Char) (query before : List Char) :
    cell x query.head? (behindAt query before) c (costAt query before)
        (costAt query (c :: before)) (costAt (x :: query) before) ≤
      costAt (x :: query) (c :: before) := by
  obtain ⟨part, hpart, h⟩ := exists_part_costAt (x :: query) (c :: before)
  generalize costAt (x :: query) (c :: before) = cost at h
  cases h with
  | keep _ h =>
      obtain ⟨rfl, hrest⟩ := List.cons_prefix_cons.mp hpart
      have hcell := cell_le_diagonal x query.head? (behindAt query before) x
        (costAt query before) (costAt query (x :: before)) (costAt (x :: query) before)
      rw [if_pos rfl, Nat.add_zero] at hcell
      exact hcell.trans (costAt_le hrest h)
  | replace hne h =>
      obtain ⟨rfl, hrest⟩ := List.cons_prefix_cons.mp hpart
      refine (cell_le_diagonal ..).trans (Nat.add_le_add (costAt_le hrest h) ?_)
      rw [if_neg hne]
  | insert _ h =>
      obtain ⟨rfl, hrest⟩ := List.cons_prefix_cons.mp hpart
      exact (cell_le_left ..).trans (Nat.succ_le_succ (costAt_le hrest h))
  | delete _ h => exact (cell_le_above ..).trans (Nat.succ_le_succ (costAt_le hpart h))
  | swap _ b h =>
      obtain ⟨rfl, hrest⟩ := List.cons_prefix_cons.mp hpart
      obtain ⟨before', rfl, hrest'⟩ := List.cons_prefix_iff.mp hrest
      exact (cell_le_corner ..).trans (Nat.succ_le_succ (costAt_le hrest' h))

/-- The rule of the table: a number is made from those around it. -/
theorem costAt_cons_cons (x c : Char) (query before : List Char) :
    costAt (x :: query) (c :: before) =
      cell x query.head? (behindAt query before) c (costAt query before)
        (costAt query (c :: before)) (costAt (x :: query) before) :=
  Nat.le_antisymm (costAt_le_cell x c query before) (cell_le_costAt x c query before)

/-- The numbers of a row from a place on, for the rest of the candidate. -/
noncomputable def rowFrom (query before : List Char) : List Char → List Nat
  | [] => [costAt query before]
  | c :: rest => costAt query before :: rowFrom query (c :: before) rest

theorem rowFrom_eq_cons (query before rest : List Char) :
    rowFrom query before rest = costAt query before :: (rowFrom query before rest).tail := by
  cases rest <;> rfl

theorem cellsAfter_eq_tail (x : Char) (query before rest : List Char) :
    cellsAfter x query.head? (costAt (x :: query) before) (behindAt query before) rest
        (rowFrom query before rest) (rowFrom query.tail before rest) =
      (rowFrom (x :: query) before rest).tail := by
  induction rest generalizing before with
  | nil => rfl
  | cons c rest ih =>
      have hnumber := costAt_cons_cons x c query before
      simp only [rowFrom, List.tail_cons]
      rw [rowFrom_eq_cons query (c :: before) rest, cellsAfter, ← hnumber,
        ← rowFrom_eq_cons query (c :: before) rest]
      exact (congrArg _ (ih (c :: before))).trans (rowFrom_eq_cons ..).symm

theorem mem_rowFrom {query before rest : List Char} {number : Nat} :
    number ∈ rowFrom query before rest ↔
      ∃ between, between <+: rest ∧ number = costAt query (between.reverse ++ before) := by
  induction rest generalizing before with
  | nil => simp [rowFrom, List.prefix_nil]
  | cons c rest ih =>
      rw [rowFrom, List.mem_cons, ih]
      constructor
      · rintro (h | ⟨between, hbetween, h⟩)
        · exact ⟨[], List.nil_prefix, h⟩
        · refine ⟨c :: between, (List.prefix_cons_inj c).mpr hbetween, ?_⟩
          rw [h, List.reverse_cons, List.append_assoc]
          rfl
      · rintro ⟨between, hbetween, h⟩
        cases between with
        | nil => exact .inl h
        | cons b between =>
            obtain ⟨rfl, hrest⟩ := List.cons_prefix_cons.mp hbetween
            refine .inr ⟨between, hrest, ?_⟩
            rw [h, List.reverse_cons, List.append_assoc]
            rfl

/-- The rows when the query so far, backwards, is `query`. -/
noncomputable def rowsAt (candidate query : List Char) : Rows :=
  ⟨query.head?, rowFrom query [] candidate, rowFrom query.tail [] candidate⟩

theorem rowFrom_nil (before rest : List Char) :
    rowFrom [] before rest = List.replicate (rest.length + 1) 0 := by
  induction rest generalizing before with
  | nil => rw [rowFrom, costAt_nil]; rfl
  | cons c rest ih => rw [rowFrom, costAt_nil, ih]; rfl

theorem firstRows_eq (candidate : List Char) : firstRows candidate = rowsAt candidate [] := by
  simp only [firstRows, rowsAt, List.head?_nil, List.tail_nil, rowFrom_nil]

theorem nextRow_rowsAt (candidate query : List Char) (x : Char) :
    nextRow candidate (rowsAt candidate query) x = rowsAt candidate (x :: query) := by
  have hfirst : (rowFrom query [] candidate).headD 0 + 1 = costAt (x :: query) [] := by
    rw [rowFrom_eq_cons, costAt_cons_nil]
    rfl
  have hrow := cellsAfter_eq_tail x query [] candidate
  simp only [nextRow, rowsAt, hfirst, List.head?_cons, List.tail_cons]
  rw [rowFrom_eq_cons (x :: query), ← hrow]
  rfl

theorem foldl_nextRow (candidate done query : List Char) :
    query.foldl (nextRow candidate) (rowsAt candidate done) =
      rowsAt candidate (query.reverse ++ done) := by
  induction query generalizing done with
  | nil => rfl
  | cons x query ih =>
      rw [List.foldl_cons, nextRow_rowsAt, ih, List.reverse_cons, List.append_assoc]
      rfl

/-- The distance is the least number of the last row. -/
theorem distance_isLeast_row (query candidate : List Char) :
    IsLeast {number | number ∈ rowFrom query.reverse [] candidate} (distance query candidate) := by
  have hrows := foldl_nextRow candidate [] query
  rw [← firstRows_eq, List.append_nil] at hrows
  unfold distance
  rw [hrows]
  obtain ⟨least, hleast⟩ : ∃ least, (rowFrom query.reverse [] candidate).min? = some least := by
    rw [rowFrom_eq_cons]
    exact ⟨_, List.min?_cons'⟩
  obtain ⟨hmem, hle⟩ := List.min?_eq_some_iff.mp hleast
  simp only [rowsAt, hleast, Option.getD_some]
  exact ⟨hmem, fun number hnumber => hle number hnumber⟩

/-- No part of the candidate is nearer to the query than the distance. -/
theorem distance_le {query candidate part : List Char} {cost : Nat} (hpart : part <:+: candidate)
    (h : Alignment query part cost) : distance query candidate ≤ cost := by
  obtain ⟨upTo, hpart, hupTo⟩ := List.infix_iff_suffix_prefix.mp hpart
  have hmem : costAt query.reverse (upTo.reverse ++ []) ∈ rowFrom query.reverse [] candidate :=
    mem_rowFrom.mpr ⟨upTo, hupTo, rfl⟩
  rw [List.append_nil] at hmem
  exact ((distance_isLeast_row query candidate).2 hmem).trans
    (costAt_le (List.reverse_prefix.mpr hpart) h.reverse)

/-- Deleting the whole query is one way. -/
theorem distance_le_length (query candidate : List Char) :
    distance query candidate ≤ query.length :=
  distance_le List.nil_infix (.deleteAll query)

/-- Some part of the candidate is as near to the query as the distance. -/
theorem exists_part_distance (query candidate : List Char) :
    ∃ part, part <:+: candidate ∧ Alignment query part (distance query candidate) := by
  obtain ⟨upTo, hupTo, h⟩ := mem_rowFrom.mp (distance_isLeast_row query candidate).1
  rw [List.append_nil] at h
  obtain ⟨part, hpart, ha⟩ := exists_part_costAt query.reverse upTo.reverse
  refine ⟨part.reverse, ?_, ?_⟩
  · have hsuffix : part.reverse <:+ upTo := by
      rw [← List.reverse_prefix, List.reverse_reverse]
      exact hpart
    exact hsuffix.isInfix.trans hupTo.isInfix
  · rw [h]
    simpa only [List.reverse_reverse] using ha.reverse

/-- The distance is the least edit distance of the query from a part of the candidate. -/
theorem distance_isLeast (query candidate : List Char) :
    IsLeast {number | ∃ part, part <:+: candidate ∧ number = editDistance query part}
      (distance query candidate) := by
  constructor
  · obtain ⟨part, hpart, h⟩ := exists_part_distance query candidate
    refine ⟨part, hpart, Nat.le_antisymm ?_ (editDistance_le h)⟩
    exact distance_le hpart (alignment_editDistance query part)
  · rintro number ⟨part, hpart, rfl⟩
    exact distance_le hpart (alignment_editDistance query part)

end WaybillBoard.Search
