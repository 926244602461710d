import WaybillBoard.Proofs.Binary64.Order
import WaybillBoard.Proofs.Search.Ranking
import WaybillBoard.Proofs.Search.Table

/-!
Namespaces that contain the query. They are those at distance zero, so no threshold from zero on
leaves them out, nothing else is within zero, and no hit stands before one that meets the query
better.
-/

namespace WaybillBoard.Search

/-- What needs no edits is a part as it stands. -/
theorem distance_eq_zero_iff {query candidate : List Char} :
    distance query candidate = 0 ↔ query <:+: candidate := by
  constructor
  · intro hzero
    obtain ⟨part, hpart, h⟩ := exists_part_distance query candidate
    rw [hzero] at h
    obtain rfl := h.eq_of_zero
    exact hpart
  · intro hpart
    exact Nat.le_zero.mp (distance_le hpart (.refl query))

/-! ### How a key meets the query -/

theorem MatchKind.rank_of_eq_zero_iff {query key : List Char} :
    (MatchKind.of query key).rank = 0 ↔ key = query := by
  unfold MatchKind.of
  split
  · simpa [MatchKind.rank]
  · next hne =>
      split <;> simpa [MatchKind.rank]

theorem MatchKind.rank_of_le_one_iff {query key : List Char} :
    (MatchKind.of query key).rank ≤ 1 ↔ query <+: key := by
  unfold MatchKind.of
  split
  · next heq => simp [MatchKind.rank, heq]
  · split
    · next hprefix => simpa [MatchKind.rank] using hprefix
    · next hprefix => simpa [MatchKind.rank] using hprefix

/-! ### Scores -/

/-- A key that contains the query is within every threshold from zero on. -/
theorem lt_scoreOf_zero_eq_false {threshold : Binary64}
    (h : (Binary64.zero false).le threshold = true) {query : List Char} (hquery : query ≠ []) :
    threshold.lt (scoreOf query 0) = false :=
  Binary64.lt_eq_false_of_le h
    (Binary64.zero_lt_quotient_zero_eq_false (List.length_pos_iff.mpr hquery))

/-- Within zero are only the keys that contain the query. -/
theorem distance_eq_zero_of_lt {threshold : Binary64}
    (h : threshold.le (.zero false) = true) {query key : List Char} (hlength : query.length < 2 ^ 64)
    (hlt : threshold.lt (scoreOf query (distance query key)) = false) : distance query key = 0 := by
  by_contra hne
  have hscore : (Binary64.zero false).lt (scoreOf query (distance query key)) = true :=
    Binary64.zero_lt_quotient (Nat.pos_of_ne_zero hne) (distance_le_length query key)
      (Binary64.unitsOf_lt_unitsLimit hlength)
  rw [Binary64.lt_eq_false_of_le h hlt] at hscore
  cases hscore

/-! ### The order of the hits -/

/-- What comes first has no larger number in front, and where the numbers are the same the rest
decides. -/
theorem le_of_lex {a b : Nat} {as bs : List Nat} (h : List.Lex (· < ·) (a :: as) (b :: bs)) :
    a ≤ b ∧ (a = b → List.Lex (· < ·) as bs) := by
  rcases List.cons_lex_cons_iff.mp h with hlt | ⟨rfl, hrest⟩
  · exact ⟨hlt.le, fun heq => absurd heq (Nat.ne_of_lt hlt)⟩
  · exact ⟨Nat.le_refl _, fun _ => hrest⟩

/-- The first of two keys meets the query as well as the second, as an equal one, at its start or
anywhere. -/
structure MeetsAsWell (query first second : List Char) : Prop where
  exact : second = query → first = query
  start : query <+: second → query <+: first
  inside : query <:+: second → query <:+: first

theorem meetsAsWell_of_lex {query first second : List Char} {as bs : List Nat}
    (h : List.Lex (· < ·)
      (distance query first :: (MatchKind.of query first).rank :: as)
      (distance query second :: (MatchKind.of query second).rank :: bs)) :
    MeetsAsWell query first second := by
  obtain ⟨hdistance, hrest⟩ := le_of_lex h
  -- A second key that contains the query leaves no distance for the first; then the kinds decide.
  have hinside (hsecond : query <:+: second) :
      query <:+: first ∧ (MatchKind.of query first).rank ≤ (MatchKind.of query second).rank := by
    have hzero := distance_eq_zero_iff.mpr hsecond
    have hfirst : distance query first = 0 := Nat.le_zero.mp (hzero ▸ hdistance)
    exact ⟨distance_eq_zero_iff.mp hfirst, (le_of_lex (hrest (hfirst.trans hzero.symm))).1⟩
  constructor
  · rintro rfl
    have hrank := (hinside List.infix_rfl).2
    rw [MatchKind.rank_of_eq_zero_iff.mpr rfl] at hrank
    exact MatchKind.rank_of_eq_zero_iff.mp (Nat.le_zero.mp hrank)
  · intro hsecond
    have hrank := (hinside hsecond.isInfix).2
    exact MatchKind.rank_of_le_one_iff.mp (hrank.trans (MatchKind.rank_of_le_one_iff.mpr hsecond))
  · intro hsecond
    exact (hinside hsecond).1

/-- Containing the query is what counts first. -/
structure ContainedFirst (waybills : List Waybill) (threshold : Binary64) (query : String)
    (hits : List Hit) : Prop where
  near_iff : ∀ w ∈ waybills,
    distance (normalized query) (keyOf w) = 0 ↔ normalized query <:+: keyOf w
  found : ∀ place w, waybills[place]? = some w → normalized query <:+: keyOf w →
    ∃ hit ∈ hits, hit.index = place ∧ hit.distance = 0
  /-- No hit is after one that meets the query less well. -/
  ordered : hits.Pairwise fun a b => ∀ v w,
    waybills[a.index]? = some v → waybills[b.index]? = some w →
      MeetsAsWell (normalized query) (keyOf v) (keyOf w)
  /-- At zero nothing else is found. The number of characters is a word of 64 bits. -/
  only : threshold.le (.zero false) = true → (normalized query).length < 2 ^ 64 →
    ∀ hit ∈ hits, ∃ w, waybills[hit.index]? = some w ∧ normalized query <:+: keyOf w

theorem containedFirst_search (waybills : List Waybill) {threshold : Binary64}
    (h : (Binary64.zero false).le threshold = true) {query : String}
    (hquery : normalized query ≠ []) :
    ContainedFirst waybills threshold query ((Index.build waybills threshold).search query) := by
  -- The Waybill of a hit is the only one at its place.
  have hwaybill {hit : Hit} (hhit : hit ∈ (Index.build waybills threshold).search query)
      {w : Waybill} (hw : waybills[hit.index]? = some w) :
      hit.distance = distance (normalized query) (keyOf w) := by
    obtain ⟨⟨v, hv, hdistance, -⟩, -⟩ := (Index.mem_hits_build_iff hquery).mp hhit
    obtain rfl := Option.some.inj (hv.symm.trans hw)
    exact hdistance
  constructor
  · exact fun w _ => distance_eq_zero_iff
  · intro place w hw hcontained
    have hzero := distance_eq_zero_iff.mpr hcontained
    have hlt : threshold.lt
        (scoreOf (normalized query) (distance (normalized query) (keyOf w))) = false := by
      rw [hzero]
      exact lt_scoreOf_zero_eq_false h hquery
    exact ⟨_, Index.mem_hits_build hw hlt hquery, rfl, hzero⟩
  · have hsorted := Index.pairwise_hits (Index.build waybills threshold) distance hquery
    refine hsorted.imp_of_mem fun {a b} ha hb hab v w hv hw => ?_
    simp only [Index.placement, List.getD_eq_getElem?_getD, Index.getElem?_keys_build, hv, hw,
      Option.map_some, Option.getD_some, hwaybill ha hv, hwaybill hb hw] at hab
    exact meetsAsWell_of_lex hab
  · intro hthreshold hlength hit hhit
    obtain ⟨⟨w, hw, hdistance, hscore⟩, hlt⟩ := (Index.mem_hits_build_iff hquery).mp hhit
    rw [hscore, hdistance] at hlt
    exact ⟨w, hw, distance_eq_zero_iff.mp (distance_eq_zero_of_lt hthreshold hlength hlt)⟩

/-- At zero `PAYM` finds `ops-payments`, and `pyments` is not found. -/
theorem containedFirst_search_paym :
    let waybills : List Waybill :=
      ["pyments", "ops-payments"].map fun name => { identity := { namespaceName := name } }
    let hits := (Index.build waybills (.zero false)).search "PAYM"
    ContainedFirst waybills (.zero false) "PAYM" hits ∧
      (∃ hit ∈ hits, hit.index = 1 ∧ hit.distance = 0) ∧ ∀ hit ∈ hits, hit.index ≠ 0 := by
  intro waybills hits
  have hle : (Binary64.zero false).le (.zero false) = true := by decide +kernel
  have hfirst : ContainedFirst waybills (.zero false) "PAYM" hits :=
    containedFirst_search waybills hle (by decide +kernel)
  refine ⟨hfirst, hfirst.found 1 _ rfl (distance_eq_zero_iff.mp (by decide +kernel)), ?_⟩
  intro hit hhit hindex
  obtain ⟨w, hw, hcontained⟩ := hfirst.only hle (by decide +kernel) hit hhit
  rw [hindex] at hw
  obtain rfl := Option.some.inj hw
  exact absurd (distance_eq_zero_iff.mpr hcontained) (by decide +kernel)

end WaybillBoard.Search
