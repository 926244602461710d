import WaybillBoard.Proofs.Search.Hits

/-!
Which places a query finds and in which order. Every key within the threshold gives one hit. Sorting
keeps the hits, and as their order ends with the place in the list, no two of them are level.
-/

namespace WaybillBoard.Search

theorem notAfter_trans {as bs cs : List Nat} (hab : notAfter as bs) (hbc : notAfter bs cs) :
    notAfter as cs := by
  induction as generalizing bs cs with
  | nil => rfl
  | cons a as ih =>
      cases bs with
      | nil => cases hab
      | cons b bs =>
          cases cs with
          | nil => cases hbc
          | cons c cs =>
              simp only [notAfter, Bool.or_eq_true, Bool.and_eq_true, decide_eq_true_eq] at *
              rcases hab with hab | ⟨rfl, hab⟩
              · omega
              · exact hbc.imp_right fun ⟨hac, hbc⟩ => ⟨hac, ih hab hbc⟩

theorem notAfter_total (as bs : List Nat) : notAfter as bs || notAfter bs as := by
  induction as generalizing bs with
  | nil => rfl
  | cons a as ih =>
      cases bs with
      | nil => rfl
      | cons b bs =>
          have h := ih bs
          simp only [notAfter, Bool.or_eq_true, Bool.and_eq_true, decide_eq_true_eq] at *
          rcases Nat.lt_trichotomy a b with hlt | rfl | hlt
          · exact .inl (.inl hlt)
          · exact h.imp (fun h => .inr ⟨rfl, h⟩) (fun h => .inr ⟨rfl, h⟩)
          · exact .inr (.inl hlt)

/-- What does not come after another list is the same or comes before it. -/
theorem lex_of_notAfter {as bs : List Nat} (h : notAfter as bs) (hne : as ≠ bs) :
    List.Lex (· < ·) as bs := by
  induction as generalizing bs with
  | nil =>
      cases bs with
      | nil => exact absurd rfl hne
      | cons b bs => exact .nil
  | cons a as ih =>
      cases bs with
      | nil => cases h
      | cons b bs =>
          simp only [notAfter, Bool.or_eq_true, Bool.and_eq_true, decide_eq_true_eq] at h
          rcases h with h | ⟨rfl, h⟩
          · exact .rel h
          · exact .cons (ih h fun heq => hne (congrArg _ heq))

namespace Index

/-- What decides the place of a hit among the others: its distance, how its key meets the query,
the length of the key and its place in the list. -/
def placement (i : Index) (query : List Char) (h : Hit) : List Nat :=
  let key := i.keys.getD h.index []
  [h.distance, (MatchKind.of query key).rank, key.length, h.index]

theorem candidate?_eq_some_iff {i : Index} {matcher : Matcher} {query key : List Char}
    {index : Nat} {c : Candidate} :
    i.candidate? matcher query index key = some c ↔
      i.threshold.lt (scoreOf query (matcher query key)) = false ∧
        c = ⟨⟨index, matcher query key, scoreOf query (matcher query key)⟩,
          MatchKind.of query key, key.length⟩ := by
  unfold candidate?
  grind

theorem mem_candidates_iff {i : Index} {matcher : Matcher} {query : List Char} {c : Candidate} :
    c ∈ i.candidates matcher query ↔
      ∃ key, i.keys[c.hit.index]? = some key ∧
        i.candidate? matcher query c.hit.index key = some c := by
  rw [candidates, List.mem_filterMap]
  constructor
  · rintro ⟨⟨key, index⟩, hmem, hc⟩
    obtain rfl := candidate?_index hc
    exact ⟨key, List.mk_mem_zipIdx_iff_getElem?.mp hmem, hc⟩
  · rintro ⟨key, hkey, hc⟩
    exact ⟨(key, c.hit.index), List.mk_mem_zipIdx_iff_getElem?.mpr hkey, hc⟩

/-- A key within the threshold gives a hit. -/
theorem mem_hits {i : Index} {matcher : Matcher} {query : String} {place : Nat} {key : List Char}
    (hkey : i.keys[place]? = some key)
    (hlt : i.threshold.lt
      (scoreOf (normalized query) (matcher (normalized query) key)) = false)
    (h : normalized query ≠ []) :
    ⟨place, matcher (normalized query) key,
      scoreOf (normalized query) (matcher (normalized query) key)⟩ ∈ i.hits matcher query := by
  rw [(hits_perm matcher h).mem_iff, List.mem_map]
  refine ⟨⟨_, MatchKind.of (normalized query) key, key.length⟩, ?_, rfl⟩
  exact mem_candidates_iff.mpr ⟨key, hkey, candidate?_eq_some_iff.mpr ⟨hlt, rfl⟩⟩

/-- A hit carries the numbers of its key, which is within the threshold. -/
theorem key_of_mem_hits {i : Index} {matcher : Matcher} {query : String} {hit : Hit}
    (hhit : hit ∈ i.hits matcher query) (h : normalized query ≠ []) :
    ∃ key, i.keys[hit.index]? = some key ∧
      hit.distance = matcher (normalized query) key ∧
      hit.score = scoreOf (normalized query) hit.distance ∧
      i.threshold.lt hit.score = false := by
  rw [(hits_perm matcher h).mem_iff, List.mem_map] at hhit
  obtain ⟨⟨⟨index, distance, score⟩, kind, length⟩, hmem, rfl⟩ := hhit
  obtain ⟨key, hkey, hc⟩ := mem_candidates_iff.mp hmem
  obtain ⟨hlt, heq⟩ := candidate?_eq_some_iff.mp hc
  simp only [Candidate.mk.injEq, Hit.mk.injEq, true_and] at heq
  obtain ⟨⟨hdistance, hscore⟩, -, -⟩ := heq
  rw [← hscore] at hlt
  exact ⟨key, hkey, hdistance, by rw [hdistance, ← hscore], hlt⟩

/-- The order of a candidate can be told from its hit. -/
theorem order_of_mem_candidates {i : Index} {matcher : Matcher} {query : List Char} {c : Candidate}
    (h : c ∈ i.candidates matcher query) : c.order = i.placement query c.hit := by
  obtain ⟨key, hkey, hc⟩ := mem_candidates_iff.mp h
  obtain ⟨-, heq⟩ := candidate?_eq_some_iff.mp hc
  rw [placement, List.getD_eq_getElem?_getD, hkey, Candidate.order, heq]
  rfl

theorem index_eq_of_placement_eq {i : Index} {query : List Char} {a b : Hit}
    (h : i.placement query a = i.placement query b) : a.index = b.index := by
  simp only [placement, List.cons.injEq] at h
  exact h.2.2.2.1

/-- Each hit has its place strictly before the next ones. -/
theorem pairwise_hits (i : Index) (matcher : Matcher) {query : String} (h : normalized query ≠ []) :
    (i.hits matcher query).Pairwise fun a b =>
      List.Lex (· < ·) (i.placement (normalized query) a) (i.placement (normalized query) b) := by
  have hdistinct := List.pairwise_map.mp (nodup_hits_index i matcher query)
  have htrans : ∀ a b c : Candidate, notAfter a.order b.order → notAfter b.order c.order →
      notAfter a.order c.order := fun _ _ _ => notAfter_trans
  have htotal : ∀ a b : Candidate, notAfter a.order b.order || notAfter b.order a.order :=
    fun _ _ => notAfter_total _ _
  have hsorted := List.pairwise_mergeSort htrans htotal (i.candidates matcher (normalized query))
  have hhits : i.hits matcher query = ((i.candidates matcher (normalized query)).mergeSort
      fun a b => notAfter a.order b.order).map Candidate.hit := if_neg h
  rw [hhits, List.pairwise_map] at hdistinct ⊢
  refine (hsorted.and hdistinct).imp_of_mem fun {a b} ha hb ⟨hab, hne⟩ => ?_
  rw [List.mem_mergeSort] at ha hb
  rw [order_of_mem_candidates ha, order_of_mem_candidates hb] at hab
  exact lex_of_notAfter hab fun heq => hne (index_eq_of_placement_eq heq)

/-- Nothing is asked for, so everything is found. -/
theorem hits_blank (i : Index) (matcher : Matcher) {query : String} (h : normalized query = []) :
    i.hits matcher query = (List.range i.size).map fun place => ⟨place, 0, .zero false⟩ := if_pos h

theorem getElem?_keys_build (waybills : List Waybill) (threshold : Binary64) (place : Nat) :
    (build waybills threshold).keys[place]? = waybills[place]?.map keyOf := List.getElem?_map

theorem size_build (waybills : List Waybill) (threshold : Binary64) :
    (build waybills threshold).size = waybills.length := List.length_map _

/-- A Waybill within the threshold gives a hit. -/
theorem mem_hits_build {waybills : List Waybill} {threshold : Binary64} {matcher : Matcher}
    {query : String} {place : Nat} {w : Waybill} (hw : waybills[place]? = some w)
    (hlt : threshold.lt
      (scoreOf (normalized query) (matcher (normalized query) (keyOf w))) = false)
    (h : normalized query ≠ []) :
    ⟨place, matcher (normalized query) (keyOf w),
      scoreOf (normalized query) (matcher (normalized query) (keyOf w))⟩ ∈
        (build waybills threshold).hits matcher query := by
  have hkey : (build waybills threshold).keys[place]? = some (keyOf w) := by
    rw [getElem?_keys_build, hw, Option.map_some]
  exact mem_hits hkey hlt h

/-- The hits are told from the Waybills, and the threshold only asks for the score. -/
theorem mem_hits_build_iff {waybills : List Waybill} {threshold : Binary64} {matcher : Matcher}
    {query : String} {hit : Hit} (h : normalized query ≠ []) :
    hit ∈ (build waybills threshold).hits matcher query ↔
      (∃ w, waybills[hit.index]? = some w ∧
        hit.distance = matcher (normalized query) (keyOf w) ∧
        hit.score = scoreOf (normalized query) hit.distance) ∧
      threshold.lt hit.score = false := by
  constructor
  · intro hhit
    obtain ⟨key, hkey, hdistance, hscore, hlt⟩ := key_of_mem_hits hhit h
    rw [getElem?_keys_build] at hkey
    obtain ⟨w, hw, rfl⟩ := Option.map_eq_some_iff.mp hkey
    exact ⟨⟨w, hw, hdistance, hscore⟩, hlt⟩
  · rintro ⟨⟨w, hw, hdistance, hscore⟩, hlt⟩
    rw [hscore, hdistance] at hlt
    have hmem := mem_hits_build hw hlt h
    rwa [← hdistance, ← hscore] at hmem

end Index

/-- A search that looks every hit up in the list drops none of them. -/
theorem find_eq (waybills : List Waybill) (query : String) (threshold : Binary64) :
    (find waybills query threshold).map some =
      ((Index.build waybills threshold).search query).map (waybills[·.index]?) := by
  have hin : ∀ hit ∈ (Index.build waybills threshold).search query,
      (waybills[hit.index]?).isSome := by
    intro hit hhit
    have hlt := Index.hits_index_lt _ _ query _ (List.mem_map_of_mem hhit)
    rw [Index.size_build] at hlt
    rw [List.getElem?_eq_getElem hlt, Option.isSome_some]
  unfold find
  generalize (Index.build waybills threshold).search query = hits at hin
  induction hits with
  | nil => rfl
  | cons hit hits ih =>
      obtain ⟨hhit, hrest⟩ := List.forall_mem_cons.mp hin
      obtain ⟨w, hw⟩ := Option.isSome_iff_exists.mp hhit
      have hcons := List.filterMap_cons_some (f := fun hit : Hit => waybills[hit.index]?)
        (l := hits) hw
      rw [hcons, List.map_cons, List.map_cons, ih hrest, hw]

/-- The hits of a query are the right ones in the right order: those within the threshold, each
once, best first; and all there are, as they stand, where nothing is asked for. -/
structure RightHits (waybills : List Waybill) (threshold : Binary64) (query : String)
    (matcher : Matcher) (hits : List Hit) : Prop where
  blank : normalized query = [] →
    hits = (List.range waybills.length).map fun place => ⟨place, 0, .zero false⟩
  found_iff : normalized query ≠ [] → ∀ place, place ∈ hits.map Hit.index ↔
    ∃ w, waybills[place]? = some w ∧
      threshold.lt (scoreOf (normalized query) (matcher (normalized query) (keyOf w))) = false
  once : (hits.map Hit.index).Nodup
  in_range : ∀ hit ∈ hits, hit.index < waybills.length
  carries : normalized query ≠ [] → ∀ hit ∈ hits, ∃ w, waybills[hit.index]? = some w ∧
    hit.distance = matcher (normalized query) (keyOf w) ∧
      hit.score = scoreOf (normalized query) hit.distance
  /-- Numbers of one hit against numbers of the next: the distance decides first, then how the key
  meets the query, then the length of the key, then the place. -/
  ordered : normalized query ≠ [] → hits.Pairwise fun a b => ∀ v w,
    waybills[a.index]? = some v → waybills[b.index]? = some w →
      List.Lex (· < ·)
        [a.distance, (MatchKind.of (normalized query) (keyOf v)).rank, (keyOf v).length, a.index]
        [b.distance, (MatchKind.of (normalized query) (keyOf w)).rank, (keyOf w).length, b.index]

theorem right_hits (waybills : List Waybill) (threshold : Binary64) (query : String)
    (matcher : Matcher) :
    let i := Index.build waybills threshold
    RightHits waybills threshold query matcher (i.hits matcher query) ∧
      (find waybills query threshold).map some =
        (i.hits distance query).map (waybills[·.index]?) := by
  refine ⟨⟨?_, ?_, Index.nodup_hits_index _ _ _, ?_, ?_, ?_⟩, find_eq waybills query threshold⟩
  · intro h
    rw [Index.hits_blank _ _ h, Index.size_build]
  · intro h place
    rw [List.mem_map]
    constructor
    · rintro ⟨hit, hhit, rfl⟩
      obtain ⟨key, hkey, hdistance, hscore, hlt⟩ := Index.key_of_mem_hits hhit h
      rw [Index.getElem?_keys_build] at hkey
      obtain ⟨w, hw, rfl⟩ := Option.map_eq_some_iff.mp hkey
      rw [hscore, hdistance] at hlt
      exact ⟨w, hw, hlt⟩
    · rintro ⟨w, hw, hlt⟩
      have hkey : (Index.build waybills threshold).keys[place]? = some (keyOf w) := by
        rw [Index.getElem?_keys_build, hw, Option.map_some]
      have hmem := Index.mem_hits hkey hlt h
      exact ⟨_, hmem, rfl⟩
  · intro hit hhit
    have hlt := Index.hits_index_lt _ _ query _ (List.mem_map_of_mem hhit)
    rwa [Index.size_build] at hlt
  · intro h hit hhit
    obtain ⟨key, hkey, hdistance, hscore, -⟩ := Index.key_of_mem_hits hhit h
    rw [Index.getElem?_keys_build] at hkey
    obtain ⟨w, hw, rfl⟩ := Option.map_eq_some_iff.mp hkey
    exact ⟨w, hw, hdistance, hscore⟩
  · intro h
    refine (Index.pairwise_hits _ matcher h).imp fun {a b} hab v w hv hw => ?_
    simpa only [Index.placement, List.getD_eq_getElem?_getD, Index.getElem?_keys_build, hv, hw,
      Option.map_some, Option.getD_some] using hab

end WaybillBoard.Search
