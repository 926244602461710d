import WaybillBoard.Proofs.Binary64.Order
import WaybillBoard.Proofs.Search.Ranking
import WaybillBoard.Proofs.Search.Table

/-!
Searching with a higher threshold. The place of a hit among the others is told from its key and its
distance, whatever the threshold is; so the hits within a lower one are those of the higher one with
the far ones left out, in the same order.
-/

namespace WaybillBoard.Search

namespace Index

/-- The hits of a lower threshold, out of those of a higher one. -/
theorem hits_eq_filter (waybills : List Waybill) {low high : Binary64} (h : low.le high = true)
    (matcher : Matcher) {query : String} (hquery : normalized query ≠ []) :
    (build waybills low).hits matcher query =
      ((build waybills high).hits matcher query).filter fun hit => !low.lt hit.score := by
  have hnodup (threshold : Binary64) : ((build waybills threshold).hits matcher query).Nodup :=
    (nodup_hits_index _ _ _).of_map _
  have hlow := pairwise_hits (build waybills low) matcher hquery
  have hhigh := (pairwise_hits (build waybills high) matcher hquery).filter
    fun hit => !low.lt hit.score
  refine List.Perm.eq_of_pairwise (fun a b _ _ hab hba => ?_) hlow hhigh ?_
  · exact absurd hba (List.lex_asymm (fun hlt => Nat.lt_asymm hlt) hab)
  · rw [List.perm_ext_iff_of_nodup (hnodup low) ((hnodup high).filter _)]
    intro hit
    rw [List.mem_filter, Bool.not_eq_true', mem_hits_build_iff hquery, mem_hits_build_iff hquery]
    constructor
    · rintro ⟨hwaybill, hlt⟩
      exact ⟨⟨hwaybill, Binary64.lt_eq_false_of_le h hlt⟩, hlt⟩
    · rintro ⟨⟨hwaybill, -⟩, hlt⟩
      exact ⟨hwaybill, hlt⟩

end Index

/-- No score by edit distance is past one. -/
theorem one_lt_scoreOf_eq_false {query : List Char} (h : query ≠ []) (key : List Char) :
    (Binary64.ofNat 1).lt (scoreOf query (distance query key)) = false :=
  Binary64.one_lt_quotient_eq_false (distance_le_length query key) (List.length_pos_iff.mpr h)

/-- A higher threshold finds what a lower one finds, with the same numbers and in the same order;
from one on, a search finds everything. -/
theorem hits_sublist_of_le (waybills : List Waybill) {low high : Binary64} (h : low.le high = true)
    (matcher : Matcher) (query : String) :
    ((Index.build waybills low).hits matcher query).Sublist
        ((Index.build waybills high).hits matcher query) ∧
      ((Binary64.ofNat 1).le high = true →
        ∀ place < waybills.length,
          place ∈ ((Index.build waybills high).search query).map Hit.index) := by
  by_cases hquery : normalized query = []
  · constructor
    · rw [Index.hits_blank _ _ hquery, Index.hits_blank _ _ hquery, Index.size_build,
        Index.size_build]
    · intro _ place hplace
      rw [Index.search, Index.hits_blank _ _ hquery, Index.size_build, List.map_map]
      exact List.mem_map.mpr ⟨place, List.mem_range.mpr hplace, rfl⟩
  · constructor
    · rw [Index.hits_eq_filter waybills h matcher hquery]
      exact List.filter_sublist
    · intro hone place hplace
      have hw := List.getElem?_eq_getElem hplace
      have hlt := Binary64.lt_eq_false_of_le hone
        (one_lt_scoreOf_eq_false hquery (keyOf waybills[place]))
      exact List.mem_map.mpr ⟨_, Index.mem_hits_build hw hlt hquery, rfl⟩

/-- At zero `paym` finds `payments` alone, and at one it finds `web` too. -/
theorem hits_sublist_of_le_one :
    let waybills : List Waybill :=
      [{ identity := { namespaceName := "payments" } }, { identity := { namespaceName := "web" } }]
    let found (threshold : Binary64) := (Index.build waybills threshold).search "paym"
    (found (.zero false)).Sublist (found (.ofNat 1)) ∧
      (found (.zero false)).map Hit.index = [0] ∧ 1 ∈ (found (.ofNat 1)).map Hit.index := by
  intro waybills found
  have hle : (Binary64.zero false).le (.ofNat 1) = true := by decide +kernel
  obtain ⟨hsub, hall⟩ := hits_sublist_of_le waybills hle distance "paym"
  exact ⟨hsub, by decide +kernel, hall (by decide +kernel) 1 (by decide)⟩

end WaybillBoard.Search
