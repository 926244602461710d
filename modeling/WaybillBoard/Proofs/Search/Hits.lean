import Mathlib.Data.List.Nodup
import WaybillBoard.Search.Index

/-!
The places of the hits: each is a place of the list, and none comes twice.
-/

namespace WaybillBoard.Search.Index

/-- The candidates of the keys, as they stand in the list. -/
def candidates (i : Index) (matcher : Matcher) (query : List Char) : List Candidate :=
  i.keys.zipIdx.filterMap fun (key, index) => i.candidate? matcher query index key

theorem hits_perm {i : Index} (matcher : Matcher) {query : String} (h : normalized query ≠ []) :
    (i.hits matcher query).Perm
      ((i.candidates matcher (normalized query)).map Candidate.hit) := by
  simp only [hits, if_neg h]
  exact (List.mergeSort_perm _ _).map _

theorem candidate?_index {i : Index} {matcher : Matcher} {query key : List Char} {index : Nat}
    {c : Candidate} (h : i.candidate? matcher query index key = some c) : c.hit.index = index := by
  unfold candidate? at h
  grind

theorem candidates_index_sublist (i : Index) (matcher : Matcher) (query : List Char) :
    ((i.candidates matcher query).map fun c => c.hit.index).Sublist (List.range i.size) := by
  have hrange : List.range i.size = i.keys.zipIdx.map Prod.snd := by
    rw [List.zipIdx_map_snd, List.range_eq_range', size]
  rw [hrange, candidates]
  induction i.keys.zipIdx with
  | nil => exact .slnil
  | cons entry entries ih =>
      rw [List.filterMap_cons, List.map_cons]
      split
      · exact ih.cons _
      · next c hc =>
          rw [List.map_cons, candidate?_index hc]
          exact ih.cons_cons _

/-- The places of the hits, up to their order, are among those of the list. -/
theorem exists_hits_index_perm (i : Index) (matcher : Matcher) (query : String) :
    ∃ places, ((i.hits matcher query).map Hit.index).Perm places ∧
      places.Sublist (List.range i.size) := by
  by_cases h : normalized query = []
  · refine ⟨List.range i.size, ?_, .refl _⟩
    simp [hits, h, size, Function.comp_def]
  · refine ⟨_, (hits_perm matcher h).map _, ?_⟩
    rw [List.map_map]
    exact candidates_index_sublist i matcher (normalized query)

theorem nodup_hits_index (i : Index) (matcher : Matcher) (query : String) :
    ((i.hits matcher query).map Hit.index).Nodup := by
  obtain ⟨places, hperm, hsub⟩ := exists_hits_index_perm i matcher query
  exact hperm.nodup_iff.mpr (List.nodup_range.sublist hsub)

theorem hits_index_lt (i : Index) (matcher : Matcher) (query : String) :
    ∀ place ∈ (i.hits matcher query).map Hit.index, place < i.size := by
  intro place hplace
  obtain ⟨places, hperm, hsub⟩ := exists_hits_index_perm i matcher query
  exact List.mem_range.mp (hsub.subset (hperm.mem_iff.mp hplace))

end WaybillBoard.Search.Index
