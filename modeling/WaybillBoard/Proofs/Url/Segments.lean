import WaybillBoard.Proofs.Url.Percent

/-!
Segments that are added to a path. A text becomes one segment at the end, which spells it and which
nothing in it ends. The exceptions are dots, which name places, and characters that mean nothing in
a URL.
-/

namespace WaybillBoard.Url

/-! ### Empty segments -/

theorem dropEmptySegments_of_head? {segments : List (List Char)} (h : segments.head? ≠ some []) :
    dropEmptySegments segments = segments := by
  unfold dropEmptySegments
  split
  · exact absurd rfl h
  · rfl

theorem length_dropEmptySegments_le (segments : List (List Char)) :
    (dropEmptySegments segments).length ≤ segments.length := by
  induction segments using dropEmptySegments.induct with
  | case1 s rest ih => exact Nat.le_succ_of_le ih
  | case2 segments h =>
      have hdrop : dropEmptySegments segments = segments := by
        unfold dropEmptySegments
        split
        · next s rest => exact (h s rest rfl).elim
        · rfl
      exact Nat.le_of_eq (congrArg List.length hdrop)

theorem length_settle_le (isFile : Bool) (segments : List (List Char)) :
    (settle isFile segments).length ≤ segments.length := by
  cases isFile with
  | false => exact Nat.le_refl _
  | true => exact length_dropEmptySegments_le segments

/-- The path ends with a segment that is not empty, and a file path begins with one. -/
structure IsFirm (isFile : Bool) (path : List (List Char)) : Prop where
  getLast_ne : ∃ last, path.getLast? = some last ∧ last ≠ []
  head_ne : isFile = true → path.head? ≠ some []

namespace IsFirm

variable {isFile : Bool} {path : List (List Char)} (h : IsFirm isFile path)
include h

theorem ne_nil : path ≠ [] := by
  rintro rfl
  obtain ⟨last, hlast, -⟩ := h.getLast_ne
  cases hlast

theorem beforeNew_eq : beforeNew path = path := by
  rw [beforeNew, if_neg]
  rintro rfl
  obtain ⟨last, hlast, hne⟩ := h.getLast_ne
  exact hne (Option.some.inj hlast).symm

theorem settle_append (more : List (List Char)) : settle isFile (path ++ more) = path ++ more := by
  cases isFile with
  | false => rfl
  | true =>
      apply dropEmptySegments_of_head?
      obtain ⟨first, rest, rfl⟩ := List.exists_cons_of_ne_nil h.ne_nil
      exact h.head_ne rfl

end IsFirm

/-- A path is firm as soon as a segment that is not empty was put at its end. -/
theorem isFirm_settle {last : List Char} (hlast : last ≠ []) (isFile : Bool)
    (front : List (List Char)) : IsFirm isFile (settle isFile (front ++ [last])) := by
  cases isFile with
  | false => exact ⟨⟨last, List.getLast?_concat, hlast⟩, Bool.noConfusion⟩
  | true =>
      induction front with
      | nil =>
          have hhead : [last].head? ≠ some [] := fun h => hlast (Option.some.inj h)
          rw [List.nil_append, settle, if_pos rfl, dropEmptySegments_of_head? hhead]
          exact ⟨⟨last, rfl, hlast⟩, fun _ => hhead⟩
      | cons segment front ih =>
          cases segment with
          | nil =>
              have hdrop : settle true ([] :: front ++ [last]) = settle true (front ++ [last]) := by
                cases front <;> rfl
              rw [hdrop]
              exact ih
          | cons c segment =>
              have hhead : ((c :: segment) :: front ++ [last]).head? ≠ some [] := by simp
              rw [settle, if_pos rfl, dropEmptySegments_of_head? hhead]
              exact ⟨⟨last, List.getLast?_concat, hlast⟩, fun _ => hhead⟩

/-! ### One more segment -/

/-- The characters that are encoded in a segment. -/
def segmentReserved (scheme : List Char) : Percent.Reserved :=
  if isSpecialScheme scheme then Percent.inSpecialSegment else Percent.inSegment

theorem percent_mem_segmentReserved (scheme : List Char) : '%' ∈ segmentReserved scheme := by
  unfold segmentReserved
  split <;> decide

/-- A text that is taken for nothing but itself. -/
structure IsKept (text : List Char) : Prop where
  ne_dot : text ≠ ['.']
  ne_dots : text ≠ ['.', '.']
  not_ignored : ∀ c ∈ text, isIgnored c = false

theorem isKept_nil : IsKept [] := ⟨by decide, by decide, List.forall_mem_nil _⟩

/-- The segment that a text becomes. -/
def segmentOf (scheme text : List Char) : List Char :=
  Percent.encode (segmentReserved scheme) (text.filter (fun c => !isIgnored c))

theorem decode_segmentOf (scheme text : List Char) :
    Text.Octets.decode (Percent.decode (segmentOf scheme text)) =
      some (text.filter (fun c => !isIgnored c)) := by
  rw [segmentOf, Percent.decode_encode (percent_mem_segmentReserved scheme),
    Text.Octets.decode_encode]

theorem IsKept.filter_eq {text : List Char} (h : IsKept text) :
    text.filter (fun c => !isIgnored c) = text :=
  List.filter_eq_self.mpr fun c hc => by rw [h.not_ignored c hc, Bool.not_false]

/-- No character ends the segment before its end. -/
theorem not_endsAuthority_segmentOf (scheme text : List Char) :
    ∀ c ∈ segmentOf scheme text, ¬ (c = '/' ∨ c = '?' ∨ c = '#' ∨
      isSpecialScheme scheme = true ∧ c = '\\') := by
  have hnot {c : Char} (hc : c ∈ segmentReserved scheme) (hpercent : c ≠ '%')
      (hhex : Percent.hexValue? c = none) : c ∉ segmentOf scheme text :=
    Percent.not_mem_encode hc hpercent hhex _
  rintro c hc (rfl | rfl | rfl | ⟨hspecial, rfl⟩)
  · exact hnot (by unfold segmentReserved; split <;> decide) (by decide) (by decide) hc
  · exact hnot (by unfold segmentReserved; split <;> decide) (by decide) (by decide) hc
  · exact hnot (by unfold segmentReserved; split <;> decide) (by decide) (by decide) hc
  · exact hnot (by rw [segmentReserved, if_pos hspecial]; decide) (by decide) (by decide) hc

section Adding

variable {scheme : List Char} {path : List (List Char)}
  (hpath : IsFirm (isFileScheme scheme) path)
include hpath

/-- What becomes of a text that is not dots by itself. -/
theorem addSegment_eq {text : List Char} (h : ¬ (text = ['.'] ∨ text = ['.', '.'])) :
    addSegment scheme text path =
      match dots? (segmentOf scheme text) with
      | some 2 => settle (isFileScheme scheme) (parent path ++ [[]])
      | some 1 => path ++ [[]]
      | _ => path ++ [segmentOf scheme text] := by
  have hempty : path.isEmpty = false := List.isEmpty_eq_false_iff.mpr hpath.ne_nil
  have hadd : addSegment scheme text path =
      settle (isFileScheme scheme) (follow (isFileScheme scheme) true path
        (segmentOf scheme text)) := by
    rw [addSegment, if_neg h, hpath.beforeNew_eq]
    rfl
  rw [hadd, follow]
  generalize dots? (segmentOf scheme text) = count
  rcases count with _ | _ | _ | _ | count <;> simp [hempty, hpath.settle_append]

theorem addSegment_of_isKept {text : List Char} (h : IsKept text) :
    addSegment scheme text path = path ++ [segmentOf scheme text] := by
  have hdots {count : Nat} (hcount : dots? (segmentOf scheme text) = some count) :
      text = List.replicate count '.' := by
    have heq := eq_dots_of_dots?_encode (percent_mem_segmentReserved scheme) hcount
    rwa [h.filter_eq] at heq
  rw [addSegment_eq hpath (not_or.mpr ⟨h.ne_dot, h.ne_dots⟩)]
  split
  · next htwo => exact absurd (hdots htwo) h.ne_dots
  · next hone => exact absurd (hdots hone) h.ne_dot
  · rfl

/-- If a text became one more segment that spells it, it was taken for nothing but itself. -/
theorem isKept_of_addSegment {text segment : List Char}
    (hadded : addSegment scheme text path = path ++ [segment])
    (hspelled : Text.Octets.decode (Percent.decode segment) = some text) : IsKept text := by
  have hempty (hsegment : segment = []) : IsKept text := by
    rw [hsegment] at hspelled
    obtain rfl : [] = text := Option.some.inj hspelled
    exact isKept_nil
  have hlast {last : List Char} (h : path ++ [last] = path ++ [segment]) : segment = last :=
    (List.singleton_inj.mp (List.append_cancel_left h)).symm
  by_cases hplaces : text = ['.'] ∨ text = ['.', '.']
  · rw [addSegment, if_pos hplaces] at hadded
    exact absurd (congrArg List.length hadded) (by simp)
  rw [addSegment_eq hpath hplaces] at hadded
  split at hadded
  · by_cases hdrive : path.getLast?.any isDriveLetter = true
    · rw [parent, if_pos hdrive, hpath.settle_append] at hadded
      exact hempty (hlast hadded)
    · -- Without its last segment the path cannot have grown.
      rw [parent, if_neg hdrive] at hadded
      have hlength := congrArg List.length hadded
      have hle := length_settle_le (isFileScheme scheme) (path.dropLast ++ [[]])
      have hpos := List.length_pos_iff.mpr hpath.ne_nil
      simp only [List.length_append, List.length_dropLast, List.length_singleton] at hlength hle
      omega
  · exact hempty (hlast hadded)
  · rw [hlast hadded, decode_segmentOf, Option.some_inj] at hspelled
    obtain ⟨hdot, hdots⟩ := not_or.mp hplaces
    refine ⟨hdot, hdots, fun c hc => ?_⟩
    simpa using List.filter_eq_self.mp hspelled c hc

end Adding

end WaybillBoard.Url
