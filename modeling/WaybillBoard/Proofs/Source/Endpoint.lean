import WaybillBoard.Proofs.Config.Usable
import WaybillBoard.Proofs.Url.Segments

/-!
Endpoints of a status server. The one of a namespace is the one of the whole list with one more
segment that spells the namespace, unless the namespace is `.` or `..` or has a tab or a line break
in it; those that are so written do not meet each other or the list.
-/

namespace WaybillBoard

namespace Url

/-! ### One URL below another -/

/-- The text of a URL up to the end of its path. -/
def upToPath (u : Url) : List Char :=
  u.scheme ++ ':' ::
    (match u.authority with
      | none => []
      | some a => '/' :: '/' :: a.write) ++
    u.guardText ++ u.pathText

/-- The text of a URL from the end of its path on. -/
def afterPath (u : Url) : List Char :=
  (match u.query with
    | none => []
    | some q => '?' :: q) ++
  (match u.fragment with
    | none => []
    | some f => '#' :: f)

theorem write_eq (u : Url) : u.write = u.upToPath ++ u.afterPath := List.append_assoc ..

/-- A URL is another one with one more segment at the end of its path, and with nothing else in its
text. No character ends the segment before its end. -/
structure AddsSegment (list url : Url) (segment : List Char) : Prop where
  path_eq : ∃ segments, list.path = .segments segments ∧
    url = { list with path := .segments (segments ++ [segment]) }
  write_eq : url.write = list.upToPath ++ '/' :: segment ++ list.afterPath
  not_ended : ∀ c ∈ segment, ¬ (c = '/' ∨ c = '?' ∨ c = '#' ∨
    isSpecialScheme list.scheme = true ∧ c = '\\')

/-- The further segment is a text, once it is decoded. -/
def IsBelow (list url : Url) (text : List Char) : Prop :=
  ∃ segment, AddsSegment list url segment ∧
    Text.Octets.decode (Percent.decode segment) = some text

/-- A guard is needed before the longer path if it was needed before the shorter one. -/
theorem guardText_append {u : Url} {segments : List (List Char)} {isFile : Bool}
    (hsegments : u.path = .segments segments) (h : IsFirm isFile segments)
    (segment : List Char) :
    guardText { u with path := .segments (segments ++ [segment]) } = u.guardText := by
  obtain ⟨first, rest, rfl⟩ := List.exists_cons_of_ne_nil h.ne_nil
  cases rest with
  | cons second rest =>
      simp only [guardText, hsegments, List.cons_append]
      cases u.authority <;> cases first <;> rfl
  | nil =>
      cases first with
      | nil =>
          obtain ⟨last, hlast, hne⟩ := h.getLast_ne
          exact absurd (Option.some.inj hlast).symm hne
      | cons c first => simp [guardText, hsegments]

theorem addsSegment_of_isFirm {u : Url} {segments : List (List Char)} {isFile : Bool}
    (hsegments : u.path = .segments segments) (h : IsFirm isFile segments) {segment : List Char}
    (hended : ∀ c ∈ segment, ¬ (c = '/' ∨ c = '?' ∨ c = '#' ∨
      isSpecialScheme u.scheme = true ∧ c = '\\')) :
    AddsSegment u { u with path := .segments (segments ++ [segment]) } segment := by
  refine ⟨⟨segments, hsegments, rfl⟩, ?_, hended⟩
  have hpath : segmentsText (segments ++ [segment]) = segmentsText segments ++ '/' :: segment := by
    simp only [segmentsText, List.flatMap_append, List.flatMap_singleton]
  simp only [write_eq, upToPath, guardText_append hsegments h, pathText, hsegments, hpath,
    List.append_assoc]
  rfl

/-- What is below a URL has another text. -/
theorem AddsSegment.write_ne {list url : Url} {segment : List Char}
    (h : AddsSegment list url segment) : url.write ≠ list.write := by
  intro heq
  have hlength := congrArg List.length heq
  rw [h.write_eq, Url.write_eq list] at hlength
  simp only [List.length_append, List.length_cons] at hlength
  omega

/-- Two URLs below the same one with the same text spell the same. -/
theorem IsBelow.text_eq {list url url' : Url} {text text' : List Char} (h : IsBelow list url text)
    (h' : IsBelow list url' text') (heq : url.write = url'.write) : text = text' := by
  obtain ⟨segment, hadds, hspelled⟩ := h
  obtain ⟨segment', hadds', hspelled'⟩ := h'
  rw [hadds.write_eq, hadds'.write_eq] at heq
  have hsegments := List.append_cancel_left (List.append_cancel_right heq)
  obtain rfl := (List.cons.inj hsegments).2
  exact Option.some.inj (hspelled.symm.trans hspelled')

end Url

namespace Server

open Url (IsFirm IsKept addSegment)

/-! ### The endpoint of a namespace -/

/-- The last segment of the list is put at the end of any path. -/
theorem isFirm_addSegment_status (scheme : List Char) (path : List (List Char)) :
    IsFirm (Url.isFileScheme scheme) (addSegment scheme "status".toList path) := by
  have hsegment : Url.segmentOf scheme "status".toList = "status".toList := by
    unfold Url.segmentOf Url.segmentReserved
    split <;> decide
  have hdots : Url.dots? "status".toList = none := by decide
  have hdrive : Url.isDriveLetter "status".toList = false := by decide
  have hadd : addSegment scheme "status".toList path = Url.settle (Url.isFileScheme scheme)
      (Url.follow (Url.isFileScheme scheme) true (Url.beforeNew path)
        (Url.segmentOf scheme "status".toList)) := by
    rw [addSegment, if_neg (by decide)]
    rfl
  rw [hadd, hsegment, Url.follow, hdots, hdrive, Bool.and_false, if_neg Bool.false_ne_true]
  exact Url.isFirm_settle (by decide) _ _

/-- The endpoints of a server: the path of a namespace is that of the list, with the namespace
added. -/
theorem exists_endpoint_eq {s : Server} (hbase : s.base.isBase = true) :
    ∃ path, IsFirm (Url.isFileScheme s.base.scheme) path ∧
      s.endpoint .all = { s.base with path := .segments path } ∧
      ∀ ns, s.endpoint (.only ns) =
        { s.base with path := .segments (addSegment s.base.scheme ns.toList path) } := by
  unfold Url.isBase at hbase
  split at hbase
  · cases hbase
  · next segments hsegments =>
      refine ⟨addSegment s.base.scheme "status".toList (addSegment s.base.scheme "v1".toList
        (addSegment s.base.scheme "api".toList (Url.dropTrailingEmpty segments))),
        isFirm_addSegment_status _ _, ?_, fun ns => ?_⟩
      · simp only [endpoint, Url.addSegments, hsegments, statusPath, List.append_nil,
          List.foldl_cons, List.foldl_nil]
      · simp only [endpoint, Url.addSegments, hsegments, statusPath, List.cons_append,
          List.nil_append, List.foldl_cons, List.foldl_nil]

theorem isBelow_endpoint_iff {s : Server} (hbase : s.base.isBase = true) (ns : String) :
    (s.endpoint .all).IsBelow (s.endpoint (.only ns)) ns.toList ↔ IsKept ns.toList := by
  obtain ⟨path, hpath, hall, honly⟩ := exists_endpoint_eq hbase
  rw [hall, honly]
  constructor
  · rintro ⟨segment, ⟨⟨segments, hsegments, hurl⟩, -, -⟩, hspelled⟩
    obtain rfl : path = segments := Url.Path.segments.inj hsegments
    have hadded : addSegment s.base.scheme ns.toList path = path ++ [segment] :=
      Url.Path.segments.inj (congrArg Url.path hurl)
    exact Url.isKept_of_addSegment hpath hadded hspelled
  · intro hkept
    rw [Url.addSegment_of_isKept hpath hkept]
    refine ⟨_, Url.addsSegment_of_isFirm (u := { s.base with path := .segments path }) rfl hpath
      (Url.not_endsAuthority_segmentOf s.base.scheme ns.toList), ?_⟩
    rw [Url.decode_segmentOf, hkept.filter_eq]

/-- A namespace has an endpoint of its own below the list exactly if it is kept as it is. -/
theorem endpoint_isBelow_iff {text : String} {timeout : Time.Period} {s : Server}
    (h : ofText text timeout = .ok s) :
    (∀ ns, (s.endpoint .all).IsBelow (s.endpoint (.only ns)) ns.toList ↔ IsKept ns.toList) ∧
    (∀ ns, IsKept ns.toList → (s.endpoint (.only ns)).write ≠ (s.endpoint .all).write) ∧
    ∀ ns ns', IsKept ns.toList → IsKept ns'.toList →
      (s.endpoint (.only ns)).write = (s.endpoint (.only ns')).write → ns = ns' := by
  obtain ⟨url, -, hbase, -, rfl⟩ := ofText_eq_ok_iff.mp h
  have hiff := isBelow_endpoint_iff (s := ⟨url, timeout⟩) hbase
  refine ⟨hiff, fun ns hns => ?_, fun ns ns' hns hns' heq => ?_⟩
  · obtain ⟨segment, hadds, -⟩ := (hiff ns).mpr hns
    exact hadds.write_ne
  · exact String.toList_inj.mp (((hiff ns).mpr hns).text_eq ((hiff ns').mpr hns') heq)

/-- A slash in a namespace is no end of its segment. -/
theorem endpoint_isBelow_slash :
    ∃ s, ofText "http://localhost:8080" ⟨10000⟩ = .ok s ∧
      (s.endpoint .all).IsBelow (s.endpoint (.only "a/b")) "a/b".toList := by
  have hread : (ofText "http://localhost:8080" ⟨10000⟩).toOption.isSome = true := by
    decide +kernel
  cases hs : ofText "http://localhost:8080" ⟨10000⟩ with
  | error e => simp [hs, Except.toOption] at hread
  | ok s =>
      have hignored : ∀ c ∈ ['a', '/', 'b'], Url.isIgnored c = false := by simp [Url.isIgnored]
      have hkept : IsKept "a/b".toList := ⟨by decide, by decide, hignored⟩
      exact ⟨s, rfl, ((endpoint_isBelow_iff hs).1 "a/b").mpr hkept⟩

/-- The place above is the list itself, and a tab in a namespace is lost. -/
theorem endpoint_escapes :
    ∃ s, ofText "http://localhost:8080" ⟨10000⟩ = .ok s ∧
      s.endpoint (.only "..") = s.endpoint .all ∧
      s.endpoint (.only "pay\tments") = s.endpoint (.only "payments") ∧
      ¬ (s.endpoint .all).IsBelow (s.endpoint (.only "..")) "..".toList := by
  have hread : ((ofText "http://localhost:8080" ⟨10000⟩).toOption.map fun s =>
      decide (s.endpoint (.only "..") = s.endpoint .all ∧
        s.endpoint (.only "pay\tments") = s.endpoint (.only "payments"))) = some true := by
    decide +kernel
  cases hs : ofText "http://localhost:8080" ⟨10000⟩ with
  | error e => simp [hs, Except.toOption] at hread
  | ok s =>
      simp only [hs, Except.toOption, Option.map_some, Option.some.injEq, decide_eq_true_eq]
        at hread
      refine ⟨s, rfl, hread.1, hread.2, ?_⟩
      rintro ⟨segment, hadds, -⟩
      exact hadds.write_ne (congrArg Url.write hread.1)

end Server

end WaybillBoard
