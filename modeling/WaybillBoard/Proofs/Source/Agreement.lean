import WaybillBoard.CommandLine.Run

/-!
Sources that agree. A saved body with a list is held as a value of any shape before it is read as a
list. Where that succeeds at all, the body as a server sends it, the saved one and the same list in
memory show the same for every namespace.
-/

namespace WaybillBoard

open CommandLine (Machine)

/-- The body spells an object with a member of that name. -/
def HasMember (body : List UInt8) (name : String) : Prop :=
  ∃ members, Json.read body = some (.object members) ∧ ∃ m ∈ members, m.1.text? = some name

theorem isListDocument_iff (document : Json) :
    isListDocument document = true ↔
      ∃ members, document = .object members ∧ ∃ m ∈ members, m.1.text? = some "Waybills" := by
  cases document with
  | object members => simp [isListDocument]
  | _ => simp [isListDocument]

theorem hasMember_waybills_iff (body : List UInt8) :
    HasMember body "Waybills" ↔ (Json.read body).any isListDocument = true := by
  unfold HasMember
  cases hread : Json.read body with
  | none => simp
  | some document =>
      rw [Option.any_some, isListDocument_iff]
      simp only [Option.some.injEq]

namespace Snapshot

/-- The list that a snapshot shows. -/
def list (s : Snapshot) : StatusList := ⟨s.waybills, s.diffUrlFormat⟩

/-- The first Waybill of the snapshot that is of a namespace. -/
def FirstOf (s : Snapshot) (ns : String) (w : Waybill) : Prop :=
  w.namespaceName = ns ∧
    ∃ before after, s.waybills = before ++ w :: after ∧ ∀ v ∈ before, v.namespaceName ≠ ns

theorem get?_eq_some_iff {s : Snapshot} {ns : String} {w : Waybill} :
    s.get? ns = some w ↔ s.FirstOf ns w := by
  unfold get? FirstOf
  rw [List.find?_eq_some_iff_append]
  simp

theorem select_list_only (s : Snapshot) (ns : String) (fetchedAt : Time.Instant) :
    select s.list (.only ns) fetchedAt =
      match s.get? ns with
      | some w => .ok (single ns w s.diffUrlFormat fetchedAt)
      | none => .error (.notFound ns) := rfl

/-- A list narrowed to every namespace is the list. -/
theorem select_ofList_all (l : StatusList) (fetchedAt : Time.Instant) :
    select (ofList l fetchedAt).list .all fetchedAt = .ok (ofList l fetchedAt) := rfl

theorem decode_all_eq_ok_iff {body : List UInt8} {fetchedAt : Time.Instant} {s : Snapshot} :
    decode .all body fetchedAt = .ok s ↔
      ∃ l, (Json.read body).bind StatusList.ofJson? = some l ∧ s = ofList l fetchedAt := by
  unfold decode ofJson
  cases Json.read body with
  | none => simp
  | some document =>
      cases hl : StatusList.ofJson? document with
      | none => simp [hl]
      | some l => simp [hl, eq_comm]

/-- The time of the fetch is the only part that the body does not decide. -/
theorem decode_all_at {body : List UInt8} {fetchedAt : Time.Instant} {s : Snapshot}
    (h : decode .all body fetchedAt = .ok s) (later : Time.Instant) :
    decode .all body later = .ok { s with fetchedAt := later } := by
  obtain ⟨l, hl, rfl⟩ := decode_all_eq_ok_iff.mp h
  exact decode_all_eq_ok_iff.mpr ⟨l, hl, rfl⟩

/-- A saved list is what was sent for all namespaces, narrowed, as long as it can be held as a
value. -/
theorem ofSaved_of_hasMember {body : List UInt8} (h : HasMember body "Waybills") (scope : Scope)
    (fetchedAt : Time.Instant) :
    ofSaved body scope fetchedAt =
      if (Json.read body).all (Json.isValue 0) then
        (decode .all body fetchedAt).bind fun s => select s.list scope fetchedAt
      else .error .malformedBody := by
  obtain ⟨members, hread, hmember⟩ := h
  have hlist : isListDocument (.object members) = true :=
    (isListDocument_iff _).mpr ⟨members, rfl, hmember⟩
  unfold ofSaved decode ofJson
  simp only [hread, Option.all_some, hlist, if_true]
  cases hvalue : (Json.object members).isValue 0 with
  | false => rfl
  | true =>
      cases hl : StatusList.ofJson? (.object members) with
      | none => simp [Except.bind]
      | some l => simp [Except.bind, list, ofList]

/-- Where a saved list is shown for all namespaces, it is shown narrowed for any other scope. -/
theorem ofSaved_of_all {body : List UInt8} (hkey : HasMember body "Waybills")
    {fetchedAt : Time.Instant} {s : Snapshot} (h : ofSaved body .all fetchedAt = .ok s) :
    decode .all body fetchedAt = .ok s ∧
      ∀ scope later, ofSaved body scope later = select s.list scope later := by
  rw [ofSaved_of_hasMember hkey] at h
  split at h
  · next hvalue =>
    obtain ⟨s', hdecode, hselect⟩ : ∃ s', decode .all body fetchedAt = .ok s' ∧
        select s'.list .all fetchedAt = .ok s := by
      cases hdecode : decode .all body fetchedAt with
      | error e => simp [hdecode, Except.bind] at h
      | ok s' => exact ⟨s', rfl, by simpa [hdecode, Except.bind] using h⟩
    obtain ⟨l, -, rfl⟩ := decode_all_eq_ok_iff.mp hdecode
    rw [select_ofList_all] at hselect
    obtain rfl := Except.ok.inj hselect
    refine ⟨hdecode, ?_⟩
    intro scope later
    rw [ofSaved_of_hasMember hkey, if_pos hvalue, decode_all_at hdecode later]
    rfl
  · cases h

/-- What is shown of a body that was saved with the list of a snapshot, and of that list in memory,
whenever either is fetched. -/
structure NarrowedAlike (body : List UInt8) (s : Snapshot) : Prop where
  decoded : ∀ fetchedAt, decode .all body fetchedAt = .ok { s with fetchedAt }
  first_iff : ∀ ns w, s.get? ns = some w ↔ s.FirstOf ns w
  found : ∀ (m : Machine) path, m.file path = .octets body → ∀ ns w, s.FirstOf ns w →
    let one : Snapshot := ⟨.only ns, [w], s.diffUrlFormat, m.now⟩
    m.fetch (.file path) (.only ns) = .ok one ∧
      m.fetch (.memory ⟨s.waybills, s.diffUrlFormat⟩) (.only ns) = .ok one
  missing : ∀ (m : Machine) path, m.file path = .octets body → ∀ ns, s.get? ns = none →
    m.fetch (.file path) (.only ns) = .error (.notFound ns) ∧
      m.fetch (.memory ⟨s.waybills, s.diffUrlFormat⟩) (.only ns) = .error (.notFound ns)

theorem fetch_file_eq {m : Machine} {path : String} {body : List UInt8}
    (h : m.file path = .octets body) (scope : Scope) :
    m.fetch (.file path) scope = ofSaved body scope m.now := by
  rw [Machine.fetch, ofFile, h]
  rfl

theorem sources_narrow_alike {m : Machine} {path : String} {body : List UInt8} {s : Snapshot}
    (hkey : HasMember body "Waybills") (hfile : m.file path = .octets body)
    (hall : m.fetch (.file path) .all = .ok s) : NarrowedAlike body s := by
  rw [fetch_file_eq hfile] at hall
  obtain ⟨hdecode, hnarrow⟩ := ofSaved_of_all hkey hall
  -- Both sources come to the same look into the list.
  have hfetch : ∀ (m : Machine) path, m.file path = .octets body → ∀ ns,
      m.fetch (.file path) (.only ns) = select s.list (.only ns) m.now ∧
        m.fetch (.memory s.list) (.only ns) = select s.list (.only ns) m.now := by
    intro m path hfile ns
    constructor
    · rw [fetch_file_eq hfile, hnarrow]
    · rfl
  refine ⟨decode_all_at hdecode, fun _ _ => get?_eq_some_iff, ?_, ?_⟩
  · intro m path hfile ns w hfirst
    have h := hfetch m path hfile ns
    rw [select_list_only, get?_eq_some_iff.mpr hfirst] at h
    exact h
  · intro m path hfile ns hnone
    have h := hfetch m path hfile ns
    rw [select_list_only, hnone] at h
    exact h

/-- The first of two Waybills of one namespace, and none of a namespace that is not there. -/
theorem sources_narrow_alike_first :
    let body := Text.Octets.ofString
      "\x7b\"Waybills\": [\x7b\"metadata\": \x7b\"name\": \"x\", \"namespace\": \"a\"\x7d\x7d,
        \x7b\"metadata\": \x7b\"name\": \"y\", \"namespace\": \"a\"\x7d\x7d]\x7d"
    let named (name : String) : Waybill := { identity := { name, namespaceName := "a" } }
    let s : Snapshot := ⟨.all, [named "x", named "y"], "", .epoch⟩
    let m : Machine := { env := [], file := fun _ => .octets body, now := .epoch }
    HasMember body "Waybills" ∧ m.fetch (.file "s.json") .all = .ok s ∧
      m.fetch (.file "s.json") (.only "a") = .ok ⟨.only "a", [named "x"], "", .epoch⟩ ∧
      m.fetch (.file "s.json") (.only "") = .error (.notFound "") := by
  intro body named s m
  have hkey : HasMember body "Waybills" := (hasMember_waybills_iff body).mpr (by decide +kernel)
  have hread : (m.fetch (.file "s.json") .all).toOption = some s := by decide +kernel
  have hall : m.fetch (.file "s.json") .all = .ok s := by
    cases h : m.fetch (.file "s.json") .all with
    | error e => simp [h, Except.toOption] at hread
    | ok s' =>
        rw [h] at hread
        rw [Option.some.inj hread]
  have h := sources_narrow_alike hkey rfl hall
  have hfirst : s.FirstOf "a" (named "x") := ⟨rfl, [], [named "y"], rfl, List.forall_mem_nil _⟩
  have hfound := h.found m "s.json" rfl "a" (named "x") hfirst
  have hmissing := h.missing m "s.json" rfl "" (by decide)
  exact ⟨hkey, hall, hfound.1, hmissing.1⟩

end Snapshot

end WaybillBoard
