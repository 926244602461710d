import WaybillBoard.Source.Local

/-!
Snapshots of one namespace. A list is narrowed by looking for the namespace, so what is found in it
is of that namespace. A body that holds a single Waybill is taken as it is, whatever namespace the
Waybill names.
-/

namespace WaybillBoard

/-- The snapshot is labeled with the namespace and shows one Waybill, which is of that namespace. -/
def Snapshot.IsOf (s : Snapshot) (ns : String) : Prop :=
  s.scope = .only ns ∧ ∃ w, s.waybills = [w] ∧ w.namespaceName = ns

/-- A Waybill stands by itself in the document. -/
def HoldsSingle (document : Json) (w : Waybill) : Prop :=
  ∃ diffUrlFormat, NamespaceStatus.ofJson? document = some ⟨some w, diffUrlFormat⟩

/-- A Waybill stands by itself in the body that was sent. -/
def SentAlone (body : List UInt8) (w : Waybill) : Prop :=
  ∃ document, Json.read body = some document ∧ HoldsSingle document w

/-- A Waybill stands by itself in the body that was saved. -/
def SavedAlone (body : List UInt8) (w : Waybill) : Prop :=
  ∃ document, Json.read body = some document ∧ document.isValue 0 = true ∧
    isListDocument document = false ∧ HoldsSingle document w

namespace Snapshot

theorem isOf_single_iff {ns diffUrlFormat : String} {w : Waybill} {fetchedAt : Time.Instant} :
    (single ns w diffUrlFormat fetchedAt).IsOf ns ↔ w.namespaceName = ns := by
  constructor
  · rintro ⟨-, v, hv, hns⟩
    obtain rfl := List.singleton_inj.mp hv
    exact hns
  · exact fun hns => ⟨rfl, w, rfl, hns⟩

/-- What is selected from a list is of the namespace that was looked for. -/
theorem isOf_of_select {list : StatusList} {ns : String} {fetchedAt : Time.Instant} {s : Snapshot}
    (h : select list (.only ns) fetchedAt = .ok s) : s.IsOf ns := by
  simp only [select] at h
  split at h
  · next w hw =>
    obtain rfl := Except.ok.inj h
    exact isOf_single_iff.mpr (by simpa using List.find?_some hw)
  · cases h

theorem ofJson_only_iff {document : Json} {ns : String} {fetchedAt : Time.Instant} {s : Snapshot} :
    ofJson (.only ns) document fetchedAt = .ok s ↔
      ∃ w diffUrlFormat, NamespaceStatus.ofJson? document = some ⟨some w, diffUrlFormat⟩ ∧
        s = single ns w diffUrlFormat fetchedAt := by
  unfold ofJson
  rcases NamespaceStatus.ofJson? document with _ | ⟨_ | w, diffUrlFormat⟩
  · simp
  · simp
  · constructor
    · exact fun h => ⟨w, diffUrlFormat, rfl, (Except.ok.inj h).symm⟩
    · rintro ⟨_, _, h, rfl⟩
      simp only [Option.some.injEq, NamespaceStatus.mk.injEq] at h
      obtain ⟨rfl, rfl⟩ := h
      rfl

/-- A document of either form, taken for one namespace, is of it as far as it says so itself. -/
theorem ofJson_isOf_iff (document : Json) (ns : String) (fetchedAt : Time.Instant) :
    (∀ s, ofJson (.only ns) document fetchedAt = .ok s → s.IsOf ns) ↔
      ∀ w, HoldsSingle document w → w.namespaceName = ns := by
  constructor
  · rintro h w ⟨diffUrlFormat, hw⟩
    exact isOf_single_iff.mp (h _ (ofJson_only_iff.mpr ⟨w, diffUrlFormat, hw, rfl⟩))
  · intro h s hs
    obtain ⟨w, diffUrlFormat, hw, rfl⟩ := ofJson_only_iff.mp hs
    exact isOf_single_iff.mpr (h w ⟨diffUrlFormat, hw⟩)

theorem decode_isOf_iff (body : List UInt8) (ns : String) (fetchedAt : Time.Instant) :
    (∀ s, decode (.only ns) body fetchedAt = .ok s → s.IsOf ns) ↔
      ∀ w, SentAlone body w → w.namespaceName = ns := by
  unfold decode SentAlone
  cases Json.read body with
  | none => simp
  | some document => simpa using ofJson_isOf_iff document ns fetchedAt

theorem ofSaved_isOf_iff (body : List UInt8) (ns : String) (fetchedAt : Time.Instant) :
    (∀ s, ofSaved body (.only ns) fetchedAt = .ok s → s.IsOf ns) ↔
      ∀ w, SavedAlone body w → w.namespaceName = ns := by
  unfold ofSaved SavedAlone
  cases Json.read body with
  | none => simp
  | some document =>
      cases hvalue : document.isValue 0 with
      | false => simp [hvalue]
      | true =>
          cases hlist : isListDocument document with
          | false => simpa [hvalue, hlist] using ofJson_isOf_iff document ns fetchedAt
          | true =>
              cases hread : StatusList.ofJson? document with
              | none => simp [hvalue, hlist, hread]
              | some list =>
                  simpa [hvalue, hlist, hread] using fun s => isOf_of_select (s := s)

/-- A fetch for one namespace shows that namespace exactly where no other Waybill stands by itself
in the body: a list is never mistaken, and nothing else is looked at twice. -/
theorem isOf_iff_alone (path : String) (body : List UInt8) (ns : String)
    (fetchedAt : Time.Instant) :
    ((∀ s, decode (.only ns) body fetchedAt = .ok s → s.IsOf ns) ↔
      ∀ w, SentAlone body w → w.namespaceName = ns) ∧
    ((∀ s, ofFile path (.octets body) (.only ns) fetchedAt = .ok s → s.IsOf ns) ↔
      ∀ w, SavedAlone body w → w.namespaceName = ns) :=
  ⟨decode_isOf_iff body ns fetchedAt, ofSaved_isOf_iff body ns fetchedAt⟩

/-- A body that was saved for one namespace is shown for another. -/
theorem saved_for_another :
    let body := Text.Octets.ofString
      "\x7b\"Waybill\":\x7b\"metadata\":\x7b\"namespace\":\"billing\"\x7d\x7d\x7d"
    ¬ ∀ s, ofFile "status.json" (.octets body) (.only "payments") .epoch = .ok s →
      s.IsOf "payments" := by
  intro body h
  have hshown : (ofFile "status.json" (.octets body) (.only "payments") .epoch).toOption.map
      (fun s => s.waybills.map Waybill.namespaceName) = some ["billing"] := by decide +kernel
  cases hs : ofFile "status.json" (.octets body) (.only "payments") .epoch with
  | error e => simp [hs, Except.toOption] at hshown
  | ok s =>
      obtain ⟨-, w, hw, hns⟩ := h s hs
      simp [hs, hw, hns, Except.toOption] at hshown

end Snapshot

end WaybillBoard
