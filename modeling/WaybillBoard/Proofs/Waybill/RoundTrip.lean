import WaybillBoard.Proofs.Waybill.Parts
import WaybillBoard.Source.Decode

/-!
Waybills, there and back: every Waybill that a body brought is read again from the text that it is
written as.
-/

namespace WaybillBoard

open Json

namespace Waybill

/-- Can every value of the Waybill stand in a document? -/
structure IsValid (w : Waybill) : Prop where
  identity : w.identity.IsValid
  spec : w.spec.IsValid
  lastRun : ∀ r ∈ w.lastRun, r.IsValid

/-- The status, which holds the last run. -/
def statusJson (w : Waybill) : Json :=
  .object (membersOf [("lastRun", w.lastRun.map Run.toJson)])

def entries (w : Waybill) : List (String × Option Json) :=
  [("kind", some (text w.kind)), ("apiVersion", some (text w.apiVersion)),
    ("metadata", some w.identity.toJson), ("spec", some w.spec.toJson),
    ("status", some w.statusJson)]

theorem toJson_eq (w : Waybill) : w.toJson = .object (membersOf w.entries) := by
  simp only [toJson, membersOf, entries, statusJson, List.flatMap_cons, List.flatMap_nil,
    memberIf_some, List.append_nil, List.append_assoc]

theorem lastRun?_statusJson {w : Waybill} (h : ∀ r ∈ w.lastRun, r.IsValid) :
    lastRun? w.statusJson = some w.lastRun := by
  have hfields : fields ["lastRun"] w.statusJson = some [w.lastRun.map Run.toJson] :=
    fields_membersOf rfl (by decide)
  have hrun := fieldOr_map fun r hr => Run.recovers_toJson (h r hr)
  simp only [lastRun?, hfields, Option.bind_eq_bind, Option.bind_some, hrun]

theorem ofJson?_toJson {w : Waybill} (h : w.IsValid) : ofJson? 0 w.toJson = some w := by
  have hfields : fields fieldNames w.toJson = some (w.entries.map Prod.snd) := by
    rw [toJson_eq]
    exact fields_membersOf rfl (by decide)
  simp only [ofJson?, hfields, entries, List.map_cons, List.map_nil, Option.bind_eq_bind,
    Option.bind_some, fieldOr_some, asText_text, Option.pure_def,
    Identity.ofJson?_toJson h.identity,
    Spec.ofJson?_toJson h.spec (by decide : 0 + 1 + 1 < nestingLimit),
    lastRun?_statusJson h.lastRun]

theorem isValid_of_lastRun? {j : Json} {o : Option Run} (h : lastRun? j = some o) :
    ∀ r ∈ o, r.IsValid := by
  simp only [lastRun?, Option.bind_eq_bind, Option.bind_eq_some_iff] at h
  obtain ⟨values, -, h⟩ := h
  split at h
  · exact fun r hr => of_fieldOr_nullable h (fun _ _ => Run.isValid_of_ofJson?) hr
  · cases h

theorem isValid_of_ofJson? {around : Nat} {j : Json} {w : Waybill}
    (h : ofJson? around j = some w) : w.IsValid := by
  simp only [ofJson?, Option.bind_eq_bind, Option.bind_eq_some_iff] at h
  obtain ⟨values, -, h⟩ := h
  split at h
  · simp only [Option.bind_eq_some_iff, Option.pure_def, Option.some.injEq] at h
    obtain ⟨kind, -, apiVersion, -, identity, hidentity, spec, hspec, lastRun, hrun, rfl⟩ := h
    exact {
      identity := of_fieldOr hidentity nofun fun _ _ => Identity.isValid_of_ofJson?
      spec := of_fieldOr hspec ⟨nofun, nofun, nofun, nofun⟩ fun _ _ => Spec.isValid_of_ofJson?
      lastRun := of_fieldOr hrun nofun fun _ _ => isValid_of_lastRun? }
  · cases h

theorem written_toJson (w : Waybill) : Written w.toJson := by
  have hstatus : Written w.statusJson :=
    written_membersOf (List.forall_mem_singleton.mpr (written_map Run.written_toJson))
  rw [toJson_eq]
  refine written_membersOf ?_
  simp only [entries, List.forall_mem_cons]
  exact ⟨written_some (.chars _), written_some (.chars _),
    written_some w.identity.written_toJson, written_some w.spec.written_toJson,
    written_some hstatus, List.forall_mem_nil _⟩

/-- A Waybill whose values can stand in a document is read as it was written. -/
theorem decode_encode_of_isValid {w : Waybill} (h : w.IsValid) : decode w.encode = some w := by
  rw [decode, encode, read_render (written_toJson w), Option.bind_some, ofJson?_toJson h]

end Waybill

/-! ### Snapshots -/

theorem StatusList.isValid_of_ofJson? {j : Json} {list : StatusList} (h : ofJson? j = some list) :
    ∀ w ∈ list.waybills, w.IsValid := by
  simp only [ofJson?, Option.bind_eq_bind, Option.bind_eq_some_iff] at h
  obtain ⟨values, -, h⟩ := h
  split at h
  · simp only [Option.bind_eq_some_iff, Option.pure_def, Option.some.injEq] at h
    obtain ⟨waybills, hwaybills, diffUrlFormat, -, rfl⟩ := h
    have hnone : ∀ w ∈ ([] : List Waybill), w.IsValid := List.forall_mem_nil _
    have hitems : ∀ j items, asList (Waybill.ofJson? 2) j = some items →
        ∀ w ∈ items, w.IsValid := fun _ _ h => of_asList h fun _ _ => Waybill.isValid_of_ofJson?
    exact of_fieldOr (P := fun items => ∀ w ∈ items, w.IsValid) hwaybills hnone
      fun _ _ h => of_nullOr h hnone hitems
  · cases h

theorem NamespaceStatus.isValid_of_ofJson? {j : Json} {status : NamespaceStatus}
    (h : ofJson? j = some status) : ∀ w ∈ status.waybill, w.IsValid := by
  simp only [ofJson?, Option.bind_eq_bind, Option.bind_eq_some_iff] at h
  obtain ⟨values, -, h⟩ := h
  split at h
  · simp only [Option.bind_eq_some_iff, Option.pure_def, Option.some.injEq] at h
    obtain ⟨waybill, hwaybill, diffUrlFormat, -, rfl⟩ := h
    exact fun w hw => of_fieldOr_nullable hwaybill (fun _ _ => Waybill.isValid_of_ofJson?) hw
  · cases h

namespace Snapshot

theorem isValid_of_decode {scope : Scope} {body : List UInt8} {fetchedAt : Time.Instant}
    {s : Snapshot} (h : decode scope body fetchedAt = .ok s) : ∀ w ∈ s.waybills, w.IsValid := by
  unfold decode at h
  split at h
  · unfold ofJson at h
    split at h
    · split at h
      · next list hlist =>
        obtain rfl := Except.ok.inj h
        exact StatusList.isValid_of_ofJson? hlist
      · cases h
    · split at h
      · cases h
      · cases h
      · next w diffUrlFormat hstatus =>
        obtain rfl := Except.ok.inj h
        exact List.forall_mem_singleton.mpr (NamespaceStatus.isValid_of_ofJson? hstatus w rfl)
  · cases h

/-- Every Waybill of a snapshot is written as a text, and is what that text is read as. -/
theorem waybills_reread {scope : Scope} {body : List UInt8} {fetchedAt : Time.Instant}
    {s : Snapshot} (h : decode scope body fetchedAt = .ok s) :
    ∀ w ∈ s.waybills, ∃ text : String,
      w.encode = Text.Octets.ofString text ∧
        Waybill.decode (Text.Octets.ofString text) = some w := by
  intro w hw
  obtain ⟨cs, hcs⟩ := w.written_toJson.isText
  have htext : w.encode = Text.Octets.ofString (String.ofList cs) := by
    rw [Waybill.encode, hcs, Text.Octets.ofString, String.toList_ofList]
  have hdecode := Waybill.decode_encode_of_isValid (isValid_of_decode h w hw)
  exact ⟨String.ofList cs, htext, htext ▸ hdecode⟩

/-- Escapes, a leap second far from Greenwich, a year of five digits, a number for a text and a bare
name for a Secret are all read again as what they were. -/
theorem waybills_reread_odd :
    let body := [
      "\x7b\"Waybills\":[\x7b\"metadata\":\x7b\"namespace\":\"\\ud83d\\ude80\\t\\u0000\",",
      "\"creationTimestamp\":\"2016-12-31T23:59:60.5-03:30\"\x7d,",
      "\"spec\":\x7b\"prune\":false,\"pruneBlacklist\":null,",
      "\"runInterval\":300,\"gitSSHSecretRef\":\"key\",",
      "\"strongboxKeyringSecretRef\":\x7b\"namespace\":\"\"\x7d\x7d,",
      "\"status\":\x7b\"lastRun\":\x7b\"started\":\"+12345-01-02 03:04:05UTC\",",
      "\"errorMessage\":\"\"\x7d\x7d\x7d]\x7d"].flatMap Text.Octets.ofString
    let w : Waybill := {
      identity := { namespaceName := "🚀\t\x00", created := some ⟨1483241399, 1500000000⟩ }
      spec := {
        prune := some false
        runInterval := some "300"
        gitSshSecret := some { name := "key" }
        strongboxKeyringSecret := some {} }
      lastRun := some { started := some ⟨327403479845, 0⟩, errorMessage := some "" } }
    ∃ s, decode .all body .epoch = .ok s ∧ s.waybills = [w] ∧
      ∀ v ∈ s.waybills, ∃ text : String,
        v.encode = Text.Octets.ofString text ∧
          Waybill.decode (Text.Octets.ofString text) = some v := by
  intro body w
  have hread : (decode .all body .epoch).toOption.map (·.waybills) = some [w] := by
    decide +kernel
  cases h : decode .all body .epoch with
  | error e => simp [h, Except.toOption] at hread
  | ok s => exact ⟨s, rfl, by simpa [h, Except.toOption] using hread, waybills_reread h⟩

end Snapshot

end WaybillBoard
