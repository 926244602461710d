import WaybillBoard.Proofs.Json.Record
import WaybillBoard.Proofs.Time.Rfc3339
import WaybillBoard.Waybill.Decode
import WaybillBoard.Waybill.Encode

/-!
The parts of a Waybill, there and back. What a document can hold is less than what these records
can: times that can be written, timeouts of 64 bits, and no empty namespace of a Secret. Whatever is
read is within these bounds, and whatever is within them is read again from what it is written as.
-/

namespace WaybillBoard

open Json

theorem recovers_instant {t : Time.Instant} (h : t.IsValid) :
    Recovers readInstant instantJson t := by
  refine ⟨Json.noConfusion, ?_⟩
  simp only [readInstant, instantJson, chars, asText, Literal.text?, Literal.chars?_ofChars,
    Option.map_some, Option.bind_some, String.toList_ofList, Time.Rfc3339.read_write h]

theorem isValid_of_readInstant {j : Json} {t : Time.Instant} (h : readInstant j = some t) :
    t.IsValid := by
  obtain ⟨s, -, hread⟩ := Option.bind_eq_some_iff.mp h
  exact Time.Rfc3339.isValid_of_read hread

namespace Identity

/-- The time of creation can be written. -/
def IsValid (i : Identity) : Prop := ∀ t ∈ i.created, t.IsValid

def entries (i : Identity) : List (String × Option Json) :=
  [("name", some (text i.name)),
    ("generateName", if i.generateName = "" then none else some (text i.generateName)),
    ("namespace", some (text i.namespaceName)),
    ("creationTimestamp", i.created.map instantJson)]

theorem toJson_eq (i : Identity) : i.toJson = .object (membersOf i.entries) := by
  simp only [toJson, membersOf, entries, List.flatMap_cons, List.flatMap_nil, memberIf_some,
    List.append_nil, List.append_assoc]
  split <;> rfl

theorem ofJson?_toJson {i : Identity} (h : i.IsValid) : ofJson? i.toJson = some i := by
  have hfields : fields fieldNames i.toJson = some (i.entries.map Prod.snd) := by
    rw [toJson_eq]
    exact fields_membersOf rfl (by decide)
  have hgenerate : fieldOr "" asText
      (if i.generateName = "" then none else some (text i.generateName)) = some i.generateName := by
    split
    · next hempty => rw [hempty]; rfl
    · exact asText_text i.generateName
  have hcreated := fieldOr_map fun t ht => recovers_instant (h t ht)
  simp only [ofJson?, hfields, entries, List.map_cons, List.map_nil, Option.bind_eq_bind,
    Option.bind_some, hgenerate, hcreated, fieldOr_some, asText_text, Option.pure_def]

theorem written_toJson (i : Identity) : Written i.toJson := by
  rw [toJson_eq]
  refine written_membersOf ?_
  simp only [entries, List.forall_mem_cons]
  refine ⟨written_some (.chars _), ?_, written_some (.chars _),
    written_map fun t => .chars _, List.forall_mem_nil _⟩
  split
  · exact nofun
  · exact written_some (.chars _)

theorem isValid_of_ofJson? {j : Json} {i : Identity} (h : ofJson? j = some i) : i.IsValid := by
  simp only [ofJson?, Option.bind_eq_bind, Option.bind_eq_some_iff] at h
  obtain ⟨values, -, h⟩ := h
  split at h
  · simp only [Option.bind_eq_some_iff, Option.pure_def, Option.some.injEq] at h
    obtain ⟨name, -, generateName, -, namespaceName, -, created, hcreated, rfl⟩ := h
    exact fun t ht => of_fieldOr_nullable hcreated (fun _ _ => isValid_of_readInstant) ht
  · cases h

end Identity

namespace SecretReference

/-- The namespace is a text, if it is given. -/
def IsValid (r : SecretReference) : Prop := r.namespaceName ≠ some ""

def entries (r : SecretReference) : List (String × Option Json) :=
  [("name", some (text r.name)), ("namespace", r.namespaceName.map text)]

theorem toJson_eq (r : SecretReference) : r.toJson = .object (membersOf r.entries) := by
  simp only [toJson, membersOf, entries, List.flatMap_cons, List.flatMap_nil, memberIf_some,
    List.append_nil]

theorem isValue_toJson (r : SecretReference) (around : Nat) (h : around < nestingLimit) :
    r.toJson.isValue around = true := by
  obtain ⟨depth, hdepth⟩ : ∃ depth, nestingLimit - around = depth + 1 :=
    ⟨nestingLimit - around - 1, by omega⟩
  rw [isValue, hdepth]
  obtain ⟨name, _ | namespaceName⟩ := r <;>
    simp [toJson, member, memberIf, text, depthAtMost, membersDepthAtMost, isSound, membersAreSound]

theorem ofMembers?_toJson {r : SecretReference} (h : r.IsValid) : ofMembers? r.toJson = some r := by
  have hfields : fields fieldNames r.toJson = some (r.entries.map Prod.snd) := by
    rw [toJson_eq]
    exact fields_membersOf rfl (by decide)
  have hnamespace := fieldOr_map (o := r.namespaceName) fun s _ => recovers_text s
  have hfilter : r.namespaceName.filter (· ≠ "") = r.namespaceName := by
    unfold IsValid at h
    cases hname : r.namespaceName with
    | none => rfl
    | some s =>
        have hne : s ≠ "" := fun hs => h (hname.trans (congrArg some hs))
        rw [Option.filter_some, if_pos (decide_eq_true hne)]
  simp only [ofMembers?, hfields, entries, List.map_cons, List.map_nil, Option.bind_eq_bind,
    Option.bind_some, hnamespace, fieldOr_some, asText_text, Option.pure_def, hfilter]

theorem recovers_toJson {r : SecretReference} (h : r.IsValid) {around : Nat}
    (haround : around < nestingLimit) : Recovers (ofJson? around) toJson r := by
  refine ⟨Json.noConfusion, ?_⟩
  unfold ofJson?
  rw [isValue_toJson r around haround]
  exact ofMembers?_toJson h

theorem written_toJson (r : SecretReference) : Written r.toJson := by
  rw [toJson_eq]
  refine written_membersOf ?_
  simp only [entries, List.forall_mem_cons]
  exact ⟨written_some (.chars _), written_map fun s => .chars _, List.forall_mem_nil _⟩

theorem isValid_of_ofJson? {around : Nat} {j : Json} {r : SecretReference}
    (h : ofJson? around j = some r) : r.IsValid := by
  unfold ofJson? at h
  split at h
  · cases h
  · split at h
    · obtain ⟨s, -, rfl⟩ := Option.map_eq_some_iff.mp h
      exact nofun
    · simp only [ofMembers?, Option.bind_eq_bind, Option.bind_eq_some_iff] at h
      obtain ⟨values, -, h⟩ := h
      split at h
      · simp only [Option.bind_eq_some_iff, Option.pure_def, Option.some.injEq] at h
        obtain ⟨name, -, namespaceName, -, rfl⟩ := h
        intro hempty
        simpa using (Option.filter_eq_some_iff.mp hempty).2
      · cases h
    · cases h

end SecretReference

theorem recovers_textOrNumber (around : Nat) (s : String) :
    Recovers (textOrNumber around) text s := by
  refine ⟨Json.noConfusion, ?_⟩
  have hvalue : (text s).isValue around = true := by
    simp [isValue, text, depthAtMost, isSound]
  unfold textOrNumber
  rw [hvalue]
  exact asText_text s

namespace Spec

/-- The timeout fits 64 bits, and no Secret is in a namespace without a name. -/
structure IsValid (s : Spec) : Prop where
  runTimeout : ∀ n ∈ s.runTimeout, FitsInt64 n
  gitSshSecret : ∀ r ∈ s.gitSshSecret, r.IsValid
  strongboxKeyringSecret : ∀ r ∈ s.strongboxKeyringSecret, r.IsValid
  delegateServiceAccountSecret : ∀ r ∈ s.delegateServiceAccountSecret, r.IsValid

def entries (s : Spec) : List (String × Option Json) :=
  [("autoApply", s.autoApply.map .bool), ("dryRun", some (.bool s.dryRun)),
    ("prune", s.prune.map .bool), ("pruneClusterResources", s.pruneClusterResources.map .bool),
    ("pruneBlacklist", some (.array (s.pruneBlacklist.map text))),
    ("repositoryPath", some (text s.repositoryPath)), ("runInterval", s.runInterval.map text),
    ("runTimeout", s.runTimeout.map ofInt), ("serverSideApply", some (.bool s.serverSideApply)),
    ("gitSSHSecretRef", s.gitSshSecret.map SecretReference.toJson),
    ("strongboxKeyringSecretRef", s.strongboxKeyringSecret.map SecretReference.toJson),
    ("delegateServiceAccountSecretRef",
      s.delegateServiceAccountSecret.map SecretReference.toJson)]

theorem toJson_eq (s : Spec) : s.toJson = .object (membersOf s.entries) := by
  simp only [toJson, membersOf, entries, List.flatMap_cons, List.flatMap_nil, memberIf_some,
    List.append_nil, List.append_assoc]

theorem ofJson?_toJson {s : Spec} (h : s.IsValid) {around : Nat}
    (haround : around + 1 < nestingLimit) : ofJson? around s.toJson = some s := by
  have hfields : fields fieldNames s.toJson = some (s.entries.map Prod.snd) := by
    rw [toJson_eq]
    exact fields_membersOf rfl (by decide)
  have hbool := fun o : Option Bool => fieldOr_map (o := o) fun b _ => recovers_bool b
  have hlist : nullOr [] (asList asText) (.array (s.pruneBlacklist.map text)) =
      some s.pruneBlacklist := by
    simp only [nullOr, nullable, asList_map fun s _ => asText_text s, Option.map_some,
      Option.getD_some]
  have hinterval := fieldOr_map (o := s.runInterval) fun s _ => recovers_textOrNumber (around + 1) s
  have htimeout := fieldOr_map fun n hn => recovers_ofInt (h.runTimeout n hn)
  have hsecret := fun (o : Option SecretReference) (ho : ∀ r ∈ o, r.IsValid) =>
    fieldOr_map fun r hr => SecretReference.recovers_toJson (ho r hr) haround
  simp only [ofJson?, hfields, entries, List.map_cons, List.map_nil, Option.bind_eq_bind,
    Option.bind_some, fieldOr_some, asText_text, asBool, Option.pure_def, hbool, hlist, hinterval,
    htimeout, hsecret _ h.gitSshSecret, hsecret _ h.strongboxKeyringSecret,
    hsecret _ h.delegateServiceAccountSecret]

theorem written_toJson (s : Spec) : Written s.toJson := by
  have hlist : Written (.array (s.pruneBlacklist.map text)) := .array fun j hj => by
    obtain ⟨name, -, rfl⟩ := List.mem_map.mp hj
    exact .chars _
  rw [toJson_eq]
  refine written_membersOf ?_
  simp only [entries, List.forall_mem_cons]
  exact ⟨written_map .bool, written_some (.bool _), written_map .bool, written_map .bool,
    written_some hlist, written_some (.chars _), written_map fun s => .chars _,
    written_map .ofInt, written_some (.bool _), written_map SecretReference.written_toJson,
    written_map SecretReference.written_toJson, written_map SecretReference.written_toJson,
    List.forall_mem_nil _⟩

theorem isValid_of_ofJson? {around : Nat} {j : Json} {s : Spec} (h : ofJson? around j = some s) :
    s.IsValid := by
  unfold ofJson? at h
  obtain ⟨values, -, h⟩ := Option.bind_eq_some_iff.mp h
  split at h
  · obtain ⟨autoApply, -, h⟩ := Option.bind_eq_some_iff.mp h
    obtain ⟨dryRun, -, h⟩ := Option.bind_eq_some_iff.mp h
    obtain ⟨prune, -, h⟩ := Option.bind_eq_some_iff.mp h
    obtain ⟨pruneClusterResources, -, h⟩ := Option.bind_eq_some_iff.mp h
    obtain ⟨pruneBlacklist, -, h⟩ := Option.bind_eq_some_iff.mp h
    obtain ⟨repositoryPath, -, h⟩ := Option.bind_eq_some_iff.mp h
    obtain ⟨runInterval, -, h⟩ := Option.bind_eq_some_iff.mp h
    obtain ⟨runTimeout, htimeout, h⟩ := Option.bind_eq_some_iff.mp h
    obtain ⟨serverSideApply, -, h⟩ := Option.bind_eq_some_iff.mp h
    obtain ⟨gitSshSecret, hgit, h⟩ := Option.bind_eq_some_iff.mp h
    obtain ⟨strongboxKeyringSecret, hstrongbox, h⟩ := Option.bind_eq_some_iff.mp h
    obtain ⟨delegateServiceAccountSecret, hdelegate, h⟩ := Option.bind_eq_some_iff.mp h
    obtain rfl := Option.some.inj h
    exact {
      runTimeout := fun n hn => of_fieldOr_nullable htimeout (fun _ _ => fitsInt64_of_asInt64) hn
      gitSshSecret := fun r hr =>
        of_fieldOr_nullable hgit (fun _ _ => SecretReference.isValid_of_ofJson?) hr
      strongboxKeyringSecret := fun r hr =>
        of_fieldOr_nullable hstrongbox (fun _ _ => SecretReference.isValid_of_ofJson?) hr
      delegateServiceAccountSecret := fun r hr =>
        of_fieldOr_nullable hdelegate (fun _ _ => SecretReference.isValid_of_ofJson?) hr }
  · cases h

end Spec

namespace Run

/-- The times of the run can be written. -/
structure IsValid (r : Run) : Prop where
  started : ∀ t ∈ r.started, t.IsValid
  finished : ∀ t ∈ r.finished, t.IsValid

def entries (r : Run) : List (String × Option Json) :=
  [("type", some (text r.kind)), ("command", some (text r.command)),
    ("commit", some (text r.commit)), ("started", some (orNull instantJson r.started)),
    ("finished", some (orNull instantJson r.finished)), ("output", some (text r.output)),
    ("errorMessage", r.errorMessage.map text), ("success", some (.bool r.success))]

theorem toJson_eq (r : Run) : r.toJson = .object (membersOf r.entries) := by
  simp only [toJson, membersOf, entries, List.flatMap_cons, List.flatMap_nil, memberIf_some,
    List.append_nil, List.append_assoc]

theorem ofJson?_toJson {r : Run} (h : r.IsValid) : ofJson? r.toJson = some r := by
  have hfields : fields fieldNames r.toJson = some (r.entries.map Prod.snd) := by
    rw [toJson_eq]
    exact fields_membersOf rfl (by decide)
  have hstarted := nullable_orNull fun t ht => recovers_instant (h.started t ht)
  have hfinished := nullable_orNull fun t ht => recovers_instant (h.finished t ht)
  have herror := fieldOr_map (o := r.errorMessage) fun s _ => recovers_text s
  simp only [ofJson?, hfields, entries, List.map_cons, List.map_nil, Option.bind_eq_bind,
    Option.bind_some, fieldOr_some, asText_text, asBool, Option.pure_def, hstarted, hfinished,
    herror]

theorem recovers_toJson {r : Run} (h : r.IsValid) : Recovers ofJson? toJson r :=
  ⟨Json.noConfusion, ofJson?_toJson h⟩

theorem written_toJson (r : Run) : Written r.toJson := by
  have htime : ∀ o : Option Time.Instant, Written (orNull instantJson o)
    | none => .null
    | some _ => .chars _
  rw [toJson_eq]
  refine written_membersOf ?_
  simp only [entries, List.forall_mem_cons]
  exact ⟨written_some (.chars _), written_some (.chars _), written_some (.chars _),
    written_some (htime _), written_some (htime _), written_some (.chars _),
    written_map fun s => .chars _, written_some (.bool _), List.forall_mem_nil _⟩

theorem isValid_of_ofJson? {j : Json} {r : Run} (h : ofJson? j = some r) : r.IsValid := by
  simp only [ofJson?, Option.bind_eq_bind, Option.bind_eq_some_iff] at h
  obtain ⟨values, -, h⟩ := h
  split at h
  · simp only [Option.bind_eq_some_iff, Option.pure_def, Option.some.injEq] at h
    obtain ⟨kind, -, command, -, commit, -, started, hstarted, finished, hfinished, output, -,
      errorMessage, -, success, -, rfl⟩ := h
    exact {
      started := fun t ht => of_fieldOr_nullable hstarted (fun _ _ => isValid_of_readInstant) ht
      finished := fun t ht => of_fieldOr_nullable hfinished (fun _ _ => isValid_of_readInstant) ht }
  · cases h

end Run

end WaybillBoard
