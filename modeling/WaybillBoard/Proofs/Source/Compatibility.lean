import WaybillBoard.Proofs.Json.Edits
import WaybillBoard.Proofs.Json.Reading
import WaybillBoard.Source.Decode

/-!
Bodies of other servers. The order of members says nothing, and members that are not known are
passed over wherever fields are looked for, as long as their names are texts.
-/

namespace WaybillBoard

open Json

/-! ### What is looked for -/

/-- A record whose fields are no records. -/
def Json.Shape.flat (names : List String) : Shape := .record (names.map (·, .any))

def Identity.shape : Shape := .flat fieldNames

def Spec.shape : Shape := .flat fieldNames

def Run.shape : Shape := .flat fieldNames

namespace Waybill

def statusShape : Shape := .record [("lastRun", Run.shape)]

def shape : Shape :=
  .record [("kind", .any), ("apiVersion", .any), ("metadata", Identity.shape),
    ("spec", Spec.shape), ("status", statusShape)]

end Waybill

def StatusList.shape : Shape :=
  .record [("Waybills", .list Waybill.shape), ("DiffURLFormat", .any)]

def NamespaceStatus.shape : Shape :=
  .record [("Waybill", Waybill.shape), ("DiffURLFormat", .any)]

/-- What is looked for in a body. -/
def Scope.shape : Scope → Shape
  | .all => StatusList.shape
  | .only _ => NamespaceStatus.shape

/-! ### Waybills -/

theorem respects_readInstant {shape : Shape} : Respects shape readInstant :=
  .of_containers (fun _ => rfl) fun _ => rfl

theorem Identity.respects_ofJson? : Respects shape ofJson? := by
  refine respects_record (by decide) fun values values' h => ?_
  obtain _ | ⟨hname, _ | ⟨hgenerateName, _ | ⟨hnamespace, _ | ⟨hcreated, ⟨⟩⟩⟩⟩⟩ := h
  simp only [hname.fieldOr_eq _ respects_asText, hgenerateName.fieldOr_eq _ respects_asText,
    hnamespace.fieldOr_eq _ respects_asText, hcreated.fieldOr_eq _ respects_readInstant.nullable]

/-- Members in another order make no other reference; a reference is held as a value first. -/
theorem SecretReference.respects_ofJson? (around : Nat) : Respects .any (ofJson? around) := by
  have hmembers : Respects (.flat fieldNames) ofMembers? := by
    refine respects_record (by decide) fun values values' h => ?_
    obtain _ | ⟨hname, _ | ⟨hnamespace, ⟨⟩⟩⟩ := h
    simp only [hname.fieldOr_eq _ respects_asText,
      hnamespace.fieldOr_eq _ respects_asText.nullable]
  intro j j' h
  have hread := hmembers j j' (h.of_any _)
  simp only [ofJson?, h.isValue_eq]
  split
  · rfl
  · cases h with
    | reorder | member => exact hread
    | item => rfl

theorem respects_textOrNumber {shape : Shape} (around : Nat) :
    Respects shape (textOrNumber around) := by
  refine .of_containers (fun items => ?_) fun members => ?_
  · simp only [textOrNumber, ite_self]
  · simp only [textOrNumber, ite_self]

theorem Spec.respects_ofJson? (around : Nat) : Respects shape (ofJson? around) := by
  have hsecret := (SecretReference.respects_ofJson? (around + 1)).nullable
  have htexts : Respects .any (nullOr [] (asList asText)) :=
    (Respects.asList fun _ => respects_asText).nullOr []
  refine respects_record (by decide) fun values values' h => ?_
  obtain _ | ⟨hautoApply, _ | ⟨hdryRun, _ | ⟨hprune, _ | ⟨hresources, _ | ⟨hblacklist,
    _ | ⟨hpath, _ | ⟨hinterval, _ | ⟨htimeout, _ | ⟨hserverSide, _ | ⟨hgit, _ | ⟨hkeyring,
    _ | ⟨hdelegate, ⟨⟩⟩⟩⟩⟩⟩⟩⟩⟩⟩⟩⟩⟩ := h
  simp only [hautoApply.fieldOr_eq _ respects_asBool.nullable,
    hdryRun.fieldOr_eq _ respects_asBool, hprune.fieldOr_eq _ respects_asBool.nullable,
    hresources.fieldOr_eq _ respects_asBool.nullable, hblacklist.fieldOr_eq _ htexts,
    hpath.fieldOr_eq _ respects_asText,
    hinterval.fieldOr_eq _ (respects_textOrNumber (around + 1)).nullable,
    htimeout.fieldOr_eq _ respects_asInt64.nullable, hserverSide.fieldOr_eq _ respects_asBool,
    hgit.fieldOr_eq _ hsecret, hkeyring.fieldOr_eq _ hsecret, hdelegate.fieldOr_eq _ hsecret]

theorem Run.respects_ofJson? : Respects shape ofJson? := by
  refine respects_record (by decide) fun values values' h => ?_
  obtain _ | ⟨hkind, _ | ⟨hcommand, _ | ⟨hcommit, _ | ⟨hstarted, _ | ⟨hfinished, _ | ⟨houtput,
    _ | ⟨herror, _ | ⟨hsuccess, ⟨⟩⟩⟩⟩⟩⟩⟩⟩⟩ := h
  simp only [hkind.fieldOr_eq _ respects_asText, hcommand.fieldOr_eq _ respects_asText,
    hcommit.fieldOr_eq _ respects_asText, hstarted.fieldOr_eq _ respects_readInstant.nullable,
    hfinished.fieldOr_eq _ respects_readInstant.nullable, houtput.fieldOr_eq _ respects_asText,
    herror.fieldOr_eq _ respects_asText.nullable, hsuccess.fieldOr_eq _ respects_asBool]

namespace Waybill

theorem respects_lastRun? : Respects statusShape lastRun? := by
  refine respects_record (by decide) fun values values' h => ?_
  obtain _ | ⟨hlastRun, ⟨⟩⟩ := h
  exact hlastRun.fieldOr_eq _ Run.respects_ofJson?.nullable

theorem respects_ofJson? (around : Nat) : Respects shape (ofJson? around) := by
  refine respects_record (by decide) fun values values' h => ?_
  obtain _ | ⟨hkind, _ | ⟨hversion, _ | ⟨hidentity, _ | ⟨hspec, _ | ⟨hstatus, ⟨⟩⟩⟩⟩⟩⟩ := h
  simp only [hkind.fieldOr_eq _ respects_asText, hversion.fieldOr_eq _ respects_asText,
    hidentity.fieldOr_eq _ Identity.respects_ofJson?,
    hspec.fieldOr_eq _ (Spec.respects_ofJson? (around + 1)),
    hstatus.fieldOr_eq _ respects_lastRun?]

end Waybill

/-! ### Bodies -/

theorem StatusList.respects_ofJson? : Respects shape ofJson? := by
  have hitems : ∀ i, Respects (Shape.item (.list Waybill.shape) i) (Waybill.ofJson? 2) :=
    fun _ => Waybill.respects_ofJson? 2
  have hwaybills := (Respects.asList hitems).nullOr []
  refine respects_record (by decide) fun values values' h => ?_
  obtain _ | ⟨hlist, _ | ⟨hformat, ⟨⟩⟩⟩ := h
  simp only [hlist.fieldOr_eq _ hwaybills, hformat.fieldOr_eq _ respects_asText]

theorem NamespaceStatus.respects_ofJson? : Respects shape ofJson? := by
  refine respects_record (by decide) fun values values' h => ?_
  obtain _ | ⟨hwaybill, _ | ⟨hformat, ⟨⟩⟩⟩ := h
  simp only [hwaybill.fieldOr_eq _ (Waybill.respects_ofJson? 1).nullable,
    hformat.fieldOr_eq _ respects_asText]

namespace Snapshot

/-- One edit of a document changes nothing. -/
theorem ofJson_edit {scope : Scope} {first second : Json} (h : Edit scope.shape first second)
    (fetchedAt : Time.Instant) : ofJson scope second fetchedAt = ofJson scope first fetchedAt := by
  cases scope with
  | all => simp only [ofJson, StatusList.respects_ofJson? first second h]
  | only ns => simp only [ofJson, NamespaceStatus.respects_ofJson? first second h]

theorem ofJson_edits {scope : Scope} {first second : Json}
    (h : Relation.ReflTransGen (Edit scope.shape) first second) (fetchedAt : Time.Instant) :
    ofJson scope second fetchedAt = ofJson scope first fetchedAt := by
  induction h with
  | refl => rfl
  | tail _ hedit ih => exact (ofJson_edit hedit fetchedAt).trans ih

end Snapshot

/-- Two bodies that differ in the order of members and in members that are not known only; or
neither is a document. -/
inductive BodiesAlike (scope : Scope) (first second : List UInt8) : Prop
  | documents {j j' : Json} (hfirst : HasText j first) (hsecond : HasText j' second)
      (h : Relation.ReflTransGen (Edit scope.shape) j j')
  | neither (hfirst : ∀ j, ¬ HasText j first) (hsecond : ∀ j, ¬ HasText j second)

namespace Snapshot

/-- Bodies that are alike are decoded to the same snapshot, or fail for the same reason. -/
theorem decode_alike {scope : Scope} {first second : List UInt8}
    (h : BodiesAlike scope first second) (fetchedAt : Time.Instant) :
    (decode scope second fetchedAt).mapError FetchError.kind =
      (decode scope first fetchedAt).mapError FetchError.kind := by
  refine congrArg (Except.mapError FetchError.kind) ?_
  cases h with
  | documents hfirst hsecond h =>
      simp only [decode, read_eq_some_iff.mpr hfirst, read_eq_some_iff.mpr hsecond]
      exact ofJson_edits h fetchedAt
  | neither hfirst hsecond =>
      have hnone : ∀ body, (∀ j, ¬ HasText j body) → Json.read body = none := by
        intro body hbody
        exact Option.eq_none_iff_forall_ne_some.mpr fun j hj => hbody j (read_eq_some_iff.mp hj)
      simp only [decode, hnone _ hfirst, hnone _ hsecond]

/-- An object in an added member may be nested, and an object below a list may be turned round. -/
theorem decode_alike_nested :
    let first := Text.Octets.ofString ("\x7b\"Waybills\":[\x7b\"metadata\":" ++
      "\x7b\"namespace\":\"a\"\x7d,\"spec\":\x7b\x7d\x7d]\x7d")
    let second := Text.Octets.ofString ("\x7b\"Version\":[[\x7b\x7d]], \"Waybills\":[\x7b" ++
      "\"spec\":\x7b\x7d,\"metadata\":\x7b\"uid\":1e999,\"namespace\":\"a\"\x7d\x7d]\x7d")
    BodiesAlike .all first second ∧
      (decode .all second .epoch).mapError FetchError.kind =
        (decode .all first .epoch).mapError FetchError.kind := by
  intro first second
  let name (s : String) : Literal := Literal.ofChars s.toList
  let list (waybill : Json) : Json := .object [(name "Waybills", .array [waybill])]
  let plain := Json.object [(name "namespace", text "a")]
  let added := Json.object [(name "uid", .number "1e999".toList), (name "namespace", text "a")]
  let waybill := Json.object [(name "metadata", plain), (name "spec", .object [])]
  let turned := Json.object [(name "spec", .object []), (name "metadata", plain)]
  let grown := Json.object [(name "spec", .object []), (name "metadata", added)]
  have hfirst : Json.read first = some (list waybill) := by rfl
  have hsecond : Json.read second = some (.object [(name "Version", .array [.array [.object []]]),
      (name "Waybills", .array [grown])]) := by rfl
  have hlist : ∀ w w', Edit Waybill.shape w w' → Edit StatusList.shape (list w) (list w') :=
    fun w w' h => @Edit.member _ [] [] _ _ _ (@Edit.item (.list Waybill.shape) [] [] _ _ h)
  have hturned : Edit Waybill.shape waybill turned := .reorder (.swap ..)
  have huid : Edit Identity.shape plain added :=
    .add _ (Literal.text?_ofChars "uid") (by decide)
  have hgrown : Edit Waybill.shape turned grown :=
    @Edit.member _ [(name "spec", .object [])] [] _ _ _ huid
  have hversion : Edit StatusList.shape (list grown) (.object
      [(name "Version", .array [.array [.object []]]), (name "Waybills", .array [grown])]) :=
    .add _ (Literal.text?_ofChars "Version") (by decide)
  have halike : BodiesAlike .all first second :=
    .documents (read_eq_some_iff.mp hfirst) (read_eq_some_iff.mp hsecond)
      (((Relation.ReflTransGen.single (hlist _ _ hturned)).tail (hlist _ _ hgrown)).tail hversion)
  exact ⟨halike, decode_alike halike .epoch⟩

/-- A member is passed over at any depth, but its name has to be a text. -/
theorem decode_name_without_text :
    let name : Literal := [0x5C, 0x75, 0x64, 0x38, 0x30, 0x30]
    let first := Text.Octets.ofString "\x7b\x7d"
    let second := Text.Octets.ofString "\x7b\"\\ud800\":1\x7d"
    HasText (.object []) first ∧ HasText (.object [(name, .number ['1'])]) second ∧
      (∀ s, name.text? ≠ some s) ∧ (∃ s, decode .all first .epoch = .ok s) ∧
      decode .all second .epoch = .error .malformedBody := by
  intro name first second
  have hfirst : Json.read first = some (.object []) := by rfl
  have hsecond : Json.read second = some (.object [(name, .number ['1'])]) := by rfl
  have hname : name.text? = none := by rfl
  refine ⟨read_eq_some_iff.mp hfirst, read_eq_some_iff.mp hsecond, ?_, ?_, ?_⟩
  · intro s hs
    rw [hname] at hs
    cases hs
  · exact ⟨ofList ⟨[], ""⟩ .epoch, by simp only [decode, hfirst]; rfl⟩
  · simp only [decode, hsecond, ofJson, StatusList.ofJson?, fields, namedMembers, hname]
    rfl

end Snapshot

end WaybillBoard
