import Mathlib.Logic.Relation
import WaybillBoard.Json.Record

/-!
Documents that are read alike: the members of objects in another order, and further members in the
objects that are read as records, under names that are not looked for. A reader of a record takes
no notice of either if the readers of its fields do not.
-/

namespace WaybillBoard.Json

/-- What is looked for in a document. -/
inductive Shape
  /-- No fields. -/
  | any
  | list (items : Shape)
  | record (fields : List (String × Shape))

namespace Shape

/-- The shape of an item. A record may also be an array of its fields. -/
def item : Shape → Nat → Shape
  | .any, _ => .any
  | .list items, _ => items
  | .record fields, i => (fields[i]?.map Prod.snd).getD .any

/-- The shape of the value of a member. -/
def member : Shape → Literal → Shape
  | .record fields, name => (name.text?.bind fun s => List.lookup s fields).getD .any
  | _, _ => .any

end Shape

/-- One change to a document of a shape. -/
inductive Edit : Shape → Json → Json → Prop
  /-- Any object may be written in another order. -/
  | reorder {shape : Shape} {members members' : List (Literal × Json)}
      (h : members.Perm members') : Edit shape (.object members) (.object members')
  /-- A record may have a further member under a name of its own. -/
  | add {fields : List (String × Shape)} {members : List (Literal × Json)} {name : Literal}
      {s : String} (value : Json) (hname : name.text? = some s) (hs : s ∉ fields.map Prod.fst) :
      Edit (.record fields) (.object members) (.object ((name, value) :: members))
  | member {shape : Shape} {before after : List (Literal × Json)} {name : Literal}
      {value value' : Json} (h : Edit (shape.member name) value value') :
      Edit shape (.object (before ++ (name, value) :: after))
        (.object (before ++ (name, value') :: after))
  | item {shape : Shape} {before after : List Json} {value value' : Json}
      (h : Edit (shape.item before.length) value value') :
      Edit shape (.array (before ++ value :: after)) (.array (before ++ value' :: after))

/-- What is read does not change with the document. -/
def Respects {α : Type} (shape : Shape) (read : Json → Option α) : Prop :=
  ∀ j j', Edit shape j j' → read j' = read j

/-! ### Documents without fields -/

/-- What may be done to any document may be done to one of a shape. -/
theorem Edit.of_any {j j' : Json} (h : Edit .any j j') (shape : Shape) : Edit shape j j' := by
  generalize hany : Shape.any = free at h
  induction h generalizing shape with
  | reorder h => exact .reorder h
  | add => cases hany
  | member _ ih =>
      subst hany
      exact .member (ih _ rfl)
  | item _ ih =>
      subst hany
      exact .item (ih _ rfl)

theorem itemsAreSound_eq (items : List Json) : itemsAreSound items = items.all isSound := by
  induction items with
  | nil => rfl
  | cons item items ih => simp [itemsAreSound, ih]

theorem membersAreSound_eq (members : List (Literal × Json)) :
    membersAreSound members = members.all fun m => m.1.chars?.isSome && m.2.isSound := by
  induction members with
  | nil => rfl
  | cons m members ih => simp [membersAreSound, ih]

theorem itemsDepthAtMost_eq (depth : Nat) (items : List Json) :
    itemsDepthAtMost depth items = items.all (depthAtMost depth) := by
  induction items with
  | nil => rfl
  | cons item items ih => simp [itemsDepthAtMost, ih]

theorem membersDepthAtMost_eq (depth : Nat) (members : List (Literal × Json)) :
    membersDepthAtMost depth members = members.all fun m => m.2.depthAtMost depth := by
  induction members with
  | nil => rfl
  | cons m members ih => simp [membersDepthAtMost, ih]

theorem Edit.isSound_eq {j j' : Json} (h : Edit .any j j') : j'.isSound = j.isSound := by
  generalize hany : Shape.any = free at h
  induction h with
  | reorder h => simp only [isSound, membersAreSound_eq, h.all_eq]
  | add => cases hany
  | member _ ih =>
      subst hany
      simp [isSound, membersAreSound_eq, ih rfl]
  | item _ ih =>
      subst hany
      simp [isSound, itemsAreSound_eq, ih rfl]

theorem Edit.depthAtMost_eq {j j' : Json} (h : Edit .any j j') (depth : Nat) :
    j'.depthAtMost depth = j.depthAtMost depth := by
  generalize hany : Shape.any = free at h
  induction h generalizing depth with
  | reorder h =>
      cases depth with
      | zero => rfl
      | succ depth => simp only [depthAtMost, membersDepthAtMost_eq, h.all_eq]
  | add => cases hany
  | member _ ih =>
      subst hany
      cases depth with
      | zero => rfl
      | succ depth => simp [depthAtMost, membersDepthAtMost_eq, ih depth rfl]
  | item _ ih =>
      subst hany
      cases depth with
      | zero => rfl
      | succ depth => simp [depthAtMost, itemsDepthAtMost_eq, ih depth rfl]

theorem Edit.isValue_eq {j j' : Json} (h : Edit .any j j') (around : Nat) :
    j'.isValue around = j.isValue around := by
  rw [isValue, isValue, h.isSound_eq, h.depthAtMost_eq]

/-! ### Values -/

variable {α : Type} {shape : Shape} {read : Json → Option α}

/-- Only containers are changed. -/
theorem Respects.of_containers (harray : ∀ items, read (.array items) = none)
    (hobject : ∀ members, read (.object members) = none) : Respects shape read := by
  intro j j' h
  cases h with
  | reorder | add | member => rw [hobject, hobject]
  | item => rw [harray, harray]

theorem respects_asText : Respects shape asText := .of_containers (fun _ => rfl) fun _ => rfl

theorem respects_asBool : Respects shape asBool := .of_containers (fun _ => rfl) fun _ => rfl

theorem respects_asInt64 : Respects shape asInt64 := .of_containers (fun _ => rfl) fun _ => rfl

theorem Respects.nullable (h : Respects shape read) : Respects shape (nullable read) := by
  intro j j' hedit
  have hread := h j j' hedit
  cases hedit with
  | reorder | add | member | item => exact congrArg (Option.map some) hread

theorem Respects.nullOr (h : Respects shape read) (default : α) :
    Respects shape (nullOr default read) := by
  intro j j' hedit
  exact congrArg (Option.map _) (h.nullable j j' hedit)

theorem Respects.asList (h : ∀ i, Respects (shape.item i) read) : Respects shape (asList read) := by
  intro j j' hedit
  cases hedit with
  | reorder | add | member => rfl
  | @item _ before _ value value' hedit =>
      have hvalue := h before.length value value' hedit
      simp only [Json.asList, List.mapM_append, List.mapM_cons, hvalue]

/-! ### Records -/

/-- A field of two documents, at most one edit apart. -/
def FieldClose (shape : Shape) : Option Json → Option Json → Prop :=
  Option.Rel (Relation.ReflGen (Edit shape))

/-- All fields of two documents. -/
inductive FieldsClose : List (String × Shape) → List (Option Json) → List (Option Json) → Prop
  | nil : FieldsClose [] [] []
  | cons {field : String × Shape} {fields : List (String × Shape)} {value value' : Option Json}
      {values values' : List (Option Json)} (h : FieldClose field.2 value value')
      (hs : FieldsClose fields values values') :
      FieldsClose (field :: fields) (value :: values) (value' :: values')

theorem FieldClose.refl (shape : Shape) (value : Option Json) : FieldClose shape value value := by
  cases value with
  | none => exact .none
  | some j => exact .some .refl

theorem FieldClose.of_edit {j j' : Json} (h : Edit shape j j') :
    FieldClose shape (some j) (some j') := .some (.single h)

theorem FieldClose.fieldOr_eq {value value' : Option Json} (h : FieldClose shape value value')
    (default : α) (hread : Respects shape read) :
    fieldOr default read value' = fieldOr default read value := by
  cases h with
  | none => rfl
  | some h =>
      cases h with
      | refl => rfl
      | single h => exact hread _ _ h

theorem fieldsClose_refl {fields : List (String × Shape)} {values : List (Option Json)}
    (h : values.length = fields.length) : FieldsClose fields values values := by
  induction fields generalizing values with
  | nil =>
      obtain rfl := List.eq_nil_of_length_eq_zero h
      exact .nil
  | cons field fields ih =>
      cases values with
      | nil => cases h
      | cons value values => exact .cons (.refl field.2 value) (ih (Nat.succ.inj h))

/-- Each field is looked for by itself. -/
theorem mapM_close {fields : List (String × Shape)} {find find' : String → Option (Option Json)}
    (h : ∀ field ∈ fields, Option.Rel (FieldClose field.2) (find field.1) (find' field.1)) :
    Option.Rel (FieldsClose fields) ((fields.map Prod.fst).mapM find)
      ((fields.map Prod.fst).mapM find') := by
  induction fields with
  | nil => exact .some .nil
  | cons field fields ih =>
      have hfield := h field List.mem_cons_self
      have hfields := ih fun f hf => h f (List.mem_cons_of_mem field hf)
      simp only [List.map_cons, List.mapM_cons]
      revert hfield hfields
      generalize find field.1 = value
      generalize find' field.1 = value'
      generalize (fields.map Prod.fst).mapM find = values
      generalize (fields.map Prod.fst).mapM find' = values'
      intro hfield hfields
      cases hfield with
      | none => exact .none
      | some hfield =>
          cases hfields with
          | none => exact .none
          | some hfields => exact .some (.cons hfield hfields)

theorem fieldsClose_items {fields : List (String × Shape)} {before after : List Json}
    {value value' : Json} (h : Edit (Shape.item (.record fields) before.length) value value')
    (hlength : (before ++ value :: after).length ≤ fields.length) :
    FieldsClose fields
      ((before ++ value :: after).map some ++
        List.replicate (fields.length - (before ++ value :: after).length) none)
      ((before ++ value' :: after).map some ++
        List.replicate (fields.length - (before ++ value' :: after).length) none) := by
  induction fields generalizing before with
  | nil => simp at hlength
  | cons field fields ih =>
      cases before with
      | nil =>
          refine .cons (.of_edit h) (fieldsClose_refl ?_)
          simp only [List.nil_append, List.length_cons] at hlength ⊢
          simp
          omega
      | cons item before =>
          have hitem : Edit (Shape.item (.record fields) before.length) value value' := h
          have hrest := ih hitem (by simpa using hlength)
          simpa using FieldsClose.cons (.refl field.2 (some item)) hrest

/-- A member whose name is a text. -/
def named (m : Literal × Json) : Option (String × Json) := m.1.text?.map (·, m.2)

theorem namedMembers_eq (members : List (Literal × Json)) :
    namedMembers members =
      if members.all fun m => m.1.text?.isSome then some (members.filterMap named) else none := by
  induction members with
  | nil => rfl
  | cons m members ih =>
      obtain ⟨name, value⟩ := m
      cases htext : name.text? with
      | none => simp [namedMembers, htext]
      | some s =>
          simp only [namedMembers, htext, ih, List.all_cons, Option.isSome_some, Bool.true_and]
          split <;> simp [named, htext]

theorem fields_object (names : List String) (members : List (Literal × Json)) :
    fields names (.object members) =
      if members.all fun m => m.1.text?.isSome then
        names.mapM (onlyMember · (members.filterMap named))
      else none := by
  simp only [fields, namedMembers_eq]
  split <;> rfl

theorem onlyMember_perm {members members' : List (String × Json)} (h : members.Perm members')
    (name : String) : onlyMember name members' = onlyMember name members := by
  have hfilter := h.filter fun m => decide (m.1 = name)
  unfold onlyMember
  generalize members.filter (fun m => decide (m.1 = name)) = found at hfilter
  generalize members'.filter (fun m => decide (m.1 = name)) = found' at hfilter
  rcases found with _ | ⟨m, _ | ⟨n, found⟩⟩
  · rw [List.perm_nil.mp hfilter.symm]
  · rw [List.perm_singleton.mp hfilter.symm]
  · have hlength := hfilter.length_eq
    rcases found' with _ | ⟨m', _ | ⟨n', found'⟩⟩
    · cases hlength
    · cases hlength
    · rfl

theorem onlyMember_cons_of_ne {s name : String} (h : s ≠ name) (value : Json)
    (members : List (String × Json)) :
    onlyMember name ((s, value) :: members) = onlyMember name members := by
  simp [onlyMember, h]

theorem rel_fieldClose_refl (shape : Shape) (found : Option (Option Json)) :
    Option.Rel (FieldClose shape) found found := by
  cases found with
  | none => exact .none
  | some value => exact .some (.refl shape value)

theorem onlyMember_close {before after : List (String × Json)} {s name : String}
    {value value' : Json} (h : s = name → Edit shape value value') :
    Option.Rel (FieldClose shape) (onlyMember name (before ++ (s, value) :: after))
      (onlyMember name (before ++ (s, value') :: after)) := by
  by_cases hs : s = name
  · subst hs
    simp only [onlyMember, List.filter_append, List.filter_cons, decide_true, if_true]
    generalize before.filter (fun m => decide (m.1 = s)) = found
    generalize after.filter (fun m => decide (m.1 = s)) = more
    -- The member is the only one of its name, or there are others in both.
    rcases found with _ | ⟨m, _ | ⟨n, found⟩⟩
    · cases more with
      | nil => exact .some (.of_edit (h rfl))
      | cons => exact .none
    · exact .none
    · exact .none
  · simp only [onlyMember, List.filter_append, List.filter_cons, hs, decide_false,
      Bool.false_eq_true, if_false]
    exact rel_fieldClose_refl _ _

theorem lookup_eq {fields : List (String × Shape)} (hnodup : (fields.map Prod.fst).Nodup)
    {field : String × Shape} (h : field ∈ fields) : fields.lookup field.1 = some field.2 := by
  obtain ⟨before, after, rfl⟩ := List.append_of_mem h
  refine List.lookup_eq_some_iff.mpr ⟨before, after, rfl, fun p hp => bne_iff_ne.mpr fun heq => ?_⟩
  rw [List.map_append, List.map_cons, List.nodup_append] at hnodup
  exact hnodup.2.2 _ (List.mem_map_of_mem hp) _ List.mem_cons_self heq.symm

/-- An edit of a record changes each of its fields by at most one edit. -/
theorem fields_close {fields : List (String × Shape)} (hnodup : (fields.map Prod.fst).Nodup)
    {j j' : Json} (h : Edit (.record fields) j j') :
    Option.Rel (FieldsClose fields) (Json.fields (fields.map Prod.fst) j)
      (Json.fields (fields.map Prod.fst) j') := by
  cases h with
  | @reorder _ members members' h =>
      rw [fields_object, fields_object, h.all_eq]
      split
      · refine mapM_close fun field _ => ?_
        rw [onlyMember_perm (h.filterMap named)]
        exact rel_fieldClose_refl _ _
      · exact .none
  | @add _ members name s value hname hs =>
      rw [fields_object, fields_object]
      simp only [List.all_cons, hname, Option.isSome_some, Bool.true_and]
      split
      · refine mapM_close fun field hfield => ?_
        have hne : s ≠ field.1 := fun heq => hs (heq ▸ List.mem_map_of_mem hfield)
        have hnamed : named (name, value) = some (s, value) := by rw [named, hname]; rfl
        rw [List.filterMap_cons_some hnamed, onlyMember_cons_of_ne hne]
        exact rel_fieldClose_refl _ _
      · exact .none
  | @member _ before after name value value' h =>
      rw [fields_object, fields_object]
      simp only [List.all_append, List.all_cons]
      split
      · next hall =>
        have hname : ∃ s, name.text? = some s := by
          simp only [Bool.and_eq_true] at hall
          exact Option.isSome_iff_exists.mp hall.2.1
        obtain ⟨s, hname⟩ := hname
        refine mapM_close fun field hfield => ?_
        have hnamed : ∀ v, named (name, v) = some (s, v) := by
          intro v
          rw [named, hname]
          rfl
        simp only [List.filterMap_append, List.filterMap_cons_some (hnamed _)]
        refine onlyMember_close fun heq => ?_
        have hshape : Shape.member (.record fields) name = field.2 := by
          rw [Shape.member, hname, Option.bind_some, heq, lookup_eq hnodup hfield]
          rfl
        exact hshape ▸ h
      · exact .none
  | @item _ before after value value' h =>
      simp only [Json.fields, List.length_map]
      have hlength : (before ++ value' :: after).length = (before ++ value :: after).length := by
        simp
      rw [hlength]
      split
      · next hle =>
        have hclose := fieldsClose_items h hle
        rw [hlength] at hclose
        exact .some hclose
      · exact .none

/-- A reader of a record respects its shape if it makes the same of fields that are close. -/
theorem respects_record {fields : List (String × Shape)} {build : List (Option Json) → Option α}
    (hnodup : (fields.map Prod.fst).Nodup)
    (hbuild : ∀ values values', FieldsClose fields values values' → build values' = build values) :
    Respects (.record fields) fun j => (Json.fields (fields.map Prod.fst) j).bind build := by
  intro j j' h
  have hclose := fields_close hnodup h
  change (Json.fields (fields.map Prod.fst) j').bind build =
    (Json.fields (fields.map Prod.fst) j).bind build
  revert hclose
  generalize Json.fields (fields.map Prod.fst) j = found
  generalize Json.fields (fields.map Prod.fst) j' = found'
  intro hclose
  cases hclose with
  | none => rfl
  | some hclose => exact hbuild _ _ hclose

end WaybillBoard.Json
