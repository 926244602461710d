import WaybillBoard.Json.Record
import WaybillBoard.Proofs.Json.Documents

/-!
Records, there and back. A record is written as an object with the fields that are present, and the
reader finds each under its name again, since no two fields have the same.
-/

namespace WaybillBoard.Json

/-! ### The fields of an object -/

/-- The members of an object with these fields, the absent ones left out. -/
def membersOf (entries : List (String × Option Json)) : List (Literal × Json) :=
  entries.flatMap fun e => memberIf e.1 e.2

/-- The fields that are present. -/
def present (entries : List (String × Option Json)) : List (String × Json) :=
  entries.filterMap fun e => e.2.map (e.1, ·)

theorem namedMembers_membersOf (entries : List (String × Option Json)) :
    namedMembers (membersOf entries) = some (present entries) := by
  induction entries with
  | nil => rfl
  | cons e entries ih =>
      obtain ⟨name, _ | value⟩ := e
      · exact ih
      · have hcons : membersOf ((name, some value) :: entries) =
            (Literal.ofChars name.toList, value) :: membersOf entries := rfl
        rw [hcons, namedMembers, Literal.text?_ofChars, ih]
        rfl

theorem filter_present_of_notMem {name : String} {entries : List (String × Option Json)}
    (h : name ∉ entries.map Prod.fst) :
    (present entries).filter (fun m => m.1 = name) = [] := by
  rw [List.filter_eq_nil_iff]
  intro m hm
  obtain ⟨e, he, hvalue⟩ := List.mem_filterMap.mp hm
  obtain ⟨value, -, rfl⟩ := Option.map_eq_some_iff.mp hvalue
  simp only [decide_eq_true_eq]
  rintro rfl
  exact h (List.mem_map_of_mem he)

/-- A field is found under its name, or found absent. -/
theorem onlyMember_present {entries : List (String × Option Json)}
    (hnodup : (entries.map Prod.fst).Nodup) {e : String × Option Json} (he : e ∈ entries) :
    onlyMember e.1 (present entries) = some e.2 := by
  have hfilter : (present entries).filter (fun m => m.1 = e.1) = e.2.toList.map (e.1, ·) := by
    induction entries with
    | nil => contradiction
    | cons d entries ih =>
        rw [List.map_cons, List.nodup_cons] at hnodup
        have hcons : present (d :: entries) = d.2.toList.map (d.1, ·) ++ present entries := by
          obtain ⟨name, _ | value⟩ := d <;> rfl
        rw [hcons, List.filter_append]
        rcases List.mem_cons.mp he with rfl | he
        · rw [filter_present_of_notMem hnodup.1, List.append_nil, List.filter_eq_self]
          intro m hm
          obtain ⟨value, -, rfl⟩ := List.mem_map.mp hm
          exact decide_eq_true rfl
        · have hne : d.1 ≠ e.1 := fun h => hnodup.1 (h ▸ List.mem_map_of_mem he)
          have hnone : (d.2.toList.map (d.1, ·)).filter (fun m => m.1 = e.1) = [] := by
            rw [List.filter_eq_nil_iff]
            intro m hm
            obtain ⟨value, -, rfl⟩ := List.mem_map.mp hm
            simpa using hne
          rw [hnone, ih hnodup.2 he, List.nil_append]
  rw [onlyMember, hfilter]
  cases e.2 <;> rfl

theorem mapM_map_eq_some {α β γ : Type} {f : β → Option γ} {g : α → β} {k : α → γ} {items : List α}
    (h : ∀ a ∈ items, f (g a) = some (k a)) : (items.map g).mapM f = some (items.map k) := by
  induction items with
  | nil => rfl
  | cons a items ih =>
      have hrest := ih fun b hb => h b (List.mem_cons_of_mem a hb)
      simp [List.mapM_cons, h a List.mem_cons_self, hrest]

theorem fields_membersOf {names : List String} {entries : List (String × Option Json)}
    (hnames : entries.map Prod.fst = names) (hnodup : names.Nodup) :
    fields names (.object (membersOf entries)) = some (entries.map Prod.snd) := by
  subst hnames
  simp only [fields, namedMembers_membersOf, Option.bind_eq_bind, Option.bind_some]
  exact mapM_map_eq_some fun e he => onlyMember_present hnodup he

theorem memberIf_some (name : String) (value : Json) :
    memberIf name (some value) = member name value := rfl

theorem written_membersOf {entries : List (String × Option Json)}
    (h : ∀ e ∈ entries, ∀ j ∈ e.2, Written j) : Written (.object (membersOf entries)) := by
  have hmember : ∀ m ∈ membersOf entries, ∃ e ∈ entries, ∃ j ∈ e.2,
      m = (Literal.ofChars e.1.toList, j) := by
    intro m hm
    obtain ⟨⟨name, _ | j⟩, he, hm⟩ := List.mem_flatMap.mp hm
    · contradiction
    · exact ⟨_, he, j, rfl, List.mem_singleton.mp hm⟩
  refine .object (fun m hm => ?_) (fun m hm => ?_)
  · obtain ⟨e, -, j, -, rfl⟩ := hmember m hm
    exact ⟨e.1.toList, rfl⟩
  · obtain ⟨e, he, j, hj, rfl⟩ := hmember m hm
    exact h e he j hj

theorem written_some {j : Json} (h : Written j) : ∀ k ∈ some j, Written k := by
  rintro k ⟨⟩
  exact h

theorem written_map {α : Type} {o : Option α} {write : α → Json} (h : ∀ a, Written (write a)) :
    ∀ j ∈ o.map write, Written j := by
  intro j hj
  obtain ⟨a, -, rfl⟩ := Option.map_eq_some_iff.mp hj
  exact h a

/-! ### Values -/

@[simp] theorem asText_text (s : String) : asText (text s) = some s := Literal.text?_ofChars s

@[simp] theorem fieldOr_some {α : Type} (default : α) (read : Json → Option α) (j : Json) :
    fieldOr default read (some j) = read j := rfl

theorem asList_map {α : Type} {read : Json → Option α} {write : α → Json} {items : List α}
    (h : ∀ a ∈ items, read (write a) = some a) :
    asList read (.array (items.map write)) = some items :=
  (mapM_map_eq_some (k := id) h).trans (congrArg some (List.map_id items))

/-- A value that is not `null` is read where it may be. -/
theorem nullable_of_ne_null {α : Type} {read : Json → Option α} {j : Json} {a : α}
    (hnull : j ≠ .null) (h : read j = some a) : nullable read j = some (some a) := by
  cases j with
  | null => exact absurd rfl hnull
  | bool | number | string | array | object => simp only [nullable, h, Option.map_some]

/-- What is read from a field is the default or comes from a value. -/
theorem of_fieldOr {α : Type} {P : α → Prop} {default a : α} {read : Json → Option α}
    {field : Option Json} (h : fieldOr default read field = some a) (hdefault : P default)
    (hread : ∀ j a, read j = some a → P a) : P a := by
  cases field with
  | none => exact Option.some.inj h ▸ hdefault
  | some j => exact hread j a h

/-- What is read from a field that may be `null` is read from a value. -/
theorem of_fieldOr_nullable {α : Type} {P : α → Prop} {read : Json → Option α} {field : Option Json}
    {o : Option α} (h : fieldOr none (nullable read) field = some o)
    (hread : ∀ j a, read j = some a → P a) {a : α} (ha : a ∈ o) : P a := by
  obtain rfl : o = some a := ha
  cases field with
  | none => cases h
  | some j =>
      refine hread j a ?_
      cases j with
      | null => cases h
      | bool | number | string | array | object =>
          obtain ⟨b, hb, hsome⟩ := Option.map_eq_some_iff.mp h
          exact Option.some.inj hsome ▸ hb

theorem of_nullOr {α : Type} {P : α → Prop} {default a : α} {read : Json → Option α} {j : Json}
    (h : nullOr default read j = some a) (hdefault : P default)
    (hread : ∀ j a, read j = some a → P a) : P a := by
  obtain ⟨o, ho, rfl⟩ := Option.map_eq_some_iff.mp h
  have hfield : fieldOr none (nullable read) (some j) = some o := ho
  cases o with
  | none => exact hdefault
  | some a => exact of_fieldOr_nullable hfield hread rfl

theorem of_asList {α : Type} {P : α → Prop} {read : Json → Option α} {j : Json} {items : List α}
    (h : asList read j = some items) (hread : ∀ j a, read j = some a → P a) :
    ∀ a ∈ items, P a := by
  cases j with
  | array js =>
      have hitems : js.mapM read = some items := h
      induction js generalizing items with
      | nil =>
          obtain rfl := Option.some.inj hitems
          exact List.forall_mem_nil P
      | cons j js ih =>
          simp only [List.mapM_cons, Option.bind_eq_bind, Option.bind_eq_some_iff,
            Option.pure_def, Option.some.injEq] at hitems
          obtain ⟨a, ha, rest, hrest, rfl⟩ := hitems
          exact List.forall_mem_cons.mpr ⟨hread j a ha, ih hrest hrest⟩
  | null | bool | number | string | object => cases h

/-- Is the value read back after it was written, and not as an absent one? -/
def Recovers {α : Type} (read : Json → Option α) (write : α → Json) (a : α) : Prop :=
  write a ≠ .null ∧ read (write a) = some a

theorem fieldOr_map {α : Type} {read : Json → Option α} {write : α → Json} {o : Option α}
    (h : ∀ a ∈ o, Recovers read write a) :
    fieldOr none (nullable read) (o.map write) = some o := by
  cases o with
  | none => rfl
  | some a => exact nullable_of_ne_null (h a rfl).1 (h a rfl).2

theorem nullable_orNull {α : Type} {read : Json → Option α} {write : α → Json} {o : Option α}
    (h : ∀ a ∈ o, Recovers read write a) : nullable read (orNull write o) = some o := by
  cases o with
  | none => rfl
  | some a => exact nullable_of_ne_null (h a rfl).1 (h a rfl).2

theorem recovers_text (s : String) : Recovers asText text s :=
  ⟨Json.noConfusion, asText_text s⟩

theorem recovers_bool (b : Bool) : Recovers asBool .bool b := ⟨Json.noConfusion, rfl⟩

/-! ### Whole numbers -/

open Binary64 (intDigits)

theorem ofDigits_intDigits (n : Int) :
    NumberParts.ofDigits (intDigits n) = ⟨decide (n < 0), Text.natDigits n.natAbs, [], none⟩ := by
  have hdigits : ∀ c ∈ Text.natDigits n.natAbs, Text.isDigit c = true :=
    fun _ => Text.isDigit_of_mem_natDigits
  have htake := Text.takeWhile_digits hdigits
  have hdrop := Text.dropWhile_digits hdigits
  unfold intDigits
  split
  · next hn => simp [NumberParts.ofDigits, htake, hdrop, hn]
  · next hn =>
    -- A digit is no sign, so nothing is taken off in front.
    unfold NumberParts.ofDigits
    split
    · next heq =>
      split at heq
      · next hsign => exact absurd (hdigits '-' (hsign ▸ List.mem_cons_self)) (by decide)
      · simp only [Prod.mk.injEq] at heq
        obtain ⟨rfl, rfl⟩ := heq
        simp [htake, hdrop, hn]

/-- A whole number of 64 bits with a sign. -/
def FitsInt64 (n : Int) : Prop := -0x8000000000000000 ≤ n ∧ n < 0x8000000000000000

theorem numberValue?_intDigits {n : Int} (h : FitsInt64 n) :
    numberValue? (intDigits n) = some (.whole n) := by
  obtain ⟨hlow, hhigh⟩ := h
  simp only [numberValue?, ofDigits_intDigits, Text.digitsValue_natDigits, List.isEmpty_nil,
    Option.isNone_none, Bool.and_self, if_true, decide_eq_true_eq]
  split
  · rw [if_pos (by omega), (by omega : -(n.natAbs : Int) = n)]
  · rw [if_pos (by omega), (by omega : (n.natAbs : Int) = n)]

theorem recovers_ofInt {n : Int} (h : FitsInt64 n) : Recovers asInt64 ofInt n := by
  refine ⟨Json.noConfusion, ?_⟩
  simp only [ofInt, asInt64, numberValue?_intDigits h]
  exact if_pos h

theorem fitsInt64_of_asInt64 {j : Json} {n : Int} (h : asInt64 j = some n) : FitsInt64 n := by
  unfold asInt64 at h
  split at h
  · split at h
    · split at h
      · next hfits =>
        obtain rfl := Option.some.inj h
        exact hfits
      · cases h
    · cases h
  · cases h

end WaybillBoard.Json
