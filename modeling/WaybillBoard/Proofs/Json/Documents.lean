import WaybillBoard.Proofs.Json.Reading
import WaybillBoard.Proofs.Json.Scalars

/-!
Documents, there and back. What is written without blanks is a text of the document, and so it is
read as the same document.
-/

namespace WaybillBoard.Json

open Text.Octets (IsText isText_singleton isText_of_ascii)

/-! ### Arrays and objects -/

theorem renderItems_cons (item next : Json) (items : List Json) :
    renderItems (item :: next :: items) = item.render ++ 0x2C :: renderItems (next :: items) := by
  rw [renderItems]
  exact List.cons_ne_nil next items

theorem renderMembers_cons (m next : Literal × Json) (members : List (Literal × Json)) :
    renderMembers (m :: next :: members) =
      quoted m.1 ++ 0x3A :: (m.2.render ++ 0x2C :: renderMembers (next :: members)) := by
  rw [renderMembers]
  exact List.cons_ne_nil next members

/-- A mark that is written after a value. -/
theorem AreWritten.mark {ts us : List Token} {bs cs : List UInt8} (h : AreWritten ts bs) {b : UInt8}
    (hb : IsMark b) (hmore : AreWritten us cs) :
    AreWritten (ts ++ .mark b :: us) (bs ++ b :: cs) :=
  h.append (.token (.mark hb) hmore)

theorem areWritten_renderItems {item : Json} {items : List Json}
    (h : ∀ j ∈ item :: items, HasText j j.render) :
    AreWritten (tokens item ++ laterItems items) (renderItems (item :: items) ++ [0x5D]) := by
  induction items generalizing item with
  | nil =>
      rw [laterItems]
      exact (h item List.mem_cons_self).mark (by simp [IsMark]) .nil
  | cons next items ih =>
      obtain ⟨hitem, hitems⟩ := List.forall_mem_cons.mp h
      rw [renderItems_cons, laterItems, List.append_assoc]
      exact hitem.mark (by simp [IsMark]) (ih hitems)

theorem hasText_array {items : List Json} (h : ∀ j ∈ items, HasText j j.render) :
    HasText (.array items) (render (.array items)) := by
  have hmark : Token.IsWritten (.mark 0x5B) [0x5B] := .mark (by simp [IsMark])
  cases items with
  | nil =>
      rw [HasText, tokens]
      exact .token hmark (areWritten_singleton (.mark (by simp [IsMark])))
  | cons item items =>
      rw [HasText, tokens, render]
      exact .token hmark (areWritten_renderItems h)

theorem areWritten_member {m : Literal × Json} (hname : IsLiteral m.1)
    (hvalue : HasText m.2 m.2.render) :
    AreWritten (memberTokens m) (quoted m.1 ++ 0x3A :: m.2.render) :=
  .token (.string hname) (.token (.mark (by simp [IsMark])) hvalue)

theorem areWritten_renderMembers {m : Literal × Json} {members : List (Literal × Json)}
    (h : ∀ n ∈ m :: members, IsLiteral n.1 ∧ HasText n.2 n.2.render) :
    AreWritten (memberTokens m ++ laterMembers members) (renderMembers (m :: members) ++ [0x7D]) := by
  induction members generalizing m with
  | nil =>
      obtain ⟨hname, hvalue⟩ := h m List.mem_cons_self
      rw [laterMembers, renderMembers]
      exact (areWritten_member hname hvalue).mark (by simp [IsMark]) .nil
  | cons next members ih =>
      obtain ⟨⟨hname, hvalue⟩, hmembers⟩ := List.forall_mem_cons.mp h
      have hrest := (areWritten_member hname hvalue).mark (b := 0x2C) (by simp [IsMark]) (ih hmembers)
      rw [renderMembers_cons, laterMembers]
      simpa [memberTokens] using hrest

theorem hasText_object {members : List (Literal × Json)}
    (h : ∀ m ∈ members, IsLiteral m.1 ∧ HasText m.2 m.2.render) :
    HasText (.object members) (render (.object members)) := by
  have hmark : Token.IsWritten (.mark 0x7B) [0x7B] := .mark (by simp [IsMark])
  cases members with
  | nil =>
      rw [HasText, tokens]
      exact .token hmark (areWritten_singleton (.mark (by simp [IsMark])))
  | cons m members =>
      rw [HasText, tokens, render]
      exact .token hmark (areWritten_renderMembers h)

/-! ### Whole documents -/

/-- The documents that are written: their numbers are whole, and their strings are of texts. -/
inductive Written : Json → Prop
  | null : Written .null
  | bool (b : Bool) : Written (.bool b)
  | ofInt (n : Int) : Written (ofInt n)
  | chars (cs : List Char) : Written (chars cs)
  | array {items : List Json} (h : ∀ j ∈ items, Written j) : Written (.array items)
  | object {members : List (Literal × Json)}
      (hnames : ∀ m ∈ members, ∃ cs, m.1 = Literal.ofChars cs)
      (hvalues : ∀ m ∈ members, Written m.2) : Written (.object members)

theorem Written.hasText {j : Json} (h : Written j) : HasText j j.render := by
  induction h with
  | null => exact hasText_null
  | bool b => exact hasText_bool b
  | ofInt n => exact hasText_ofInt n
  | chars cs => exact hasText_chars cs
  | array _ ih => exact hasText_array ih
  | object hnames _ ih =>
      refine hasText_object fun m hm => ⟨?_, ih m hm⟩
      obtain ⟨cs, hcs⟩ := hnames m hm
      rw [hcs]
      exact isLiteral_ofChars cs

/-- What was written is read as what it was. -/
theorem read_render {j : Json} (h : Written j) : read j.render = some j :=
  read_eq_some_iff.mpr h.hasText

/-! ### The text of a document -/

theorem isText_quoted (cs : List Char) : IsText (quoted (Literal.ofChars cs)) :=
  ((isText_ofChars cs).append (isText_singleton (by decide))).cons (by decide)

theorem isText_renderItems {items : List Json} (h : ∀ j ∈ items, IsText j.render) :
    IsText (renderItems items) := by
  induction items with
  | nil => exact ⟨[], rfl⟩
  | cons item items ih =>
      have hitem := h item List.mem_cons_self
      cases items with
      | nil => exact hitem
      | cons next items =>
          rw [renderItems_cons]
          exact hitem.append ((ih fun j hj => h j (List.mem_cons_of_mem item hj)).cons (by decide))

theorem isText_renderMembers {members : List (Literal × Json)}
    (h : ∀ m ∈ members, IsText (quoted m.1) ∧ IsText m.2.render) :
    IsText (renderMembers members) := by
  induction members with
  | nil => exact ⟨[], rfl⟩
  | cons m members ih =>
      obtain ⟨hname, hvalue⟩ := h m List.mem_cons_self
      cases members with
      | nil => exact hname.append (hvalue.cons (by decide))
      | cons next members =>
          have hrest := ih fun n hn => h n (List.mem_cons_of_mem m hn)
          rw [renderMembers_cons]
          exact hname.append ((hvalue.append (hrest.cons (by decide))).cons (by decide))

theorem isText_intDigits (n : Int) : IsText (asciiOctets (Binary64.intDigits n)) := by
  refine isText_of_ascii (List.all_eq_true.mpr fun b hb => decide_eq_true ?_)
  obtain ⟨c, hc, rfl⟩ := List.mem_map.mp hb
  rw [UInt8.lt_iff_toNat_lt]
  exact Nat.lt_of_le_of_lt (Nat.mod_le _ _) (toNat_lt_of_mem_intDigits hc)

theorem Written.isText {j : Json} (h : Written j) : IsText j.render := by
  induction h with
  | null => exact isText_of_ascii (by decide)
  | bool b => cases b <;> exact isText_of_ascii (by decide)
  | ofInt n => exact isText_intDigits n
  | chars cs => exact isText_quoted cs
  | array _ ih =>
      exact ((isText_renderItems ih).append (isText_singleton (by decide))).cons (by decide)
  | object hnames _ ih =>
      have hmembers := isText_renderMembers fun m hm => ⟨by
        obtain ⟨cs, hcs⟩ := hnames m hm
        rw [hcs]
        exact isText_quoted cs, ih m hm⟩
      exact (hmembers.append (isText_singleton (by decide))).cons (by decide)

end WaybillBoard.Json
