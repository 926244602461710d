import WaybillBoard.Json.Printer
import WaybillBoard.Proofs.Json.Text
import WaybillBoard.Proofs.Json.Tokens

/-!
The texts of documents: their tokens in order, with blanks wherever they may stand.
-/

namespace WaybillBoard.Json

/-! ### Numbers -/

/-- Any number of digits, and what may follow them. -/
inductive DigitsThen (tail : List UInt8 → Prop) : List UInt8 → Prop
  | done {bs : List UInt8} (h : tail bs) : DigitsThen tail bs
  | digit {d : UInt8} {bs : List UInt8} (hd : isDigit d = true) (h : DigitsThen tail bs) :
      DigitsThen tail (d :: bs)

/-- At least one digit. -/
def SomeDigitsThen (tail : List UInt8 → Prop) (bs : List UInt8) : Prop :=
  ∃ d rest, bs = d :: rest ∧ isDigit d = true ∧ DigitsThen tail rest

/-- The digits of an exponent, which may have a sign. -/
def IsExponentValue (bs : List UInt8) : Prop :=
  SomeDigitsThen (· = []) bs ∨
    ∃ sign rest, bs = sign :: rest ∧ (sign = 0x2B ∨ sign = 0x2D) ∧ SomeDigitsThen (· = []) rest

/-- The end of a number, or an exponent. -/
def IsExponentOrEnd (bs : List UInt8) : Prop :=
  bs = [] ∨ ∃ mark rest, bs = mark :: rest ∧ isExponentMark mark = true ∧ IsExponentValue rest

/-- What may follow the whole part of a number. -/
def IsFractionOrEnd (bs : List UInt8) : Prop :=
  IsExponentOrEnd bs ∨ ∃ rest, bs = 0x2E :: rest ∧ SomeDigitsThen IsExponentOrEnd rest

/-- A number without a sign. No zeros stand in front of its other digits. -/
def IsMagnitude (bs : List UInt8) : Prop :=
  (∃ rest, bs = 0x30 :: rest ∧ IsFractionOrEnd rest) ∨
    ∃ d rest, bs = d :: rest ∧ isDigit d = true ∧ d ≠ 0x30 ∧ DigitsThen IsFractionOrEnd rest

def IsNumber (bs : List UInt8) : Prop :=
  IsMagnitude bs ∨ ∃ rest, bs = 0x2D :: rest ∧ IsMagnitude rest

theorem digitsThen_nil {tail : List UInt8 → Prop} : DigitsThen tail [] ↔ tail [] := by
  constructor
  · intro h
    cases h with
    | done h => exact h
  · exact .done

theorem digitsThen_cons {tail : List UInt8 → Prop} {b : UInt8} {bs : List UInt8} :
    DigitsThen tail (b :: bs) ↔ tail (b :: bs) ∨ isDigit b = true ∧ DigitsThen tail bs := by
  constructor
  · intro h
    cases h with
    | done h => exact .inl h
    | digit hd h => exact .inr ⟨hd, h⟩
  · rintro (h | ⟨hd, h⟩)
    · exact .done h
    · exact .digit hd h

@[simp] theorem someDigitsThen_nil {tail : List UInt8 → Prop} : ¬ SomeDigitsThen tail [] := by
  rintro ⟨d, rest, h, -⟩
  cases h

@[simp] theorem someDigitsThen_cons {tail : List UInt8 → Prop} {b : UInt8} {bs : List UInt8} :
    SomeDigitsThen tail (b :: bs) ↔ isDigit b = true ∧ DigitsThen tail bs := by
  simp [SomeDigitsThen, and_assoc]

theorem isExponentOrEnd_cons {b : UInt8} {bs : List UInt8} :
    IsExponentOrEnd (b :: bs) ↔ isExponentMark b = true ∧ IsExponentValue bs := by
  simp [IsExponentOrEnd, and_assoc]

theorem isFractionOrEnd_cons {b : UInt8} {bs : List UInt8} :
    IsFractionOrEnd (b :: bs) ↔
      isExponentMark b = true ∧ IsExponentValue bs ∨
        b = 0x2E ∧ SomeDigitsThen IsExponentOrEnd bs := by
  simp [IsFractionOrEnd, isExponentOrEnd_cons, and_assoc]

/-! ### Strings -/

/-- What may stand between quotes. The escapes of a character need not come in pairs. -/
inductive IsLiteral : Literal → Prop
  | nil : IsLiteral []
  | plain {b : UInt8} {rest : Literal} (hb : IsPlain b) (h : IsLiteral rest) :
      IsLiteral (b :: rest)
  | letter {l : UInt8} {rest : Literal} (hl : isEscapeLetter l = true) (h : IsLiteral rest) :
      IsLiteral (0x5C :: l :: rest)
  | number {digits rest : Literal} (hlength : digits.length = 4)
      (hdigits : ∀ d ∈ digits, isHexDigit d = true) (h : IsLiteral rest) :
      IsLiteral (0x5C :: 0x75 :: (digits ++ rest))

theorem isLiteral_cons {b : UInt8} {rest : Literal} (h : IsLiteral (b :: rest)) :
    IsPlain b ∧ IsLiteral rest ∨ b = 0x5C := by
  cases h with
  | plain hb h => exact .inl ⟨hb, h⟩
  | letter | number => exact .inr rfl

/-! ### Tokens and blanks -/

/-- One of the marks `[`, `]`, `{`, `}`, `,` and `:`. -/
def IsMark (b : UInt8) : Prop :=
  b = 0x5B ∨ b = 0x5D ∨ b = 0x7B ∨ b = 0x7D ∨ b = 0x2C ∨ b = 0x3A

/-- How a token is written. -/
inductive Token.IsWritten : Token → List UInt8 → Prop
  | mark {b : UInt8} (hb : IsMark b) : IsWritten (.mark b) [b]
  | null : IsWritten .null [0x6E, 0x75, 0x6C, 0x6C]
  | bool_true : IsWritten (.bool true) [0x74, 0x72, 0x75, 0x65]
  | bool_false : IsWritten (.bool false) [0x66, 0x61, 0x6C, 0x73, 0x65]
  | number {bs : List UInt8} (h : IsNumber bs) :
      IsWritten (.number (bs.map fun b => Char.ofNat b.toNat)) bs
  | string {literal : Literal} (h : IsLiteral literal) : IsWritten (.string literal) (quoted literal)

/-- Tokens one after the other, with blanks between them. -/
inductive AreWritten : List Token → List UInt8 → Prop
  | nil : AreWritten [] []
  | blank {ts : List Token} {b : UInt8} {bs : List UInt8} (hb : isBlank b = true)
      (h : AreWritten ts bs) : AreWritten ts (b :: bs)
  | token {t : Token} {ts : List Token} {word bs : List UInt8} (ht : t.IsWritten word)
      (h : AreWritten ts bs) : AreWritten (t :: ts) (word ++ bs)

/-- The octets are a text of the document. -/
def HasText (document : Json) (text : List UInt8) : Prop := AreWritten (tokens document) text

theorem AreWritten.append {ts us : List Token} {bs cs : List UInt8} (h : AreWritten ts bs)
    (hmore : AreWritten us cs) : AreWritten (ts ++ us) (bs ++ cs) := by
  induction h with
  | nil => exact hmore
  | blank hb _ ih => exact .blank hb ih
  | token ht _ ih =>
      rw [List.cons_append, List.append_assoc]
      exact .token ht ih

theorem Token.IsWritten.ne_nil {t : Token} {word : List UInt8} (h : t.IsWritten word) :
    word ≠ [] := by
  rintro rfl
  cases h with
  | number h => simp [IsNumber, IsMagnitude] at h

theorem areWritten_nil {ts : List Token} (h : AreWritten ts []) : ts = [] := by
  generalize htext : ([] : List UInt8) = text at h
  cases h with
  | nil => rfl
  | blank => cases htext
  | token ht => exact absurd (List.nil_eq_append_iff.mp htext).1 ht.ne_nil

end WaybillBoard.Json
