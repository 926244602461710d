import Mathlib.Tactic.SplitIfs
import WaybillBoard.Proofs.Json.Grammar

/-!
The reader accepts the texts of documents and nothing else, whatever the nesting. What has been
read of a string or a number says what may follow; at each octet, the texts that lead on from a
state are those that lead on from the next one.
-/

namespace WaybillBoard.Json

/-! ### What may follow -/

/-- What may follow a part of a number. -/
def NumberPart.Rest : NumberPart → List UInt8 → Prop
  | .sign => IsMagnitude
  | .zero => IsFractionOrEnd
  | .whole => DigitsThen IsFractionOrEnd
  | .point => SomeDigitsThen IsExponentOrEnd
  | .fraction => DigitsThen IsExponentOrEnd
  | .exponentMark => IsExponentValue
  | .exponentSign => SomeDigitsThen (· = [])
  | .exponent => DigitsThen (· = [])

namespace NumberPart

theorem rest_nil (part : NumberPart) : part.Rest [] ↔ part.mayEnd = true := by
  cases part <;>
    simp [Rest, mayEnd, digitsThen_nil, IsMagnitude, IsFractionOrEnd, IsExponentOrEnd,
      IsExponentValue]

/-- No digit has another meaning in a number. -/
theorem of_isDigit {b : UInt8} (h : isDigit b = true) :
    isExponentMark b = false ∧ b ≠ 0x2E ∧ b ≠ 0x2B ∧ b ≠ 0x2D := by
  have hne : ∀ c : UInt8, isDigit c = false → b ≠ c := by
    rintro c hc rfl
    rw [h] at hc
    cases hc
  refine ⟨?_, hne _ rfl, hne _ rfl, hne _ rfl⟩
  simp [isExponentMark, hne 0x65 rfl, hne 0x45 rfl]

theorem rest_cons (part : NumberPart) (b : UInt8) (bs : List UInt8) :
    part.Rest (b :: bs) ↔ ∃ next, part.next b = some next ∧ next.Rest bs := by
  by_cases hdigit : isDigit b = true
  · obtain ⟨hmark, hpoint, hplus, hminus⟩ := of_isDigit hdigit
    cases part with
    | sign =>
        by_cases hzero : b = 0x30 <;> simp [Rest, next, IsMagnitude, hzero, hdigit, and_assoc]
    | zero => simp [Rest, next, isFractionOrEnd_cons, hmark, hpoint]
    | whole =>
        simp [Rest, next, digitsThen_cons, isFractionOrEnd_cons, hmark, hpoint, hdigit]
    | point => simp [Rest, next, hdigit]
    | fraction => simp [Rest, next, digitsThen_cons, isExponentOrEnd_cons, hmark, hdigit]
    | exponentMark => simp [Rest, next, IsExponentValue, hplus, hminus, hdigit]
    | exponentSign => simp [Rest, next, hdigit]
    | exponent => simp [Rest, next, digitsThen_cons, hdigit]
  · have hzero : b ≠ 0x30 := by
      rintro rfl
      exact hdigit rfl
    by_cases hpoint : b = 0x2E
    · subst hpoint
      cases part <;>
        simp [Rest, next, IsMagnitude, digitsThen_cons, isFractionOrEnd_cons, isExponentOrEnd_cons,
          IsExponentValue, isDigit, isExponentMark]
    · cases part with
      | sign => simp [Rest, next, IsMagnitude, hzero, hdigit]
      | zero => simp [Rest, next, isFractionOrEnd_cons, hpoint, and_assoc]
      | whole =>
          simp [Rest, next, digitsThen_cons, isFractionOrEnd_cons, hpoint, hdigit, and_assoc]
      | point => simp [Rest, next, hdigit]
      | fraction => simp [Rest, next, digitsThen_cons, isExponentOrEnd_cons, hdigit, and_assoc]
      | exponentMark => simp [Rest, next, IsExponentValue, hdigit, and_assoc]
      | exponentSign => simp [Rest, next, hdigit]
      | exponent => simp [Rest, next, digitsThen_cons, hdigit]

end NumberPart

/-- What may follow in a string. -/
def Escape.Rest : Escape → Literal → Prop
  | .plain, more => IsLiteral more
  | .letter, more => IsLiteral (0x5C :: more)
  | .hex n, more => ∃ digits rest, more = digits ++ rest ∧ digits.length = n + 1 ∧
      (∀ d ∈ digits, isHexDigit d = true) ∧ IsLiteral rest

/-- The octets finish what is being read and lead from there to the document. -/
def State.Leads (document : Json) : State → List UInt8 → Prop
  | ⟨place, .none⟩, bs =>
    ∃ ts, AreWritten ts bs ∧ ts.foldlM Place.take place = some (.done document)
  | ⟨place, .string read escape⟩, bs => ∃ more rest ts, bs = more ++ 0x22 :: rest ∧
      escape.Rest more ∧ AreWritten ts rest ∧
      (.string (read.reverse ++ more) :: ts).foldlM Place.take place = some (.done document)
  | ⟨place, .number read part⟩, bs => ∃ more rest ts, bs = more ++ rest ∧
      part.Rest more ∧ AreWritten ts rest ∧
      (.number (charsOfReversed (more.reverse ++ read)) :: ts).foldlM Place.take place =
        some (.done document)
  | ⟨place, .word letters value⟩, bs => ∃ rest ts, bs = letters ++ rest ∧ letters ≠ [] ∧
      AreWritten ts rest ∧
      (place.scalar value).bind (ts.foldlM Place.take ·) = some (.done document)

/-! ### The end of a text -/

variable {place : Place} {document : Json} {b : UInt8} {bs : List UInt8}

theorem finish_between : finish ⟨place, .none⟩ = some document ↔ place = .done document := by
  cases place <;> simp [finish]

theorem finish_eq_some_iff {state : State} :
    finish state = some document ↔ state.Leads document [] := by
  obtain ⟨place, lexeme⟩ := state
  cases lexeme with
  | none =>
      rw [finish_between]
      constructor
      · rintro rfl
        exact ⟨[], .nil, rfl⟩
      · rintro ⟨ts, hwritten, hleads⟩
        obtain rfl := areWritten_nil hwritten
        exact Option.some.inj hleads
  | string read escape =>
      constructor
      · intro h
        cases h
      · rintro ⟨more, rest, ts, htext, -⟩
        cases more <;> cases htext
  | number read part =>
      constructor
      · intro h
        cases hend : part.mayEnd with
        | false => simp [finish, hend] at h
        | true =>
            refine ⟨[], [], [], rfl, (part.rest_nil).mpr hend, .nil, ?_⟩
            cases hplace : place.scalar (.number (charsOfReversed read)) with
            | none => simp [finish, hend, hplace] at h
            | some next =>
                have hfinish : finish ⟨next, .none⟩ = some document := by
                  simpa [finish, hend, hplace] using h
                simpa [Place.take, hplace] using finish_between.mp hfinish
      · rintro ⟨more, rest, ts, htext, hrest, hwritten, hleads⟩
        obtain ⟨rfl, rfl⟩ := List.nil_eq_append_iff.mp htext
        obtain rfl := areWritten_nil hwritten
        have hplace : place.scalar (.number (charsOfReversed read)) = some (.done document) := by
          simpa [Place.take] using hleads
        simp [finish, (part.rest_nil).mp hrest, hplace]
  | word letters value =>
      constructor
      · intro h
        cases h
      · rintro ⟨rest, ts, htext, hne, -⟩
        exact absurd (List.nil_eq_append_iff.mp htext).1 hne

/-! ### One octet of a text -/

theorem isMark_of_mark {next : Place} (h : place.mark b = some next) : IsMark b := by
  cases place <;> simp only [Place.mark] at h <;> grind [IsMark]

theorem leads_mark {ts : List Token} (hb : IsMark b) (hwritten : AreWritten ts bs)
    (hleads : (.mark b :: ts).foldlM Place.take place = some (.done document)) :
    ∃ next, stepBetween place b = some next ∧ next.Leads document bs := by
  rw [List.foldlM_cons] at hleads
  obtain ⟨next, hnext, hleads⟩ := Option.bind_eq_some_iff.mp hleads
  have hstep : stepBetween place b = (place.mark b).map (⟨·, .none⟩) := by
    rcases hb with rfl | rfl | rfl | rfl | rfl | rfl <;> rfl
  have hmark : place.mark b = some next := hnext
  exact ⟨⟨next, .none⟩, by rw [hstep, hmark]; rfl, ts, hwritten, hleads⟩

theorem stepBetween_digit (hdigit : isDigit b = true) (hzero : b ≠ 0x30) (place : Place) :
    stepBetween place b = some ⟨place, .number [b] .whole⟩ := by
  have hle : 0x30 ≤ b.toNat := by
    simp only [isDigit, Bool.and_eq_true, decide_eq_true_eq, UInt8.le_iff_toNat_le] at hdigit
    exact hdigit.1
  have hne : ∀ c : UInt8, c.toNat < 0x30 → b ≠ c := by
    rintro c hc rfl
    omega
  have hblank : isBlank b = false := by
    simp [isBlank, hne 0x20 (by decide), hne 0x09 (by decide), hne 0x0A (by decide),
      hne 0x0D (by decide)]
  simp [stepBetween, hblank, hne 0x22 (by decide), hne 0x2D (by decide), hzero, hdigit]

theorem leads_number {word : List UInt8} {ts : List Token} {rest : List UInt8}
    (hword : IsNumber word) (htext : word ++ rest = b :: bs) (hwritten : AreWritten ts rest)
    (hleads : (.number (word.map fun c => Char.ofNat c.toNat) :: ts).foldlM Place.take place =
      some (.done document)) :
    ∃ next, stepBetween place b = some next ∧ next.Leads document bs := by
  -- The number is the octet that is read and the rest of it.
  have hstart : ∃ more part, word = b :: more ∧ bs = more ++ rest ∧ part.Rest more ∧
      stepBetween place b = some ⟨place, .number [b] part⟩ := by
    rcases hword with (⟨more, rfl, hmore⟩ | ⟨d, more, rfl, hdigit, hzero, hmore⟩) | ⟨more, rfl, hmore⟩
    · obtain ⟨rfl, rfl⟩ := List.cons.inj htext
      exact ⟨more, .zero, rfl, rfl, hmore, rfl⟩
    · obtain ⟨rfl, rfl⟩ := List.cons.inj htext
      exact ⟨more, .whole, rfl, rfl, hmore, stepBetween_digit hdigit hzero place⟩
    · obtain ⟨rfl, rfl⟩ := List.cons.inj htext
      exact ⟨more, .sign, rfl, rfl, hmore, rfl⟩
  obtain ⟨more, part, rfl, rfl, hmore, hstep⟩ := hstart
  refine ⟨_, hstep, more, rest, ts, rfl, hmore, hwritten, ?_⟩
  have hchars : charsOfReversed (more.reverse ++ [b]) =
      (b :: more).map fun c => Char.ofNat c.toNat := by
    simp [charsOfReversed]
  rw [hchars]
  exact hleads

theorem stepBetween_of_leads (h : State.Leads document ⟨place, .none⟩ (b :: bs)) :
    ∃ next, stepBetween place b = some next ∧ next.Leads document bs := by
  obtain ⟨ts, hwritten, hleads⟩ := h
  generalize htext : b :: bs = text at hwritten
  cases hwritten with
  | nil => cases htext
  | blank hb hwritten =>
      obtain ⟨rfl, rfl⟩ := List.cons.inj htext
      exact ⟨⟨place, .none⟩, if_pos hb, ts, hwritten, hleads⟩
  | token ht hwritten =>
      cases ht with
      | mark hb =>
          obtain ⟨rfl, rfl⟩ := List.cons.inj htext
          exact leads_mark hb hwritten hleads
      | null =>
          obtain ⟨rfl, rfl⟩ := List.cons.inj htext
          exact ⟨⟨place, .word [0x75, 0x6C, 0x6C] .null⟩, rfl, _, _, rfl, List.cons_ne_nil _ _,
            hwritten, hleads⟩
      | bool_true =>
          obtain ⟨rfl, rfl⟩ := List.cons.inj htext
          exact ⟨⟨place, .word [0x72, 0x75, 0x65] (.bool true)⟩, rfl, _, _, rfl,
            List.cons_ne_nil _ _, hwritten, hleads⟩
      | bool_false =>
          obtain ⟨rfl, rfl⟩ := List.cons.inj htext
          exact ⟨⟨place, .word [0x61, 0x6C, 0x73, 0x65] (.bool false)⟩, rfl, _, _, rfl,
            List.cons_ne_nil _ _, hwritten, hleads⟩
      | number hword => exact leads_number hword htext.symm hwritten hleads
      | @string literal hliteral =>
          obtain ⟨rfl, rfl⟩ := List.cons.inj htext
          refine ⟨⟨place, .string [] .plain⟩, rfl, literal, _, _, ?_, hliteral, hwritten, hleads⟩
          exact List.append_assoc literal [0x22] _

theorem leads_of_string (h : State.Leads document ⟨place, .string [] .plain⟩ bs) :
    State.Leads document ⟨place, .none⟩ (0x22 :: bs) := by
  obtain ⟨more, rest, ts, rfl, hmore, hwritten, hleads⟩ := h
  have hquoted := AreWritten.token (.string hmore) hwritten
  rw [quoted, List.cons_append, List.append_assoc] at hquoted
  exact ⟨_, hquoted, hleads⟩

theorem leads_of_number {part : NumberPart} (hpart : ∀ more, part.Rest more → IsNumber (b :: more))
    (h : State.Leads document ⟨place, .number [b] part⟩ bs) :
    State.Leads document ⟨place, .none⟩ (b :: bs) := by
  obtain ⟨more, rest, ts, rfl, hmore, hwritten, hleads⟩ := h
  refine ⟨_, .token (.number (hpart more hmore)) hwritten, ?_⟩
  simpa [charsOfReversed] using hleads

theorem leads_of_word {t : Token} {letters : List UInt8} {value : Json}
    (ht : t.IsWritten (b :: letters)) (htake : place.take t = place.scalar value)
    (h : State.Leads document ⟨place, .word letters value⟩ bs) :
    State.Leads document ⟨place, .none⟩ (b :: bs) := by
  obtain ⟨rest, ts, rfl, -, hwritten, hleads⟩ := h
  refine ⟨_, .token ht hwritten, ?_⟩
  rw [List.foldlM_cons, htake]
  exact hleads

theorem leads_of_stepBetween {next : State} (hstep : stepBetween place b = some next)
    (h : next.Leads document bs) : State.Leads document ⟨place, .none⟩ (b :: bs) := by
  unfold stepBetween at hstep
  split_ifs at hstep with hblank hquote hsign hzero hdigit hn ht hf
  · obtain rfl := Option.some.inj hstep
    obtain ⟨ts, hwritten, hleads⟩ := h
    exact ⟨ts, .blank hblank hwritten, hleads⟩
  · obtain rfl := Option.some.inj hstep
    subst hquote
    exact leads_of_string h
  · obtain rfl := Option.some.inj hstep
    subst hsign
    have hnumber : ∀ more, NumberPart.sign.Rest more → IsNumber (0x2D :: more) :=
      fun more hmore => .inr ⟨more, rfl, hmore⟩
    exact leads_of_number hnumber h
  · obtain rfl := Option.some.inj hstep
    subst hzero
    have hnumber : ∀ more, NumberPart.zero.Rest more → IsNumber (0x30 :: more) :=
      fun more hmore => .inl (.inl ⟨more, rfl, hmore⟩)
    exact leads_of_number hnumber h
  · obtain rfl := Option.some.inj hstep
    have hnumber : ∀ more, NumberPart.whole.Rest more → IsNumber (b :: more) :=
      fun more hmore => .inl (.inr ⟨b, more, rfl, hdigit, hzero, hmore⟩)
    exact leads_of_number hnumber h
  · obtain rfl := Option.some.inj hstep
    subst hn
    exact leads_of_word .null rfl h
  · obtain rfl := Option.some.inj hstep
    subst ht
    exact leads_of_word .bool_true rfl h
  · obtain rfl := Option.some.inj hstep
    subst hf
    exact leads_of_word .bool_false rfl h
  · obtain ⟨after, hmark, rfl⟩ := Option.map_eq_some_iff.mp hstep
    obtain ⟨ts, hwritten, hleads⟩ := h
    refine ⟨_, .token (.mark (isMark_of_mark hmark)) hwritten, ?_⟩
    rw [List.foldlM_cons, Place.take, hmark]
    exact hleads

/-! ### One octet of a string -/

section Strings

variable {read : List UInt8} {escape next : Escape}

theorem pushed_append (b : UInt8) (read more : List UInt8) :
    (b :: read).reverse ++ more = read.reverse ++ b :: more := by
  rw [List.reverse_cons, List.append_assoc, List.singleton_append]

/-- An octet that belongs to the string. -/
theorem leads_string_cons (hrest : ∀ more, next.Rest more → escape.Rest (b :: more))
    (h : State.Leads document ⟨place, .string (b :: read) next⟩ bs) :
    State.Leads document ⟨place, .string read escape⟩ (b :: bs) := by
  obtain ⟨more, rest, ts, rfl, hmore, hwritten, hleads⟩ := h
  rw [pushed_append] at hleads
  exact ⟨b :: more, rest, ts, rfl, hrest more hmore, hwritten, hleads⟩

theorem leads_string_of_cons {more rest : List UInt8} {ts : List Token} (hmore : next.Rest more)
    (hwritten : AreWritten ts rest)
    (hleads : (.string (read.reverse ++ b :: more) :: ts).foldlM Place.take place =
      some (.done document)) :
    State.Leads document ⟨place, .string (b :: read) next⟩ (more ++ 0x22 :: rest) := by
  rw [← pushed_append] at hleads
  exact ⟨more, rest, ts, rfl, hmore, hwritten, hleads⟩

theorem stepString_plain_iff :
    State.Leads document ⟨place, .string read .plain⟩ (b :: bs) ↔
      ∃ next, stepString place read b .plain = some next ∧ next.Leads document bs := by
  constructor
  · rintro ⟨more, rest, ts, htext, hmore, hwritten, hleads⟩
    cases more with
    | nil =>
        obtain ⟨rfl, rfl⟩ := List.cons.inj htext
        rw [List.append_nil, List.foldlM_cons] at hleads
        obtain ⟨after, hafter, hleads⟩ := Option.bind_eq_some_iff.mp hleads
        have hstring : place.string read.reverse = some after := hafter
        exact ⟨⟨after, .none⟩, by simp [stepString, hstring], ts, hwritten, hleads⟩
    | cons c more =>
        obtain ⟨rfl, rfl⟩ := List.cons.inj htext
        rcases isLiteral_cons hmore with ⟨hplain, hmore⟩ | rfl
        · refine ⟨⟨place, .string (b :: read) .plain⟩, ?_,
            leads_string_of_cons hmore hwritten hleads⟩
          simp [stepString, hplain.ne_quote, hplain.ne_backslash, hplain.not_control]
        · exact ⟨⟨place, .string (0x5C :: read) .letter⟩, rfl,
            leads_string_of_cons hmore hwritten hleads⟩
  · rintro ⟨after, hstep, h⟩
    simp only [stepString] at hstep
    split_ifs at hstep with hquote hbackslash hcontrol
    · obtain ⟨closed, hclosed, rfl⟩ := Option.map_eq_some_iff.mp hstep
      obtain ⟨ts, hwritten, hleads⟩ := h
      refine ⟨[], bs, ts, by rw [hquote, List.nil_append], .nil, hwritten, ?_⟩
      rw [List.append_nil, List.foldlM_cons, Place.take, hclosed]
      exact hleads
    · obtain rfl := Option.some.inj hstep
      subst hbackslash
      exact leads_string_cons (fun more hmore => hmore) h
    · obtain rfl := Option.some.inj hstep
      have hplain : ∀ more, Escape.plain.Rest more → Escape.plain.Rest (b :: more) :=
        fun more hmore => .plain ⟨hquote, hbackslash, hcontrol⟩ hmore
      exact leads_string_cons hplain h

theorem stepString_letter_iff :
    State.Leads document ⟨place, .string read .letter⟩ (b :: bs) ↔
      ∃ next, stepString place read b .letter = some next ∧ next.Leads document bs := by
  constructor
  · rintro ⟨more, rest, ts, htext, hmore, hwritten, hleads⟩
    cases hmore with
    | plain hb => exact absurd rfl hb.ne_backslash
    | letter hl hmore =>
        obtain ⟨rfl, rfl⟩ := List.cons.inj htext
        exact ⟨_, if_pos hl, leads_string_of_cons hmore hwritten hleads⟩
    | number hlength hdigits hmore =>
        obtain ⟨rfl, rfl⟩ := List.cons.inj htext
        exact ⟨⟨place, .string (0x75 :: read) (.hex 3)⟩, rfl,
          leads_string_of_cons ⟨_, _, rfl, hlength, hdigits, hmore⟩ hwritten hleads⟩
  · rintro ⟨after, hstep, h⟩
    simp only [stepString] at hstep
    split_ifs at hstep with hletter hnumber
    · obtain rfl := Option.some.inj hstep
      have hescaped : ∀ more, Escape.plain.Rest more → Escape.letter.Rest (b :: more) :=
        fun more hmore => .letter hletter hmore
      exact leads_string_cons hescaped h
    · obtain rfl := Option.some.inj hstep
      subst hnumber
      refine leads_string_cons ?_ h
      rintro more ⟨digits, rest, rfl, hlength, hdigits, hrest⟩
      exact .number hlength hdigits hrest

theorem stepString_hex_iff {n : Nat} :
    State.Leads document ⟨place, .string read (.hex n)⟩ (b :: bs) ↔
      ∃ next, stepString place read b (.hex n) = some next ∧ next.Leads document bs := by
  constructor
  · rintro ⟨more, rest, ts, htext, ⟨digits, tail, rfl, hlength, hdigits, htail⟩, hwritten, hleads⟩
    cases digits with
    | nil => cases hlength
    | cons d digits =>
        obtain ⟨rfl, rfl⟩ := List.cons.inj htext
        obtain ⟨hd, hdigits⟩ := List.forall_mem_cons.mp hdigits
        refine ⟨_, if_pos hd, leads_string_of_cons ?_ hwritten hleads⟩
        cases n with
        | zero =>
            obtain rfl := List.eq_nil_of_length_eq_zero (Nat.succ.inj hlength)
            exact htail
        | succ n => exact ⟨digits, tail, rfl, Nat.succ.inj hlength, hdigits, htail⟩
  · rintro ⟨after, hstep, h⟩
    simp only [stepString] at hstep
    split_ifs at hstep with hd hn
    · obtain rfl := Option.some.inj hstep
      refine leads_string_cons (fun more hmore => ?_) h
      exact ⟨[b], more, rfl, by rw [hn, List.length_singleton], List.forall_mem_singleton.mpr hd,
        hmore⟩
    · obtain rfl := Option.some.inj hstep
      refine leads_string_cons ?_ h
      rintro more ⟨digits, rest, rfl, hlength, hdigits, hrest⟩
      refine ⟨b :: digits, rest, rfl, ?_, List.forall_mem_cons.mpr ⟨hd, hdigits⟩, hrest⟩
      rw [List.length_cons]
      omega

end Strings

/-! ### One octet of a number or a word -/

/-- What follows a finished value is no part of a number. -/
theorem isBlank_or_isMark {after : Place} {value : Json} (hafter : place.scalar value = some after)
    {ts : List Token} (hwritten : AreWritten ts (b :: bs))
    (hleads : ts.foldlM Place.take after = some (.done document)) :
    isBlank b = true ∨ IsMark b := by
  generalize htext : b :: bs = text at hwritten
  cases hwritten with
  | nil => cases htext
  | blank hb hwritten =>
      obtain ⟨rfl, rfl⟩ := List.cons.inj htext
      exact .inl hb
  | @token t ts word rest ht hwritten =>
      have htake : ∃ mark, t = .mark mark := by
        rw [List.foldlM_cons] at hleads
        obtain ⟨next, hnext, -⟩ := Option.bind_eq_some_iff.mp hleads
        obtain ⟨frames, rfl⟩ : ∃ frames, after = Place.filled value frames := by
          cases place with
          | value frames => exact ⟨frames, (Option.some.inj hafter).symm⟩
          | itemOrEnd frames => exact ⟨_, (Option.some.inj hafter).symm⟩
          | afterItem | nameOrEnd | memberName | colon | afterMember | done => cases hafter
        cases t with
        | mark mark => exact ⟨mark, rfl⟩
        | null | bool | number | string =>
            cases frames with
            | nil => cases hnext
            | cons frame frames => cases frame <;> cases hnext
      obtain ⟨mark, rfl⟩ := htake
      cases ht with
      | mark hb =>
          obtain ⟨rfl, rfl⟩ := List.cons.inj htext
          exact .inr hb

theorem next_eq_none (part : NumberPart) (h : isBlank b = true ∨ IsMark b) :
    part.next b = none := by
  rcases h with hblank | hmark
  · simp only [isBlank, Bool.or_eq_true, decide_eq_true_eq] at hblank
    rcases hblank with ((rfl | rfl) | rfl) | rfl <;> cases part <;> rfl
  · rcases hmark with rfl | rfl | rfl | rfl | rfl | rfl <;> cases part <;> rfl

theorem stepNumber_iff {read : List UInt8} {part : NumberPart} :
    State.Leads document ⟨place, .number read part⟩ (b :: bs) ↔
      ∃ next, stepNumber place read part b = some next ∧ next.Leads document bs := by
  constructor
  · rintro ⟨more, rest, ts, htext, hmore, hwritten, hleads⟩
    cases more with
    | cons c more =>
        obtain ⟨rfl, rfl⟩ := List.cons.inj htext
        obtain ⟨next, hnext, hmore⟩ := (part.rest_cons b more).mp hmore
        refine ⟨⟨place, .number (b :: read) next⟩, by rw [stepNumber, hnext], more, rest, ts, rfl,
          hmore, hwritten, ?_⟩
        rwa [List.reverse_cons, List.append_assoc, List.singleton_append] at hleads
    | nil =>
        obtain rfl : rest = b :: bs := htext.symm
        rw [List.reverse_nil, List.nil_append, List.foldlM_cons] at hleads
        obtain ⟨after, hafter, hleads⟩ := Option.bind_eq_some_iff.mp hleads
        have hscalar : place.scalar (.number (charsOfReversed read)) = some after := hafter
        have hnone := next_eq_none part (isBlank_or_isMark hscalar hwritten hleads)
        have hend := (part.rest_nil).mp hmore
        have hstep : stepNumber place read part b = stepBetween after b := by
          simp only [stepNumber, hnone, hend, if_true, hscalar, Option.bind_some]
        rw [hstep]
        exact stepBetween_of_leads ⟨ts, hwritten, hleads⟩
  · rintro ⟨after, hstep, h⟩
    cases hnext : part.next b with
    | some next =>
        simp only [stepNumber, hnext] at hstep
        obtain rfl := Option.some.inj hstep
        obtain ⟨more, rest, ts, rfl, hmore, hwritten, hleads⟩ := h
        refine ⟨b :: more, rest, ts, rfl, (part.rest_cons b more).mpr ⟨next, hnext, hmore⟩,
          hwritten, ?_⟩
        rwa [List.reverse_cons, List.append_assoc, List.singleton_append]
    | none =>
        simp only [stepNumber, hnext] at hstep
        split_ifs at hstep with hend
        obtain ⟨between, hscalar, hstep⟩ := Option.bind_eq_some_iff.mp hstep
        obtain ⟨ts, hwritten, hleads⟩ := leads_of_stepBetween hstep h
        refine ⟨[], b :: bs, ts, rfl, (part.rest_nil).mpr hend, hwritten, ?_⟩
        rw [List.reverse_nil, List.nil_append, List.foldlM_cons, Place.take, hscalar]
        exact hleads

theorem stepWord_iff {letters : List UInt8} {value : Json} :
    State.Leads document ⟨place, .word letters value⟩ (b :: bs) ↔
      ∃ next, stepWord place letters value b = some next ∧ next.Leads document bs := by
  rcases letters with _ | ⟨c, _ | ⟨d, letters⟩⟩
  · constructor
    · rintro ⟨rest, ts, -, hne, -⟩
      exact absurd rfl hne
    · rintro ⟨after, hstep, -⟩
      cases hstep
  · -- The last letter ends the word.
    constructor
    · rintro ⟨rest, ts, htext, -, hwritten, hleads⟩
      obtain ⟨rfl, rfl⟩ := List.cons.inj htext
      obtain ⟨after, hafter, hleads⟩ := Option.bind_eq_some_iff.mp hleads
      exact ⟨⟨after, .none⟩, by simp [stepWord, hafter], ts, hwritten, hleads⟩
    · rintro ⟨after, hstep, h⟩
      simp only [stepWord] at hstep
      split_ifs at hstep with hb
      obtain ⟨between, hscalar, rfl⟩ := Option.map_eq_some_iff.mp hstep
      obtain ⟨ts, hwritten, hleads⟩ := h
      refine ⟨bs, ts, by rw [hb, List.singleton_append], List.cons_ne_nil c [], hwritten, ?_⟩
      rw [hscalar]
      exact hleads
  · constructor
    · rintro ⟨rest, ts, htext, -, hwritten, hleads⟩
      obtain ⟨rfl, rfl⟩ := List.cons.inj htext
      exact ⟨⟨place, .word (d :: letters) value⟩, by simp [stepWord], rest, ts, rfl,
        List.cons_ne_nil d letters, hwritten, hleads⟩
    · rintro ⟨after, hstep, h⟩
      simp only [stepWord] at hstep
      split_ifs at hstep with hb
      obtain rfl := Option.some.inj hstep
      obtain ⟨rest, ts, rfl, -, hwritten, hleads⟩ := h
      exact ⟨rest, ts, by rw [hb]; rfl, List.cons_ne_nil _ _, hwritten, hleads⟩

/-! ### The reader -/

theorem step_iff {state : State} :
    state.Leads document (b :: bs) ↔ ∃ next, step state b = some next ∧ next.Leads document bs := by
  obtain ⟨place, lexeme⟩ := state
  cases lexeme with
  | none => exact ⟨stepBetween_of_leads, fun ⟨_, hstep, h⟩ => leads_of_stepBetween hstep h⟩
  | string read escape =>
      cases escape with
      | plain => exact stepString_plain_iff
      | letter => exact stepString_letter_iff
      | hex n => exact stepString_hex_iff
  | number read part => exact stepNumber_iff
  | word letters value => exact stepWord_iff

theorem readFrom_eq_some_iff {state : State} :
    readFrom state bs = some document ↔ state.Leads document bs := by
  induction bs generalizing state with
  | nil => exact finish_eq_some_iff
  | cons b bs ih =>
      rw [step_iff, readFrom]
      cases step state b with
      | none => simp
      | some next => simp [ih]

/-- The reader accepts the texts of documents and nothing else. -/
theorem read_eq_some_iff {text : List UInt8} :
    read text = some document ↔ HasText document text := by
  rw [Json.read, readFrom_eq_some_iff]
  constructor
  · rintro ⟨ts, hwritten, hleads⟩
    obtain rfl := foldlM_eq_done_iff.mp hleads
    exact hwritten
  · intro h
    exact ⟨tokens document, h, foldlM_eq_done_iff.mpr rfl⟩

end WaybillBoard.Json
