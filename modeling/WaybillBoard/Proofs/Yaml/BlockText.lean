import WaybillBoard.Proofs.Yaml.Character

/-!
Literal texts are read back. A text is a body, which ends with a character of a line, and the breaks
behind it; its first mark shows the indentation and its second one how many of these breaks count.
-/

namespace WaybillBoard.Yaml.BlockText

/-- Lines with breaks before, between and never behind them. -/
inductive Body : List Char → Prop
  | last (breaks : List Char) (c : Char) (line : List Char)
      (hbreaks : ∀ b ∈ breaks, isBreak b = true) (hline : ∀ d ∈ c :: line, isBreak d = false) :
      Body (breaks ++ c :: line)
  | more (breaks : List Char) (c : Char) (line : List Char) (b : Char) (body : List Char)
      (hbreaks : ∀ b ∈ breaks, isBreak b = true) (hline : ∀ d ∈ c :: line, isBreak d = false)
      (hbreak : isBreak b = true) (hbody : Body body) : Body (breaks ++ c :: (line ++ b :: body))

theorem Body.cons_break {b : Char} {cs : List Char} (hb : isBreak b = true) (h : Body cs) :
    Body (b :: cs) := by
  cases h with
  | last breaks c line hbreaks hline =>
      exact .last (b :: breaks) c line (List.forall_mem_cons.mpr ⟨hb, hbreaks⟩) hline
  | more breaks c line e body hbreaks hline hbreak hbody =>
      exact .more (b :: breaks) c line e body (List.forall_mem_cons.mpr ⟨hb, hbreaks⟩) hline hbreak
        hbody

theorem Body.cons_char {c : Char} {cs : List Char} (hc : isBreak c = false) (h : Body cs) :
    Body (c :: cs) := by
  have hone : ∀ d ∈ [c], isBreak d = false := List.forall_mem_singleton.mpr hc
  cases h with
  | last breaks d line hbreaks hline =>
      cases breaks with
      | nil => exact .last [] c (d :: line) nofun (List.forall_mem_cons.mpr ⟨hc, hline⟩)
      | cons b breaks =>
          obtain ⟨hb, hbreaks⟩ := List.forall_mem_cons.mp hbreaks
          exact .more [] c [] b _ nofun hone hb (.last breaks d line hbreaks hline)
  | more breaks d line e body hbreaks hline hbreak hbody =>
      cases breaks with
      | nil =>
          exact .more [] c (d :: line) e body nofun (List.forall_mem_cons.mpr ⟨hc, hline⟩) hbreak
            hbody
      | cons b breaks =>
          obtain ⟨hb, hbreaks⟩ := List.forall_mem_cons.mp hbreaks
          exact .more [] c [] b _ nofun hone hb
            (.more breaks d line e body hbreaks hline hbreak hbody)

/-- A text that ends with a character of a line is a body. -/
theorem body_of_getLast? {cs : List Char} (last : Char) (h : cs.getLast? = some last)
    (hlast : isBreak last = false) : Body cs := by
  induction cs with
  | nil => cases h
  | cons c cs ih =>
      cases cs with
      | nil =>
          cases h
          exact .last [] c [] nofun (List.forall_mem_singleton.mpr hlast)
      | cons d ds =>
          have hbody := ih h
          cases hc : isBreak c with
          | true => exact hbody.cons_break hc
          | false => exact hbody.cons_char hc

/-! ### Writing -/

theorem encode_breaks (fresh : Bool) {breaks : List Char} (h : ∀ b ∈ breaks, isBreak b = true) :
    encode fresh breaks = breaks := by
  induction breaks generalizing fresh with
  | nil => rfl
  | cons b breaks ih =>
      obtain ⟨hb, hbreaks⟩ := List.forall_mem_cons.mp h
      rw [encode, if_pos hb, ih true hbreaks]

theorem encode_append_breaks (fresh : Bool) (cs : List Char) {breaks : List Char}
    (h : ∀ b ∈ breaks, isBreak b = true) :
    encode fresh (cs ++ breaks) = encode fresh cs ++ breaks := by
  induction cs generalizing fresh with
  | nil => exact encode_breaks fresh h
  | cons c cs ih =>
      cases hc : isBreak c with
      | true => simp [encode, hc, ih]
      | false => simp [encode, hc, ih]

theorem encode_breaks_append {breaks : List Char} (h : ∀ b ∈ breaks, isBreak b = true)
    (cs : List Char) : encode true (breaks ++ cs) = breaks ++ encode true cs := by
  induction breaks with
  | nil => rfl
  | cons b breaks ih =>
      obtain ⟨hb, hbreaks⟩ := List.forall_mem_cons.mp h
      rw [List.cons_append, encode, if_pos hb, ih hbreaks, List.cons_append]

theorem encode_line_append {line : List Char} (h : ∀ c ∈ line, isBreak c = false)
    (cs : List Char) : encode false (line ++ cs) = line ++ encode false cs := by
  induction line with
  | nil => rfl
  | cons c line ih =>
      obtain ⟨hc, hline⟩ := List.forall_mem_cons.mp h
      rw [List.cons_append, encode, hc, if_neg Bool.false_ne_true, if_neg Bool.false_ne_true,
        ih hline]
      rfl

theorem encode_line {c : Char} {line : List Char} (h : ∀ d ∈ c :: line, isBreak d = false)
    (cs : List Char) :
    encode true (c :: (line ++ cs)) = ' ' :: ' ' :: c :: (line ++ encode false cs) := by
  obtain ⟨hc, hline⟩ := List.forall_mem_cons.mp h
  rw [encode, hc, if_neg Bool.false_ne_true, if_pos rfl, encode_line_append hline]
  rfl

/-! ### Reading -/

theorem indentation?_breaks {limit : Nat} {breaks : List Char} (h : ∀ b ∈ breaks, isBreak b = true)
    (rest : List Char) :
    indentation? limit 0 (breaks ++ rest) =
      (indentation? limit 0 rest).map fun i => { i with breaks := breaks ++ i.breaks } := by
  induction breaks with
  | nil => simp
  | cons b breaks ih =>
      obtain ⟨hb, hbreaks⟩ := List.forall_mem_cons.mp h
      have hspace : b ≠ ' ' := by
        rintro rfl
        cases hb
      have htab : b ≠ '\t' := by
        rintro rfl
        cases hb
      rw [List.cons_append, indentation?]
      simp [hspace, htab, hb, ih hbreaks, Function.comp_def]

theorem indentation?_next (limit : Nat) {next : List Char} (h : BeginsLine next) :
    indentation? limit 0 next = some ⟨[], 0, 0, next⟩ := by
  cases next with
  | nil => rfl
  | cons c cs =>
      obtain ⟨hblank, hbreak⟩ := Bool.or_eq_false_iff.mp (h c rfl).1
      simp only [isBlank, Bool.or_eq_false_iff, decide_eq_false_iff_not] at hblank
      simp [indentation?, hblank.1, hblank.2, hbreak]

theorem lines_end {chomping : Chomping} {limit : Nat} (ending : Option Char) (blank : Bool)
    {i : Indentation} (h : i.column ≠ limit) :
    lines false chomping limit ending blank i = some (tail chomping ending i.breaks, i.rest) := by
  rw [lines, if_neg h]

theorem lines_step (chomping : Chomping) {limit : Nat} (ending : Option Char) (blank : Bool)
    {i next : Indentation} {c : Char} {cs : List Char} (hcolumn : i.column = limit)
    (hrest : i.rest = c :: cs)
    (hnext : indentation? limit 0 ((cs.dropWhile (!isBreak ·)).drop 1) = some next) :
    lines false chomping limit ending blank i =
      (lines false chomping limit (cs.dropWhile (!isBreak ·)).head? (isBlank c) next).map
        fun (text, rest) =>
          (ending.toList ++ i.breaks ++ c :: cs.takeWhile (!isBreak ·) ++ text, rest) := by
  rw [lines, if_pos hcolumn]
  split
  · next h => exact absurd (hrest.symm.trans h) (List.cons_ne_nil c cs)
  · next d ds h =>
      obtain ⟨rfl, rfl⟩ := List.cons.inj (h.symm.trans hrest)
      dsimp only
      split
      · next h => exact absurd (hnext.symm.trans h) (Option.some_ne_none next)
      · next following h =>
          obtain rfl := Option.some.inj (h.symm.trans hnext)
          rfl

theorem takeWhile_line {line : List Char} {b : Char} (h : ∀ c ∈ line, isBreak c = false)
    (hb : isBreak b = true) (rest : List Char) :
    (line ++ b :: rest).takeWhile (!isBreak ·) = line ∧
      (line ++ b :: rest).dropWhile (!isBreak ·) = b :: rest := by
  have hline : ∀ c ∈ line, (!isBreak c) = true := fun c hc => by rw [h c hc]; rfl
  rw [List.takeWhile_append_of_pos hline, List.dropWhile_append_of_pos hline]
  simp [hb]

/-- A line with the breaks before it. What follows it is read on its own. -/
theorem lines_line {before line after : List Char} {c b : Char} {next : Indentation}
    (hbefore : ∀ b ∈ before, isBreak b = true) (hline : ∀ d ∈ c :: line, isBreak d = false)
    (hb : isBreak b = true) (hnext : indentation? 2 0 after = some next) :
    ∃ i, indentation? 2 0 (before ++ ' ' :: ' ' :: c :: (line ++ b :: after)) = some i ∧
      ∀ chomping ending blank, lines false chomping 2 ending blank i =
        (lines false chomping 2 (some b) (isBlank c) next).map fun (text, rest) =>
          (ending.toList ++ before ++ c :: line ++ text, rest) := by
  obtain ⟨hc, hline⟩ := List.forall_mem_cons.mp hline
  obtain ⟨htake, hdrop⟩ := takeWhile_line hline hb after
  refine ⟨⟨before, 2, 2, c :: (line ++ b :: after)⟩, ?_, fun chomping ending blank => ?_⟩
  · rw [indentation?_breaks hbefore]
    simp [indentation?, hc]
  · have hafter : indentation? 2 0 (((line ++ b :: after).dropWhile (!isBreak ·)).drop 1) =
        some next := by
      rw [hdrop]
      exact hnext
    refine (lines_step (i := ⟨before, 2, 2, _⟩) chomping ending blank rfl rfl hafter).trans ?_
    rw [htake, hdrop]
    rfl

theorem lines_body {body : List Char} (h : Body body) {b : Char} {breaks next : List Char}
    (hb : isBreak b = true) (hbreaks : ∀ b ∈ breaks, isBreak b = true) (hnext : BeginsLine next) :
    ∃ i, indentation? 2 0 (encode true body ++ b :: (breaks ++ next)) = some i ∧
      ∀ chomping ending blank, lines false chomping 2 ending blank i =
        some (ending.toList ++ body ++ tail chomping (some b) breaks, next) := by
  -- The induction is on the lines; the last one is where the breaks behind the body count.
  induction h with
  | last before c line hbefore hline =>
      have hend : indentation? 2 0 (breaks ++ next) = some ⟨breaks, 0, 0, next⟩ := by
        rw [indentation?_breaks hbreaks, indentation?_next 2 hnext]
        simp
      have hencode := encode_line hline []
      rw [List.append_nil] at hencode
      obtain ⟨i, hi, hlines⟩ := lines_line hbefore hline hb hend
      refine ⟨i, ?_, fun chomping ending blank => ?_⟩
      · rw [encode_breaks_append hbefore, hencode, ← hi]
        simp [encode]
      · rw [hlines, lines_end (some b) _ (Nat.zero_ne_add_one 1)]
        simp
  | more before c line e body hbefore hline he hbody ih =>
      obtain ⟨j, hj, hrest⟩ := ih
      obtain ⟨i, hi, hlines⟩ := lines_line hbefore hline he hj
      refine ⟨i, ?_, fun chomping ending blank => ?_⟩
      · rw [encode_breaks_append hbefore, encode_line hline, encode, if_pos he, ← hi]
        simp
      · rw [hlines, hrest]
        simp

/-! ### The whole text -/

/-- The text ends with a character of a line. -/
def EndsLine (cs : List Char) : Prop :=
  ∃ last rest, cs.reverse = last :: rest ∧ isBreak last = false

theorem EndsLine.body {cs : List Char} (h : EndsLine cs) : Body cs := by
  obtain ⟨last, rest, heq, hlast⟩ := h
  refine body_of_getLast? last ?_ hlast
  rw [← List.head?_reverse, heq]
  rfl

/-- A text is empty or a body, with breaks behind it. -/
theorem exists_body (cs : List Char) :
    ∃ body breaks, cs = body ++ breaks ∧ (∀ b ∈ breaks, isBreak b = true) ∧
      (body = [] ∨ EndsLine body) := by
  induction cs with
  | nil => exact ⟨[], [], rfl, nofun, .inl rfl⟩
  | cons c cs ih =>
      obtain ⟨body, breaks, rfl, hbreaks, rfl | ⟨last, rest, heq, hlast⟩⟩ := ih
      · cases hc : isBreak c with
        | true => exact ⟨[], c :: breaks, rfl, List.forall_mem_cons.mpr ⟨hc, hbreaks⟩, .inl rfl⟩
        | false => exact ⟨[c], breaks, rfl, hbreaks, .inr ⟨c, [], rfl, hc⟩⟩
      · refine ⟨c :: body, breaks, rfl, hbreaks, .inr ⟨last, rest ++ [c], ?_, hlast⟩⟩
        rw [List.reverse_cons, heq, List.cons_append]

theorem chompingOf_body {body : List Char} (h : EndsLine body) : chompingOf body = .strip := by
  obtain ⟨last, rest, heq, hlast⟩ := h
  rw [chompingOf, heq]
  cases rest <;> simp [hlast]

theorem chompingOf_break {body : List Char} (h : EndsLine body) {b : Char} (hb : isBreak b = true) :
    chompingOf (body ++ [b]) = .clip := by
  obtain ⟨last, rest, heq, hlast⟩ := h
  rw [chompingOf, List.reverse_append, heq]
  simp [hb, hlast]

theorem chompingOf_breaks (body : List Char) {breaks : List Char}
    (h : ∀ b ∈ breaks, isBreak b = true) (hmany : 1 < breaks.length ∨ body = [] ∧ breaks ≠ []) :
    chompingOf (body ++ breaks) = .keep := by
  have hreverse : ∀ b ∈ breaks.reverse, isBreak b = true := fun b hb => h b (List.mem_reverse.mp hb)
  rw [← List.length_reverse, ← List.reverse_ne_nil_iff] at hmany
  rw [chompingOf, List.reverse_append]
  generalize breaks.reverse = trail at hreverse hmany
  cases trail with
  | nil => simp at hmany
  | cons b trail =>
      obtain ⟨hb, htrail⟩ := List.forall_mem_cons.mp hreverse
      cases trail with
      | nil =>
          obtain ⟨rfl, -⟩ := hmany.resolve_left (by simp)
          simp [hb]
      | cons e trail =>
          simp [hb, htrail e List.mem_cons_self]

/-- The break that ends the last line, where the text has none there. -/
def closing (cs : List Char) : List Char :=
  match cs.getLast? with
    | some last => if isBreak last then [] else ['\n']
    | none => []

theorem write_eq (cs : List Char) :
    write cs = '|' :: (incrementMark cs ++ (chompingOf cs).mark ++
      '\n' :: (encode true cs ++ closing cs)) := by
  rw [write, closing]
  cases cs.getLast? <;> simp

theorem EndsLine.closing {body : List Char} (h : EndsLine body) : closing body = ['\n'] := by
  obtain ⟨last, rest, heq, hlast⟩ := h
  rw [BlockText.closing, ← List.head?_reverse, heq]
  simp [hlast]

theorem closing_breaks (body : List Char) {breaks : List Char} (hne : breaks ≠ [])
    (h : ∀ b ∈ breaks, isBreak b = true) : closing (body ++ breaks) = [] := by
  have hlast : isBreak (breaks.getLast hne) = true := h _ (List.getLast_mem hne)
  simp [closing, List.getLast?_eq_some_getLast hne, hlast]

/-- Under its indentation a text is read back with its own breaks at the end. -/
theorem lines_write {cs : List Char} (hne : cs ≠ []) {next : List Char} (hnext : BeginsLine next) :
    ∃ i, indentation? 2 0 (encode true cs ++ closing cs ++ next) = some i ∧
      lines false (chompingOf cs) 2 none false i = some (cs, next) := by
  obtain ⟨body, breaks, rfl, hbreaks, rfl | hbody⟩ := exists_body cs
  · have hclosing : closing breaks = [] := closing_breaks [] hne hbreaks
    have hkeep : chompingOf breaks = .keep := chompingOf_breaks [] hbreaks (.inr ⟨rfl, hne⟩)
    rw [List.nil_append]
    refine ⟨⟨breaks, 0, 0, next⟩, ?_, ?_⟩
    · rw [hclosing, encode_breaks true hbreaks, List.append_nil, indentation?_breaks hbreaks,
        indentation?_next 2 hnext]
      simp
    · rw [hkeep, lines_end none false (Nat.zero_ne_add_one 1)]
      rfl
  · rw [encode_append_breaks true body hbreaks]
    cases breaks with
    | nil =>
        have hb : isBreak '\n' = true := by decide
        obtain ⟨i, hi, hlines⟩ := lines_body hbody.body hb hbreaks hnext
        rw [List.append_nil, List.append_nil, hbody.closing, chompingOf_body hbody]
        refine ⟨i, ?_, ?_⟩
        · rw [← hi]
          simp
        · rw [hlines]
          simp [tail]
    | cons b breaks =>
        obtain ⟨hb, htrail⟩ := List.forall_mem_cons.mp hbreaks
        obtain ⟨i, hi, hlines⟩ := lines_body hbody.body hb htrail hnext
        rw [closing_breaks body (List.cons_ne_nil b breaks) hbreaks]
        refine ⟨i, ?_, ?_⟩
        · rw [← hi]
          simp
        · cases breaks with
          | nil =>
              rw [chompingOf_break hbody hb, hlines]
              simp [tail]
          | cons e breaks =>
              rw [chompingOf_breaks body hbreaks (.inl (by simp)), hlines]
              simp [tail]

/-- A literal text ends its line. -/
theorem exists_write_eq {cs : List Char} (hne : cs ≠ []) :
    ∃ front b, isBreak b = true ∧ write cs = front ++ [b] := by
  obtain ⟨lines, b, hb, heq⟩ : ∃ lines b, isBreak b = true ∧
      encode true cs ++ closing cs = lines ++ [b] := by
    obtain ⟨front, last, rfl⟩ : ∃ front last, cs = front ++ [last] :=
      ⟨cs.dropLast, cs.getLast hne, (List.dropLast_concat_getLast hne).symm⟩
    cases hlast : isBreak last with
    | true =>
        have hone : ∀ b ∈ [last], isBreak b = true := List.forall_mem_singleton.mpr hlast
        rw [closing_breaks front (List.cons_ne_nil last []) hone, List.append_nil,
          encode_append_breaks true front hone]
        exact ⟨encode true front, last, hlast, rfl⟩
    | false =>
        rw [EndsLine.closing ⟨last, front.reverse, by simp, hlast⟩]
        exact ⟨encode true (front ++ [last]), '\n', by decide, rfl⟩
  refine ⟨'|' :: (incrementMark cs ++ (chompingOf cs).mark ++ '\n' :: lines), b, hb, ?_⟩
  rw [write_eq, heq]
  simp

theorem header?_write (cs rest : List Char) :
    header? (incrementMark cs ++ (chompingOf cs).mark ++ '\n' :: rest) =
      some ⟨chompingOf cs, if (incrementMark cs).isEmpty then 0 else 2, rest⟩ := by
  have hmark : incrementMark cs = [] ∨ incrementMark cs = ['2'] := by
    cases cs with
    | nil => exact .inl rfl
    | cons c cs =>
        rw [incrementMark]
        split
        · exact .inr rfl
        · exact .inl rfl
  cases hmark with
  | inl h => rw [h]; cases chompingOf cs <;> rfl
  | inr h => rw [h]; cases chompingOf cs <;> rfl

/-- Without a mark for it the first line shows the indentation. -/
theorem indentation?_unmarked {c : Char} {cs : List Char} (h : incrementMark (c :: cs) = [])
    (htab : c ≠ '\t') (rest : List Char) :
    indentation? 0 0 (encode true (c :: cs) ++ rest) =
      some ⟨[], 2, 2, c :: (encode false cs ++ rest)⟩ ∧
    indentation? 2 0 (encode true (c :: cs) ++ rest) =
      some ⟨[], 2, 2, c :: (encode false cs ++ rest)⟩ := by
  have hc : c ≠ ' ' ∧ isBreak c = false := by simpa [incrementMark] using h
  simp [encode, indentation?, hc, htab]

/-- A literal text is read back up to what follows it outside of all blocks. -/
theorem scalar?_write {cs : List Char} (hne : cs ≠ []) (htab : cs.head? ≠ some '\t')
    {next : List Char} (hnext : BeginsLine next) :
    scalar? false 0 ((write cs).tail ++ next) = some (cs, next) := by
  obtain ⟨i, hi, hlines⟩ := lines_write hne hnext
  have hheader := header?_write cs (encode true cs ++ closing cs ++ next)
  rw [write_eq, List.tail_cons, List.append_assoc, List.cons_append, scalar?, hheader]
  rw [List.append_assoc] at hi
  obtain ⟨c, cs, rfl⟩ := List.exists_cons_of_ne_nil hne
  -- With a mark the indentation is known beforehand, and without one it is the same.
  cases hmark : incrementMark (c :: cs) with
  | cons m ms => simpa [hi] using hlines
  | nil =>
      obtain ⟨hfree, hbound⟩ := indentation?_unmarked hmark
        (fun h => htab (congrArg some h)) (closing (c :: cs) ++ next)
      obtain rfl := Option.some.inj (hbound.symm.trans hi)
      simpa [hfree] using hlines

end WaybillBoard.Yaml.BlockText
