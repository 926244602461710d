import WaybillBoard.Proofs.Yaml.Character
import WaybillBoard.Yaml.Lexer

/-!
How the lexer goes over blocks: from one token to the next, over a key, and out of the blocks that
end.
-/

namespace WaybillBoard.Yaml

def Place.past (p : Place) (cs : List Char) : Place := cs.foldl Place.after p

theorem Place.past_append (p : Place) (cs ds : List Char) :
    p.past (cs ++ ds) = (p.past cs).past ds := List.foldl_append

theorem Place.past_line (p : Place) {cs : List Char} (h : ∀ c ∈ cs, isBreak c = false) :
    p.past cs = ⟨p.index + cs.length, p.line, p.column + cs.length⟩ := by
  induction cs generalizing p with
  | nil => rfl
  | cons c cs ih =>
      obtain ⟨hc, hcs⟩ := List.forall_mem_cons.mp h
      have hafter : p.after c = ⟨p.index + 1, p.line, p.column + 1⟩ := by
        rw [Place.after, hc, if_neg Bool.false_ne_true]
      rw [Place.past, List.foldl_cons, ← Place.past, hafter, ih _ hcs]
      simp only [List.length_cons, Place.mk.injEq, true_and]
      omega

/-- A line begins behind a break. -/
theorem Place.past_break (p : Place) (cs : List Char) {b : Char} (hb : isBreak b = true)
    (spaces : Nat) : (p.past (cs ++ b :: List.replicate spaces ' ')).column = spaces := by
  have hline : ∀ c ∈ List.replicate spaces ' ', isBreak c = false := fun c hc => by
    rw [List.eq_of_mem_replicate hc]
    decide
  have hafter : (p.past cs).after b = ⟨(p.past cs).index + 1, (p.past cs).line + 1, 0⟩ := by
    rw [Place.after, if_pos hb]
  rw [Place.past_append, Place.past, List.foldl_cons, ← Place.past, hafter, Place.past_line _ hline]
  simp

theorem Place.past_space (p : Place) : (p.past [' ']).column = p.column + 1 := by
  rw [p.past_line (List.forall_mem_singleton.mpr rfl), List.length_singleton]

namespace Lexer

/-- What is read from the second state on is read from the first one, too. -/
def Leads (lx lx' : Lexer) : Prop := ∀ tokens, lx'.run? = some tokens → lx.run? = some tokens

theorem Leads.trans {lx lx' lx'' : Lexer} (h : Leads lx lx') (h' : Leads lx' lx'') :
    Leads lx lx'' := fun tokens hrun => h tokens (h' tokens hrun)

theorem leads_take {lx here next : Lexer} {c : Char} {cs : List Char}
    (hsettle : lx.settle? = some here) (hrest : here.rest = c :: cs)
    (htake : here.take? c cs = some next) (hless : next.rest.length < lx.rest.length) :
    Leads lx next := by
  intro tokens hrun
  rw [run?, hsettle]
  simp only [hrest, htake, hless, if_true]
  exact hrun

/-- From two states that come to the same token. -/
theorem leads_of_settle? {lx lx' : Lexer} (hsettle : lx.settle? = lx'.settle?)
    (hle : lx'.rest.length ≤ lx.rest.length) : Leads lx lx' := by
  intro tokens hrun
  rw [run?] at hrun ⊢
  rw [hsettle]
  cases hhere : lx'.settle? with
  | none => rw [hhere] at hrun; cases hrun
  | some here =>
      simp only [hhere] at hrun ⊢
      cases hrest : here.rest with
      | nil => simpa [hrest] using hrun
      | cons c cs =>
          simp only [hrest] at hrun ⊢
          cases htake : here.take? c cs with
          | none => rw [htake] at hrun; cases hrun
          | some next =>
              simp only [htake] at hrun ⊢
              -- Each token must shorten the text, so a longer text admits the same ones.
              split at hrun
              · rw [if_pos (by omega)]
                exact hrun
              · cases hrun

/-- Between the tokens of blocks, where no key waits for its colon. -/
def between (keyAllowed : Bool) (rest : List Char) (place : Place) (blocks : List Nat)
    (tokens : List Token) : Lexer :=
  ⟨rest, place, blocks, none, [], keyAllowed, tokens⟩

/-- Behind what may turn out to be a key. -/
def behindKey (key : PendingKey) (rest : List Char) (place : Place) (blocks : List Nat)
    (tokens : List Token) : Lexer :=
  ⟨rest, place, blocks, some key, [], false, tokens⟩

theorem moveTo_append {lx : Lexer} (front : List Char) {rest : List Char}
    (h : lx.rest = front ++ rest) :
    lx.moveTo rest = { lx with rest, place := lx.place.past front } := by
  rw [moveTo, h, List.length_append, Nat.add_sub_cancel, List.take_left]
  rfl

/-! ### Gaps -/

theorem skipGap_begins (allowed : Bool) {rest : List Char} (h : BeginsLine rest) :
    skipGap false allowed false rest = (allowed, rest) := by
  cases rest with
  | nil => rfl
  | cons c cs =>
      obtain ⟨hgap, hcomment⟩ := h c rfl
      simp only [isGap, isBlank, Bool.or_eq_false_iff, decide_eq_false_iff_not] at hgap
      simp [skipGap, hgap, hcomment]

theorem skipGap_spaces (allowed : Bool) (spaces : Nat) {rest : List Char} (h : BeginsLine rest) :
    skipGap false allowed false (List.replicate spaces ' ' ++ rest) = (allowed, rest) := by
  induction spaces with
  | zero => exact skipGap_begins allowed h
  | succ spaces ih => simpa [List.replicate_succ, skipGap, isBreak] using ih

theorem skipGap_break {allowed : Bool} (spaces : Nat) {rest : List Char} (h : BeginsLine rest) :
    skipGap false allowed false ('\n' :: (List.replicate spaces ' ' ++ rest)) = (true, rest) := by
  simpa [skipGap, isBreak] using skipGap_spaces true spaces h

theorem settle?_between {allowed allowed' : Bool} (gap : List Char) {rest : List Char}
    (h : skipGap false allowed false (gap ++ rest) = (allowed', rest)) (p : Place)
    (blocks : List Nat) (tokens : List Token) :
    (between allowed (gap ++ rest) p blocks tokens).settle? =
      some ((between allowed' rest (p.past gap) blocks tokens).unroll (p.past gap).column) := by
  have hskip : skipGap (between allowed (gap ++ rest) p blocks tokens).inFlow
      (between allowed (gap ++ rest) p blocks tokens).keyAllowed false
      (between allowed (gap ++ rest) p blocks tokens).rest = (allowed', rest) := h
  have hmove : (between allowed (gap ++ rest) p blocks tokens).moveTo rest =
      between allowed rest (p.past gap) blocks tokens := moveTo_append gap rfl
  rw [settle?, hskip]
  dsimp only
  rw [hmove]
  rfl

/-! ### Blocks -/

theorem unroll_of_le {lx : Lexer} {column : Nat}
    (h : ∀ block ∈ lx.blocks.head?, block ≤ column) : lx.unroll column = lx := by
  obtain ⟨rest, p, blocks, key, outerKeys, allowed, tokens⟩ := lx
  cases blocks with
  | nil => simp [unroll]
  | cons block below =>
      have hle := h block rfl
      simp [unroll, hle]

theorem unroll_cons {allowed : Bool} {rest : List Char} {p : Place} {block : Nat}
    {below : List Nat} {tokens : List Token} {column : Int} (h : column < block) :
    (between allowed rest p (block :: below) tokens).unroll column =
      (between allowed rest p below (tokens ++ [.blockEnd])).unroll column := by
  simp [unroll, between, inFlow, h, List.replicate_succ]

/-! ### Plain scalars -/

theorem take?_plain {lx : Lexer} {c : Char} {cs : List Char} (hflow : lx.inFlow = false)
    (hmark : lx.place.column = 0 → atDocumentMark (c :: cs) = false) (hgap : isGap c = false)
    (hbegins : if c = '-' ∨ c = '?' ∨ c = ':' then gapFollows cs = false
      else Plain.isIndicator c = false) : lx.take? c cs = lx.plain? := by
  have hmarks : lx.place.column = 0 →
      atDocumentStart (c :: cs) = false ∧ atDocumentEnd (c :: cs) = false :=
    fun hcolumn => Bool.or_eq_false_iff.mp (hmark hcolumn)
  have hstart : (decide (lx.place.column = 0) && atDocumentStart (c :: cs)) = false := by
    simpa using fun hcolumn => (hmarks hcolumn).1
  have hend : (decide (lx.place.column = 0) && atDocumentEnd (c :: cs)) = false := by
    simpa using fun hcolumn => (hmarks hcolumn).2
  by_cases htouch : c = '-' ∨ c = '?' ∨ c = ':'
  · rw [if_pos htouch] at hbegins
    obtain ⟨next, cs, rfl⟩ : ∃ next ds, cs = next :: ds :=
      List.exists_cons_of_ne_nil (by rintro rfl; cases hbegins)
    have hblank : isBlank next = false := (Bool.or_eq_false_iff.mp hbegins).1
    rcases htouch with rfl | rfl | rfl <;>
      simp [take?, hflow, hstart, hend, hbegins, Plain.mayBegin, hblank]
  · rw [if_neg htouch] at hbegins
    have hplain : Plain.mayBegin lx.inFlow c cs = true := by simp [Plain.mayBegin, hgap, hbegins]
    simp only [Plain.isIndicator, isFlowIndicator, Bool.or_eq_false_iff, decide_eq_false_iff_not,
      List.contains_cons, beq_eq_false_iff_ne, List.contains_nil] at hbegins
    simp [take?, hstart, hend, hbegins, hplain]

theorem plain?_eq {lx lx' : Lexer} {reading : Plain.Reading} (hsave : lx.saveKey? = some lx')
    (hread : Plain.scalar? lx'.inFlow (lx'.indent + 1) lx'.rest = some reading) :
    lx.plain? = some (((lx'.allowKey reading.broken).push
      (.scalar .plain reading.text)).moveTo reading.rest) := by
  simp [plain?, hsave, hread]

/-! ### Keys -/

/-- The name of a field: letters, so that it is plain, and not too many of them. -/
structure IsName (name : List Char) : Prop where
  ne_nil : name ≠ []
  all_isAlpha : name.all Char.isAlpha = true
  short : name.length ≤ keyLimit

theorem IsName.letters {name : List Char} (h : IsName name) : ∀ c ∈ name, c.isAlpha = true :=
  List.all_eq_true.mp h.all_isAlpha

theorem of_isAlpha {c : Char} (h : c.isAlpha = true) :
    isGap c = false ∧ Plain.isIndicator c = false ∧ c ≠ '.' ∧
      DoubleQuoted.isPrintable c = true := by
  have hall : ∀ n < 128, (Char.ofNat n).isAlpha = true →
      isGap (Char.ofNat n) = false ∧ Plain.isIndicator (Char.ofNat n) = false ∧
        Char.ofNat n ≠ '.' ∧ DoubleQuoted.isPrintable (Char.ofNat n) = true := by decide
  have hascii : c.toNat < 128 := by
    obtain hupper | hlower := Bool.or_eq_true_iff.mp (show (c.isUpper || c.isLower) = true from h)
    · have hle : c.val ≤ 'Z'.val := (of_decide_eq_true hupper).2
      exact Nat.lt_of_le_of_lt (UInt32.le_iff_toNat_le.mp hle) (by decide)
    · have hle : c.val ≤ 'z'.val := of_decide_eq_true (Bool.and_eq_true_iff.mp hlower).2
      exact Nat.lt_of_le_of_lt (UInt32.le_iff_toNat_le.mp hle) (by decide)
  have hc := hall c.toNat hascii
  rw [Char.ofNat_toNat] at hc
  exact hc h

theorem scalar?_name {name : List Char} (h : ∀ c ∈ name, c.isAlpha = true) {rest : List Char}
    (hrest : gapFollows rest = true) (least : Int) :
    Plain.scalar? false least (name ++ ':' :: rest) = some ⟨name, false, ':' :: rest⟩ := by
  rw [Plain.scalar?]
  induction name with
  | nil => simp [Plain.read, isBreak, isBlank, Plain.endsAt, hrest, Gap.isBroken]
  | cons c name ih =>
      obtain ⟨hc, hname⟩ := List.forall_mem_cons.mp h
      obtain ⟨hgap, hindicator, -⟩ := of_isAlpha hc
      obtain ⟨hblank, hbreak⟩ := Bool.or_eq_false_iff.mp hgap
      have hcolon : c ≠ ':' := by
        rintro rfl
        cases hindicator
      simp [Plain.read, hblank, hbreak, Plain.endsAt, hcolon, Gap.isBroken, Gap.isEmpty, Gap.text,
        ih hname]

theorem IsName.exists_cons {name : List Char} (h : IsName name) :
    ∃ c cs, name = c :: cs ∧ c.isAlpha = true := by
  obtain ⟨c, cs, rfl⟩ := List.exists_cons_of_ne_nil h.ne_nil
  exact ⟨c, cs, rfl, h.letters c List.mem_cons_self⟩

theorem beginsLine_name {name : List Char} (h : IsName name) (rest : List Char) :
    BeginsLine (name ++ rest) := by
  obtain ⟨c, cs, rfl, hc⟩ := h.exists_cons
  obtain ⟨hgap, hindicator, -⟩ := of_isAlpha hc
  refine beginsLine_cons.mpr ⟨hgap, ?_⟩
  rintro rfl
  cases hindicator

theorem past_name {name : List Char} (h : IsName name) (p : Place) :
    p.past name = ⟨p.index + name.length, p.line, p.column + name.length⟩ :=
  p.past_line fun c hc => (Bool.or_eq_false_iff.mp (of_isAlpha (h.letters c hc)).1).2

/-- The blocks once one is open in the column. -/
def rolled (blocks : List Nat) (column : Nat) : List Nat :=
  if blocks.head? = some column then blocks else column :: blocks

/-- What begins so that a block is open in the column. -/
def opening (blocks : List Nat) (column : Nat) : List Token :=
  if blocks.head? = some column then [] else [.mappingStart]

theorem roll_eq {lx : Lexer} {column : Nat} (hflow : lx.inFlow = false)
    (hblocks : ∀ block ∈ lx.blocks.head?, block ≤ column) (index : Nat) :
    lx.roll column index .mappingStart =
      { lx with
        blocks := rolled lx.blocks column
        tokens := lx.tokens.take index ++ opening lx.blocks column ++ lx.tokens.drop index } := by
  obtain ⟨rest, p, blocks, key, outerKeys, allowed, tokens⟩ := lx
  cases blocks with
  | nil =>
      have hlt : ¬(column : Int) ≤ -1 := by omega
      simp [roll, hflow, indent, insert, rolled, opening, hlt]
  | cons block below =>
      have hle := hblocks block rfl
      by_cases heq : block = column
      · simp [roll, indent, rolled, opening, heq]
      · have hlt : ¬column ≤ block := fun h => heq (Nat.le_antisymm hle h)
        simp [roll, hflow, indent, insert, rolled, opening, heq, hlt]

theorem settle?_behindKey {key : PendingKey} {rest : List Char} {p : Place} {blocks : List Nat}
    {tokens : List Token} (hrest : BeginsLine rest) (hstale : key.isStale p = false)
    (hblocks : ∀ block ∈ blocks.head?, block ≤ p.column) :
    (behindKey key rest p blocks tokens).settle? = some (behindKey key rest p blocks tokens) := by
  have hskip : skipGap (behindKey key rest p blocks tokens).inFlow
      (behindKey key rest p blocks tokens).keyAllowed false
      (behindKey key rest p blocks tokens).rest = (false, rest) := skipGap_begins false hrest
  have hmove : (behindKey key rest p blocks tokens).moveTo rest =
      behindKey key rest p blocks tokens := moveTo_append [] rfl
  have hfresh : freshKey? p (some key) = some (some key) := by simp [freshKey?, hstale]
  have hdrop : ((behindKey key rest p blocks tokens).allowKey false).dropStaleKeys? =
      some (behindKey key rest p blocks tokens) := by
    simp [dropStaleKeys?, allowKey, behindKey, hfresh]
  rw [settle?, hskip]
  dsimp only
  rw [hmove, hdrop]
  exact congrArg some (unroll_of_le hblocks)

section Key

variable {name rest : List Char} (hname : IsName name) {p : Place} {blocks : List Nat}
  (hblocks : ∀ block ∈ blocks.head?, block ≤ p.column)
include hname hblocks

theorem leads_name (hrest : gapFollows rest = true) (tokens : List Token) :
    ∃ required, Leads (between true (name ++ ':' :: rest) p blocks tokens)
      (behindKey ⟨required, tokens.length, p⟩ (':' :: rest) (p.past name) blocks
        (tokens ++ [.scalar .plain name])) := by
  have hskip := skipGap_begins true (beginsLine_name hname (':' :: rest))
  have hsettle := settle?_between [] hskip p blocks tokens
  rw [Place.past, List.foldl_nil, unroll_of_le hblocks] at hsettle
  have hread := scalar?_name hname.letters hrest
  have hmove {lx : Lexer} (h : lx.rest = name ++ ':' :: rest) := moveTo_append name h
  obtain ⟨c, cs, rfl, hc⟩ := hname.exists_cons
  obtain ⟨hgap, hindicator, hdot, -⟩ := of_isAlpha hc
  have hne {d : Char} (hd : Plain.isIndicator d = true) : c ≠ d := by
    rintro rfl
    rw [hindicator] at hd
    cases hd
  -- Nothing but a plain scalar begins with a letter.
  have htouch : ¬(c = '-' ∨ c = '?' ∨ c = ':') := by
    rintro (h | h | h)
    all_goals exact hne (by decide) h
  let required := !(between true (c :: cs ++ ':' :: rest) p blocks tokens).inFlow &&
    (between true (c :: cs ++ ':' :: rest) p blocks tokens).indent = p.column
  have hsave : (between true (c :: cs ++ ':' :: rest) p blocks tokens).saveKey? =
      some { between true (c :: cs ++ ':' :: rest) p blocks tokens with
        key := some ⟨required, tokens.length, p⟩ } := rfl
  refine ⟨required, leads_take hsettle rfl ?_ ?_⟩
  · refine (take?_plain rfl (fun _ => not_atDocumentMark (hne rfl) hdot _) hgap
      ((if_neg htouch).mpr hindicator)).trans ?_
    exact (plain?_eq hsave (hread _)).trans (congrArg some (hmove rfl))
  · simp only [between, behindKey, List.length_append, List.length_cons]
    omega

theorem leads_colon (hrest : gapFollows rest = true) {required : Bool} (tokens : List Token) :
    Leads (behindKey ⟨required, tokens.length, p⟩ (':' :: rest) (p.past name) blocks
        (tokens ++ [.scalar .plain name]))
      (between false rest ((p.past name).past [':']) (rolled blocks p.column)
        (tokens ++ opening blocks p.column ++ [.key, .scalar .plain name, .value])) := by
  have hpast := past_name hname p
  -- The name stands in one line and is no longer than a key may be.
  have hstale : PendingKey.isStale ⟨required, tokens.length, p⟩ (p.past name) = false := by
    have := hname.short
    simp [PendingKey.isStale, hpast]
    omega
  have hle : ∀ block ∈ blocks.head?, block ≤ (p.past name).column := fun block hblock => by
    have := hblocks block hblock
    rw [hpast]
    dsimp only
    omega
  have hcolon : BeginsLine (':' :: rest) := beginsLine_cons.mpr (by decide)
  obtain ⟨hstart, hend⟩ : atDocumentStart (':' :: rest) = false ∧
      atDocumentEnd (':' :: rest) = false :=
    Bool.or_eq_false_iff.mp (not_atDocumentMark (by decide) (by decide) rest)
  have hmove {lx : Lexer} (h : lx.rest = ':' :: rest) := moveTo_append [':'] h
  refine leads_take (settle?_behindKey hcolon hstale hle) rfl ?_ (Nat.lt_succ_self _)
  have htake {lx : Lexer} (hflow : lx.inFlow = false) : lx.take? ':' rest = lx.value? rest := by
    simp [take?, hflow, hstart, hend, hrest]
  rw [htake rfl, value?]
  simp only [behindKey, insert, List.take_left, List.drop_left]
  rw [roll_eq rfl hblocks]
  simp only [List.take_left, List.drop_left]
  refine (congrArg some (hmove rfl)).trans ?_
  simp [push, between]

/-- A name begins a field, and with it a block unless one is open in its column. -/
theorem leads_key (hrest : gapFollows rest = true) (tokens : List Token) :
    Leads (between true (name ++ ':' :: rest) p blocks tokens)
      (between false rest ((p.past name).past [':']) (rolled blocks p.column)
        (tokens ++ opening blocks p.column ++ [.key, .scalar .plain name, .value])) := by
  obtain ⟨required, hkey⟩ := leads_name hname hblocks hrest tokens
  exact hkey.trans (leads_colon hname hblocks hrest tokens)

end Key

end Lexer

end WaybillBoard.Yaml
