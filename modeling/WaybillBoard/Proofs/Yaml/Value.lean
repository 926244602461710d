import WaybillBoard.Proofs.Yaml.BlockText
import WaybillBoard.Proofs.Yaml.Lexer
import WaybillBoard.Proofs.Yaml.Plain
import WaybillBoard.Proofs.Yaml.Quoted

/-!
A text is lexed to itself in the style in which it is written, behind the colon of its key.
-/

namespace WaybillBoard.Yaml

/-- Why a text is written in a style. -/
def Style.Fits (cs : List Char) : ScalarStyle → Prop
  | .plain => mayBePlain cs = true ∧ Scalar.isSpecial cs = false
  | .singleQuoted => '\n' ∉ cs ∧ mayBeSingleQuoted cs = true
  | .doubleQuoted => True
  | .literal => '\n' ∈ cs ∧ mayBeLiteral cs = true
  | .folded => False

theorem Style.fits_of (cs : List Char) : Fits cs (of cs) := by
  rw [of]
  by_cases hline : '\n' ∈ cs
  · rw [if_pos (List.contains_iff_mem.mpr hline)]
    split
    · next hliteral => exact ⟨hline, hliteral⟩
    · trivial
  · rw [if_neg (mt List.contains_iff_mem.mp hline)]
    split
    · next hplain => simpa [Fits] using hplain
    · split
      · next hsingle => exact ⟨hline, hsingle⟩
      · trivial

namespace Lexer

/-- What stands behind a colon in the column gives these tokens, whatever comes before it, and
whatever comes behind it in the column or to the left of it. -/
def LexesTo (column : Nat) (text : List Char) (tokens : List Token) : Prop :=
  ∀ (p : Place) (below : List Nat) (before : List Token) (spaces : Nat) (next : List Char),
    column ≤ p.column → spaces ≤ column → BeginsLine next →
      ∃ p' : Place, p'.column = spaces ∧
        Leads
          (between false (text ++ (List.replicate spaces ' ' ++ next)) p (column :: below) before)
          (between true next p' (column :: below) (before ++ tokens))

/-- A scalar stands behind a space. -/
theorem leads_scalar {column : Nat} {p : Place} (hcolumn : column ≤ p.column) {c : Char}
    {cs : List Char} (hbegins : BeginsLine (c :: cs)) {below : List Nat} {before : List Token}
    {allowed : Bool} {rest : List Char} {p' : Place} {blocks : List Nat} {tokens : List Token}
    (htake : (between false (c :: cs) (p.past [' ']) (column :: below) before).take? c cs =
      some (between allowed rest p' blocks tokens))
    (hle : rest.length ≤ cs.length) :
    Leads (between false (' ' :: c :: cs) p (column :: below) before)
      (between allowed rest p' blocks tokens) := by
  have hskip : skipGap false false false ([' '] ++ c :: cs) = (false, c :: cs) :=
    skipGap_spaces false 1 hbegins
  have hunroll : (between false (c :: cs) (p.past [' ']) (column :: below) before).unroll
      (p.past [' ']).column = between false (c :: cs) (p.past [' ']) (column :: below) before := by
    refine unroll_of_le ?_
    rintro block ⟨⟩
    rw [p.past_space]
    exact Nat.le_succ_of_le hcolumn
  have hsettle := settle?_between [' '] hskip p (column :: below) before
  rw [hunroll] at hsettle
  refine leads_take hsettle rfl htake ?_
  simp only [between, List.length_cons]
  omega

/-- What follows the end of a line does not depend on the end. -/
theorem leads_lineEnd (allowed : Bool) (spaces : Nat) {next : List Char} (hnext : BeginsLine next)
    (p : Place) (blocks : List Nat) (tokens : List Token) :
    Leads (between allowed ('\n' :: (List.replicate spaces ' ' ++ next)) p blocks tokens)
      (between true next (p.past ('\n' :: List.replicate spaces ' ')) blocks tokens) := by
  refine leads_of_settle? ?_ ?_
  · exact (settle?_between ('\n' :: List.replicate spaces ' ') (skipGap_break spaces hnext) p
      blocks tokens).trans (settle?_between [] (skipGap_begins true hnext) _ blocks tokens).symm
  · simp only [between, List.length_cons, List.length_append]
    omega

theorem lexesTo_quoted (column : Nat) {quote : Char} (inner : List Char) {cs : List Char}
    {style : ScalarStyle}
    (hquote : isGap quote = false ∧ quote ≠ '#')
    (htake : ∀ (lx : Lexer) (rest : List Char), lx.place.column ≠ 0 →
      lx.take? quote (inner ++ '\n' :: rest) = lx.quoted? style (some (cs, '\n' :: rest))) :
    LexesTo column (' ' :: quote :: (inner ++ ['\n'])) [.scalar style cs] := by
  intro p below before spaces next hcolumn hspaces hnext
  let rest := List.replicate spaces ' ' ++ next
  have hbegins : BeginsLine (quote :: (inner ++ '\n' :: rest)) := beginsLine_cons.mpr hquote
  have hplace : (p.past [' ']).column ≠ 0 := p.past_space ▸ Nat.succ_ne_zero _
  have hmove {lx : Lexer} (h : lx.rest = (quote :: inner) ++ '\n' :: rest) :=
    moveTo_append (quote :: inner) h
  have hread : (between false (quote :: (inner ++ '\n' :: rest)) (p.past [' ']) (column :: below)
      before).take? quote (inner ++ '\n' :: rest) =
        some (between false ('\n' :: rest) ((p.past [' ']).past (quote :: inner))
          (column :: below) (before ++ [.scalar style cs])) :=
    (htake _ rest hplace).trans (congrArg some (hmove rfl))
  have hline := leads_lineEnd false spaces hnext
    ((p.past [' ']).past (quote :: inner)) (column :: below) (before ++ [.scalar style cs])
  refine ⟨_, Place.past_break (b := '\n') ((p.past [' ']).past (quote :: inner)) [] (by decide)
    spaces, ?_⟩
  rw [List.cons_append, List.cons_append, List.append_assoc]
  exact (leads_scalar hcolumn hbegins hread (by simp)).trans hline

theorem lexesTo_singleQuoted (column : Nat) {cs : List Char} (h : SingleQuoted.Holds cs) :
    LexesTo column (' ' :: (SingleQuoted.write cs ++ ['\n'])) [.scalar .singleQuoted cs] := by
  have hread (rest : List Char) := SingleQuoted.scalar?_write ('\n' :: rest) h (by simp)
  refine lexesTo_quoted column (SingleQuoted.encode false cs ++ ['\x27']) (by decide)
    fun lx rest hplace => ?_
  rw [List.append_assoc, List.cons_append, List.nil_append, ← hread]
  simp [take?, hplace]

theorem lexesTo_doubleQuoted (column : Nat) (cs : List Char) :
    LexesTo column (' ' :: (DoubleQuoted.write cs ++ ['\n'])) [.scalar .doubleQuoted cs] := by
  have hread (rest : List Char) := DoubleQuoted.scalar?_write cs ('\n' :: rest)
  refine lexesTo_quoted column (cs.flatMap DoubleQuoted.encodeChar ++ ['\x22']) (by decide)
    fun lx rest hplace => ?_
  rw [List.append_assoc, List.cons_append, List.nil_append, ← hread]
  simp [take?, hplace]

theorem lexesTo_plain (column : Nat) {cs : List Char} (h : Style.mayBePlain cs = true) :
    LexesTo column (' ' :: (cs ++ ['\n'])) [.scalar .plain cs] := by
  intro p below before spaces next hcolumn hspaces hnext
  have hread := Plain.scalar?_of_mayBePlain h hnext
    (show (spaces : Int) < (column : Int) + 1 by omega)
  obtain ⟨c, ds, rfl, hplain⟩ := Plain.plainly_of_mayBePlain h
  -- The scalar takes the end of its line with it, and the blanks behind that.
  let line := '\n' :: List.replicate spaces ' '
  have hbegins : BeginsLine (c :: (ds ++ (line ++ next))) := by
    refine beginsLine_cons.mpr ⟨hplain.not_gap, ?_⟩
    rintro rfl
    cases hplain.begins
  have htouch : if c = '-' ∨ c = '?' ∨ c = ':' then gapFollows (ds ++ (line ++ next)) = false
      else Plain.isIndicator c = false := by
    rw [Plain.gapFollows_append ds rfl]
    exact hplain.begins
  have hplace : (p.past [' ']).column ≠ 0 := p.past_space ▸ Nat.succ_ne_zero _
  have hmove {lx : Lexer} (h : lx.rest = (c :: ds ++ line) ++ next) := moveTo_append _ h
  have htake : (between false (c :: (ds ++ (line ++ next))) (p.past [' ']) (column :: below)
      before).take? c (ds ++ (line ++ next)) =
        some (between true next ((p.past [' ']).past (c :: ds ++ line)) (column :: below)
          (before ++ [.scalar .plain (c :: ds)])) := by
    have hsave : (between false (c :: (ds ++ (line ++ next))) (p.past [' ']) (column :: below)
        before).saveKey? = some (between false (c :: (ds ++ (line ++ next))) (p.past [' '])
          (column :: below) before) := rfl
    have hrest : (between false (c :: (ds ++ (line ++ next))) (p.past [' ']) (column :: below)
        before).rest = (c :: ds ++ line) ++ next := (List.append_assoc (c :: ds) line next).symm
    refine (take?_plain rfl (absurd · hplace) hplain.not_gap htouch).trans ?_
    exact (plain?_eq hsave hread).trans (congrArg some (hmove hrest))
  refine ⟨_, Place.past_break (b := '\n') (p.past [' ']) (c :: ds) (by decide) spaces, ?_⟩
  rw [List.cons_append, List.append_assoc]
  refine leads_scalar hcolumn hbegins htake ?_
  rw [List.length_append, List.length_append]
  omega

/-- A literal text is not within any other block but the outermost one. -/
theorem lexesTo_literal {cs : List Char} (hne : cs ≠ []) (htab : cs.head? ≠ some '\t') :
    LexesTo 0 (' ' :: BlockText.write cs) [.scalar .literal cs] := by
  intro p below before spaces next hcolumn hspaces hnext
  obtain rfl := Nat.le_zero.mp hspaces
  have hread := BlockText.scalar?_write hne htab hnext
  obtain ⟨front, b, hb, hend⟩ := BlockText.exists_write_eq hne
  obtain ⟨rest, hwrite⟩ : ∃ rest, BlockText.write cs = '|' :: rest := ⟨_, rfl⟩
  rw [hwrite, List.tail_cons] at hread
  have hbegins : BeginsLine ('|' :: (rest ++ next)) := beginsLine_cons.mpr (by decide)
  have hplace : (p.past [' ']).column ≠ 0 := p.past_space ▸ Nat.succ_ne_zero _
  have hmove {lx : Lexer} (h : lx.rest = ('|' :: rest) ++ next) := moveTo_append _ h
  have htake : (between false ('|' :: (rest ++ next)) (p.past [' ']) (0 :: below) before).take?
      '|' (rest ++ next) =
        some (between true next ((p.past [' ']).past ('|' :: rest)) (0 :: below)
          (before ++ [.scalar .literal cs])) := by
    have hdrop : (between false ('|' :: (rest ++ next)) (p.past [' ']) (0 :: below)
        before).dropKey? = some (between false ('|' :: (rest ++ next)) (p.past [' ']) (0 :: below)
          before) := rfl
    have hindent : (between false ('|' :: (rest ++ next)) (p.past [' ']) (0 :: below)
        before).indent = 0 := rfl
    have htake {lx : Lexer} (hcolumn : lx.place.column ≠ 0) (hflow : lx.inFlow = false) :
        lx.take? '|' (rest ++ next) = lx.block? false (rest ++ next) := by
      simp [take?, hcolumn, hflow]
    rw [htake hplace rfl, block?, hdrop]
    dsimp only [bind, Option.bind]
    rw [hindent, hread]
    exact congrArg some (hmove rfl)
  refine ⟨(p.past [' ']).past ('|' :: rest), ?_, ?_⟩
  · rw [← hwrite, hend]
    exact Place.past_break (p.past [' ']) front hb 0
  · rw [hwrite]
    exact leads_scalar hcolumn hbegins htake (by simp)

/-- In the outermost block a text of any style gives itself. -/
theorem lexesTo_line (cs : List Char) :
    LexesTo 0 (' ' :: Style.line cs) [.scalar (Style.of cs) cs] := by
  have hfits := Style.fits_of cs
  rw [Style.line]
  cases hstyle : Style.of cs with
  | plain =>
      rw [hstyle] at hfits
      exact lexesTo_plain 0 hfits.1
  | singleQuoted =>
      rw [hstyle] at hfits
      obtain ⟨hline, hsingle⟩ := hfits
      simp only [Style.mayBeSingleQuoted, Bool.not_eq_true', Bool.or_eq_false_iff] at hsingle
      exact lexesTo_singleQuoted 0 ⟨hsingle.1, hsingle.2, hline⟩
  | doubleQuoted => exact lexesTo_doubleQuoted 0 cs
  | literal =>
      rw [hstyle] at hfits
      obtain ⟨hline, hliteral⟩ := hfits
      refine lexesTo_literal (List.ne_nil_of_mem hline) ?_
      obtain ⟨c, cs, rfl⟩ := List.exists_cons_of_ne_nil (List.ne_nil_of_mem hline)
      simp only [Style.mayBeLiteral, Bool.not_eq_true', Bool.or_eq_false_iff] at hliteral
      have hprintable := (needsEscapes_cons_eq_false.mp hliteral.1).1
      exact fun htab => ne_tab_of_isPrintable hprintable (Option.some.inj htab)
  | folded =>
      rw [hstyle] at hfits
      exact hfits.elim

end Lexer

end WaybillBoard.Yaml
