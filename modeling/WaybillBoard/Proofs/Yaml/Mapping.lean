import WaybillBoard.Proofs.Yaml.Value
import WaybillBoard.Yaml.Document

/-!
Block mappings, from their text over their tokens to their node. A field keeps the three together.
-/

namespace WaybillBoard.Yaml

structure Field where
  name : List Char
  /-- What is written behind the colon. -/
  text : List Char
  /-- The tokens of what is written there, and the node that they make up. -/
  tokens : List Token
  node : Node

namespace Field

def line (f : Field) : List Char := f.name ++ ':' :: f.text

def allTokens (f : Field) : List Token := .key :: .scalar .plain f.name :: .value :: f.tokens

def block (column : Nat) (fields : List Field) : List Char :=
  fields.flatMap fun f => List.replicate column ' ' ++ f.line

end Field

namespace Lexer

/-- A field in the column gives its tokens. -/
structure Lexes (column : Nat) (f : Field) : Prop where
  name : IsName f.name
  gap : ∀ rest, gapFollows (f.text ++ rest) = true
  text : LexesTo column f.text f.tokens

section Lexes

variable {column : Nat} {f : Field} (hf : Lexes column f) {spaces : Nat} {next : List Char}
  (hspaces : spaces ≤ column) (hnext : BeginsLine next)
include hf hspaces hnext

/-- A field where the line stands at the column, with its block open or not. -/
theorem leads_field {p : Place} (hcolumn : p.column = column) {blocks : List Nat}
    (hblocks : ∀ block ∈ blocks.head?, block ≤ column) {below : List Nat}
    (hrolled : rolled blocks column = column :: below) (before : List Token) :
    ∃ p' : Place, p'.column = spaces ∧
      Leads (between true (f.line ++ (List.replicate spaces ' ' ++ next)) p blocks before)
        (between true next p' (column :: below)
          (before ++ opening blocks column ++ f.allTokens)) := by
  subst hcolumn
  have hpast := past_name hf.name p
  have hkey := leads_key hf.name hblocks (hf.gap (List.replicate spaces ' ' ++ next)) before
  have hbehind : p.column ≤ ((p.past f.name).past [':']).column := by
    rw [Place.past_line _ (List.forall_mem_singleton.mpr rfl), hpast]
    simp only [List.length_cons]
    omega
  obtain ⟨p', hp', htext⟩ := hf.text ((p.past f.name).past [':']) below
    (before ++ opening blocks p.column ++ [.key, .scalar .plain f.name, .value]) spaces next hbehind
    hspaces hnext
  rw [hrolled] at hkey
  refine ⟨p', hp', ?_⟩
  have hleads := hkey.trans htext
  simp only [Field.line, Field.allTokens, List.append_assoc, List.cons_append, List.nil_append] at *
  exact hleads

end Lexes

theorem LexesTo.field {column : Nat} {text : List Char} {tokens : List Token}
    (h : LexesTo column text tokens) {f : Field} (hf : Lexes column f) :
    LexesTo column (text ++ (List.replicate column ' ' ++ f.line)) (tokens ++ f.allTokens) := by
  intro p below before spaces next hcolumn hspaces hnext
  -- What comes before ends where the field begins, in the same column.
  obtain ⟨q, hq, htext⟩ := h p below before column
    (f.line ++ (List.replicate spaces ' ' ++ next)) hcolumn (Nat.le_refl _)
    (by rw [Field.line, List.append_assoc]; exact beginsLine_name hf.name _)
  have hblocks : ∀ block ∈ (column :: below).head?, block ≤ column := by
    rintro block ⟨⟩
    exact Nat.le_refl _
  obtain ⟨p', hp', hfield⟩ := leads_field hf hspaces hnext hq hblocks (if_pos rfl)
    (before ++ tokens)
  have hopening : opening (column :: below) column = [] := if_pos rfl
  refine ⟨p', hp', ?_⟩
  have hleads := htext.trans hfield
  rw [hopening] at hleads
  simpa only [List.append_assoc, List.nil_append] using hleads

theorem LexesTo.block {column : Nat} {text : List Char} {tokens : List Token}
    (h : LexesTo column text tokens) {fields : List Field}
    (hfields : ∀ f ∈ fields, Lexes column f) :
    LexesTo column (text ++ Field.block column fields)
      (tokens ++ fields.flatMap Field.allTokens) := by
  induction fields generalizing text tokens with
  | nil => simpa [Field.block] using h
  | cons f fields ih =>
      obtain ⟨hf, hfields⟩ := List.forall_mem_cons.mp hfields
      simpa [Field.block] using ih (h.field hf) hfields

/-- Fields in a column, with their block open or not. -/
theorem leads_block {column : Nat} {f : Field} {fields : List Field}
    (hfields : ∀ g ∈ f :: fields, Lexes column g) {spaces : Nat} (hspaces : spaces ≤ column)
    {next : List Char} (hnext : BeginsLine next) {p : Place} (hcolumn : p.column = column)
    {blocks below : List Nat} (hblocks : ∀ block ∈ blocks.head?, block ≤ column)
    (hrolled : rolled blocks column = column :: below) (before : List Token) :
    ∃ p' : Place, p'.column = spaces ∧
      Leads
        (between true (f.line ++ Field.block column fields ++ (List.replicate spaces ' ' ++ next)) p
          blocks before)
        (between true next p' (column :: below)
          (before ++ opening blocks column ++ (f :: fields).flatMap Field.allTokens)) := by
  obtain ⟨hf, hothers⟩ := List.forall_mem_cons.mp hfields
  -- The other fields count as a part of the first one.
  have hwhole : Lexes column { f with
      text := f.text ++ Field.block column fields
      tokens := f.tokens ++ fields.flatMap Field.allTokens } :=
    ⟨hf.name, fun rest => by rw [List.append_assoc]; exact hf.gap _, hf.text.block hothers⟩
  obtain ⟨p', hp', hleads⟩ := leads_field hwhole hspaces hnext hcolumn hblocks hrolled before
  refine ⟨p', hp', ?_⟩
  simpa [Field.line, Field.allTokens] using hleads

/-- A block ends where a line stands to the left of it. -/
theorem leads_blockEnd {next : List Char} (hnext : BeginsLine next) {p : Place} {block : Nat}
    (hless : p.column < block) (below : List Nat) (tokens : List Token) :
    Leads (between true next p (block :: below) tokens)
      (between true next p below (tokens ++ [.blockEnd])) := by
  have hskip := skipGap_begins true hnext
  refine leads_of_settle? ?_ (Nat.le_refl _)
  refine (settle?_between [] hskip p _ _).trans ?_
  refine Eq.trans ?_ (settle?_between [] hskip p _ _).symm
  exact congrArg some (unroll_cons (by exact_mod_cast hless))

/-- A block within a block. -/
theorem lexesTo_block {column inner : Nat} (hdeeper : column < inner) {f : Field}
    {fields : List Field} (hfields : ∀ g ∈ f :: fields, Lexes inner g) :
    LexesTo column ('\n' :: Field.block inner (f :: fields))
      (.mappingStart :: ((f :: fields).flatMap Field.allTokens ++ [.blockEnd])) := by
  intro p below before spaces next _ hspaces hnext
  let lines := f.line ++ Field.block inner fields ++ (List.replicate spaces ' ' ++ next)
  let q := p.past ('\n' :: List.replicate inner ' ')
  have hlines : BeginsLine lines := by
    simp only [lines, Field.line, List.append_assoc]
    exact beginsLine_name (hfields f List.mem_cons_self).name _
  have hq : q.column = inner := p.past_break [] (by decide) inner
  have hblocks : ∀ block ∈ (column :: below).head?, block ≤ inner := by
    rintro block ⟨⟩
    exact Nat.le_of_lt hdeeper
  have hne : (column :: below).head? ≠ some inner := by simpa using Nat.ne_of_lt hdeeper
  have hopening : opening (column :: below) inner = [.mappingStart] := if_neg hne
  have hline := leads_lineEnd false inner hlines p (column :: below) before
  obtain ⟨p', hp', hblock⟩ := leads_block hfields
    (Nat.le_trans hspaces (Nat.le_of_lt hdeeper)) hnext hq hblocks (if_neg hne) before
  rw [hopening] at hblock
  -- The next line stands in the outer block at most, so the inner one ends there.
  have hend := leads_blockEnd hnext (show p'.column < inner by omega) (column :: below)
    (before ++ [.mappingStart] ++ (f :: fields).flatMap Field.allTokens)
  refine ⟨p', hp', ?_⟩
  have hleads := (hline.trans hblock).trans hend
  simpa [Field.block, lines] using hleads

/-! ### Whole documents -/

/-- What may end a document, with its tokens. -/
def endings : List (List Char × List Token) := [([], []), ("...\n".toList, [.documentEnd])]

theorem unroll_nil {allowed : Bool} {rest : List Char} {p : Place} {tokens : List Token}
    (column : Int) :
    (between allowed rest p [] tokens).unroll column = between allowed rest p [] tokens := by
  simp [unroll, between]

theorem run?_of_rest_eq_nil {lx here : Lexer} (hsettle : lx.settle? = some here)
    (hrest : here.rest = []) : lx.run? = (here.unroll (-1)).dropKey?.map (·.tokens) := by
  rw [run?, hsettle]
  simp only [hrest]

theorem run?_lineEnd (p : Place) (tokens : List Token) :
    (between false ['\n'] p [] tokens).run? = some tokens := by
  have hsettle : (between false ['\n'] p [] tokens).settle? =
      some (between true [] (p.past ['\n']) [] tokens) :=
    (settle?_between ['\n'] (skipGap_break 0 beginsLine_nil) p [] tokens).trans
      (congrArg some (unroll_nil _))
  rw [run?_of_rest_eq_nil hsettle rfl, unroll_nil]
  rfl

theorem run?_ending {ending : List Char × List Token} (h : ending ∈ endings) {p : Place}
    (hcolumn : p.column = 0) (tokens : List Token) :
    (between true ending.1 p [0] tokens).run? = some (tokens ++ .blockEnd :: ending.2) := by
  have hblocks : ∀ block ∈ [0].head?, block ≤ (p.past []).column := by
    rintro block ⟨⟩
    exact Nat.zero_le _
  have hsettle {rest : List Char} (hrest : BeginsLine rest) :
      (between true rest p [0] tokens).settle? = some (between true rest p [0] tokens) :=
    (settle?_between [] (skipGap_begins true hrest) p [0] tokens).trans
      (congrArg some (unroll_of_le hblocks))
  have hunroll {rest : List Char} : (between true rest p [0] tokens).unroll (-1) =
      between true rest p [] (tokens ++ [.blockEnd]) :=
    (unroll_cons (by omega)).trans (unroll_nil (-1))
  simp only [endings, List.mem_cons, List.not_mem_nil, or_false] at h
  rcases h with rfl | rfl
  · rw [run?_of_rest_eq_nil (hsettle beginsLine_nil) rfl, hunroll]
    rfl
  · have hbegins : BeginsLine "...\n".toList := beginsLine_cons.mpr (by decide)
    have hdots : (between true "...\n".toList p [0] tokens).take? '.' "..\n".toList =
        (between true "...\n".toList p [0] tokens).mark? .documentEnd ['\n'] := by
      have hplace : (between true "...\n".toList p [0] tokens).place.column = 0 := hcolumn
      have hstart : atDocumentStart ('.' :: "..\n".toList) = false := by decide
      have hend : atDocumentEnd ('.' :: "..\n".toList) = true := by decide
      simp only [take?, hplace, hstart, hend]
      rfl
    have hmark : (between true "...\n".toList p [0] tokens).mark? .documentEnd ['\n'] =
        some (between false ['\n'] (p.past "...".toList) [] (tokens ++ [.blockEnd] ++
          [.documentEnd])) := by
      rw [mark?, hunroll]
      exact congrArg some (moveTo_append "...".toList rfl)
    have hleads := leads_take (hsettle hbegins) rfl (hdots.trans hmark) (Nat.lt_add_of_pos_right
      (n := 1) (k := 3) (by decide))
    simpa using hleads _ (run?_lineEnd _ _)

/-- A document of fields, whatever ends it, gives the tokens of a block. -/
theorem run?_document {f : Field} {fields : List Field} (hfields : ∀ g ∈ f :: fields, Lexes 0 g)
    {ending : List Char × List Token} (hending : ending ∈ endings) :
    (between true (Field.block 0 (f :: fields) ++ ending.1) ⟨0, 0, 0⟩ [] []).run? =
      some (.mappingStart :: ((f :: fields).flatMap Field.allTokens ++ .blockEnd :: ending.2)) := by
  have hnext : BeginsLine ending.1 := by
    simp only [endings, List.mem_cons, List.not_mem_nil, or_false] at hending
    rcases hending with rfl | rfl
    · exact beginsLine_nil
    · exact beginsLine_cons.mpr (by decide)
  have hblocks : ∀ block ∈ ([] : List Nat).head?, block ≤ 0 := nofun
  obtain ⟨p', hp', hleads⟩ := leads_block hfields (Nat.le_refl 0) hnext (p := ⟨0, 0, 0⟩) rfl
    hblocks rfl []
  have hrun := hleads _ (run?_ending hending hp' _)
  simpa [Field.block, opening] using hrun

end Lexer

end WaybillBoard.Yaml
