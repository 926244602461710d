import WaybillBoard.Proofs.Yaml.Mapping
import WaybillBoard.Proofs.Yaml.Printable

/-!
What is written as a block of fields is read as a mapping of their nodes.
-/

namespace WaybillBoard.Yaml

namespace Reading

theorem run_peek (u : Unread) : peek.run u = some (u.tokens.head?, u) := rfl

theorem run_skip (u : Unread) : skip.run u = some ((), { u with tokens := u.tokens.drop 1 }) := rfl

/-- The tokens make up the node, also as a key or a value. -/
structure Parses (handles : Handles) (tokens : List Token) (n : Node) : Prop where
  begins : ∃ t ts, tokens = t :: ts ∧ endsEntry t = false
  run_node : ∀ (bare : Bool) (fuel : Nat) (rest : List Token) (anchors : List (List Char × Nat)),
    tokens.length ≤ fuel → (node handles true bare fuel).run ⟨tokens ++ rest, anchors⟩ =
      some (n, ⟨rest, anchors⟩)

variable {handles : Handles}

theorem parses_scalar (handles : Handles) (style : ScalarStyle) (text : List Char) :
    Parses handles [.scalar style text] (.scalar none none style text) := by
  refine ⟨⟨_, [], rfl, rfl⟩, fun bare fuel rest anchors hfuel => ?_⟩
  cases fuel with
  | zero => cases hfuel
  | succ fuel => rfl

/-- A key or a value is read where a token stands that does not end it. -/
theorem Parses.run_emptyAt {tokens : List Token} {n : Node} (h : Parses handles tokens n)
    {fuel : Nat} (hfuel : tokens.length ≤ fuel) (rest : List Token)
    (anchors : List (List Char × Nat)) :
    (emptyAt endsEntry (node handles true true fuel)).run ⟨tokens ++ rest, anchors⟩ =
      some (n, ⟨rest, anchors⟩) := by
  obtain ⟨t, ts, rfl, ht⟩ := h.begins
  rw [← h.run_node true fuel rest anchors hfuel]
  simp [emptyAt, run_peek, ht]

end Reading

def Field.entry (f : Field) : Node × Node := (.scalar none none .plain f.name, f.node)

namespace Reading

variable {handles : Handles}

theorem run_entries {fields : List Field} (h : ∀ f ∈ fields, Parses handles f.tokens f.node)
    {fuel : Nat} (hfuel : (fields.flatMap Field.allTokens).length < fuel) (rest : List Token)
    (anchors : List (List Char × Nat)) :
    (entries handles fuel).run
        ⟨fields.flatMap Field.allTokens ++ .blockEnd :: rest, anchors⟩ =
      some (fields.map Field.entry, ⟨rest, anchors⟩) := by
  induction fields generalizing fuel with
  | nil =>
      cases fuel with
      | zero => cases hfuel
      | succ fuel => rfl
  | cons f fields ih =>
      obtain ⟨hf, hfields⟩ := List.forall_mem_cons.mp h
      cases fuel with
      | zero => cases hfuel
      | succ fuel =>
          -- What is left of the fuel still reaches over the key, the value and the rest.
          simp only [List.flatMap_cons, Field.allTokens, List.length_append, List.length_cons]
            at hfuel
          have hkey := (parses_scalar handles .plain f.name).run_emptyAt
            (show 1 ≤ fuel by omega)
          have hvalue := hf.run_emptyAt (show f.tokens.length ≤ fuel by omega)
          have hrest := ih hfields (show (fields.flatMap Field.allTokens).length < fuel by omega)
          simp only [List.flatMap_cons, Field.allTokens, List.cons_append, List.append_assoc,
            List.nil_append] at hkey hvalue hrest ⊢
          simp only [entries, valueOr, StateT.run_bind, run_peek, run_skip, List.head?_cons,
            List.drop_succ_cons, List.drop_zero, Option.bind_eq_bind, Option.bind_some, hkey,
            hvalue, hrest]
          rfl

theorem parses_mapping {fields : List Field} (h : ∀ f ∈ fields, Parses handles f.tokens f.node) :
    Parses handles (.mappingStart :: (fields.flatMap Field.allTokens ++ [.blockEnd]))
      (.mapping none (fields.map Field.entry)) := by
  refine ⟨⟨_, _, rfl, rfl⟩, fun bare fuel rest anchors hfuel => ?_⟩
  simp only [List.length_cons, List.length_append, List.length_nil] at hfuel
  cases fuel with
  | zero => omega
  | succ fuel =>
      have hentries := run_entries h (show (fields.flatMap Field.allTokens).length < fuel by omega)
        rest anchors
      rw [List.cons_append, List.append_assoc, List.singleton_append]
      simp only [node, properties, anchor, tag, StateT.run_bind, StateT.run_pure, run_peek,
        run_skip, List.head?_cons, List.drop_succ_cons, List.drop_zero, Option.bind_eq_bind,
        Option.bind_some, Option.pure_def, Option.mapM_none, hentries, if_true]

end Reading

/-! ### Fields that are read back -/

/-- What is written of the field in the column is read as its node. -/
structure Field.Reads (column : Nat) (f : Field) : Prop where
  lexes : Lexer.Lexes column f
  parses : Reading.Parses standardHandles f.tokens f.node
  printable : Printable f.text

namespace Field

/-- A text, in the style that fits it. -/
def ofText (name cs : List Char) : Field where
  name
  text := ' ' :: Style.line cs
  tokens := [.scalar (Style.of cs) cs]
  node := .scalar none none (Style.of cs) cs

/-- A text without quotes, also where it stands for something else. -/
def ofPlain (name cs : List Char) : Field where
  name
  text := ' ' :: (cs ++ ['\n'])
  tokens := [.scalar .plain cs]
  node := .scalar none none .plain cs

def ofFields (name : List Char) (column : Nat) (fields : List Field) : Field where
  name
  text := '\n' :: block column fields
  tokens := .mappingStart :: (fields.flatMap allTokens ++ [.blockEnd])
  node := .mapping none (fields.map entry)

theorem reads_ofText {name : List Char} (hname : Lexer.IsName name) (cs : List Char) :
    Reads 0 (ofText name cs) where
  lexes := ⟨hname, fun _ => rfl, Lexer.lexesTo_line cs⟩
  parses := Reading.parses_scalar _ _ _
  printable := printable_cons.mpr ⟨rfl, printable_line cs⟩

theorem reads_ofPlain {name : List Char} (hname : Lexer.IsName name) {cs : List Char}
    (h : Style.mayBePlain cs = true) (column : Nat) : Reads column (ofPlain name cs) where
  lexes := ⟨hname, fun _ => rfl, Lexer.lexesTo_plain column h⟩
  parses := Reading.parses_scalar _ _ _
  printable := by
    obtain ⟨c, ds, rfl, hplain⟩ := Plain.plainly_of_mayBePlain h
    exact printable_cons.mpr ⟨rfl, printable_append.mpr
      ⟨hplain.continues.printable, printable_replicate 1 rfl⟩⟩

theorem printable_block {column : Nat} {fields : List Field} (h : ∀ f ∈ fields, Reads column f) :
    Printable (block column fields) := by
  intro c hc
  obtain ⟨f, hf, hc⟩ := List.mem_flatMap.mp hc
  have hname : Printable f.name := fun d hd =>
    (Lexer.of_isAlpha ((h f hf).lexes.name.letters d hd)).2.2.2
  exact printable_append.mpr ⟨printable_replicate column rfl, printable_append.mpr
    ⟨hname, printable_cons.mpr ⟨rfl, (h f hf).printable⟩⟩⟩ c hc

theorem reads_ofFields {name : List Char} (hname : Lexer.IsName name) {column inner : Nat}
    (hdeeper : column < inner) {f : Field} {fields : List Field}
    (h : ∀ g ∈ f :: fields, Reads inner g) : Reads column (ofFields name inner (f :: fields)) where
  lexes := ⟨hname, fun _ => rfl, Lexer.lexesTo_block hdeeper fun g hg => (h g hg).lexes⟩
  parses := Reading.parses_mapping fun g hg => (h g hg).parses
  printable := printable_cons.mpr ⟨rfl, printable_block h⟩

end Field

theorem printable_ending {ending : List Char × List Token} (h : ending ∈ Lexer.endings) :
    Printable ending.1 ∧ ending.2.all Token.isDocumentEnd = true := by
  simp only [Lexer.endings, List.mem_cons, List.not_mem_nil, or_false] at h
  rcases h with rfl | rfl
  · exact ⟨printable_nil, rfl⟩
  · have hall : "...\n".toList.all DoubleQuoted.isPrintable = true := rfl
    exact ⟨List.all_eq_true.mp hall, rfl⟩

/-- A document of fields is read as a mapping of them. -/
theorem Node.read?_block {f : Field} {fields : List Field} (h : ∀ g ∈ f :: fields, g.Reads 0)
    {ending : List Char × List Token} (hending : ending ∈ Lexer.endings) :
    Node.read? (Field.block 0 (f :: fields) ++ ending.1) =
      some (some (.mapping none ((f :: fields).map Field.entry))) := by
  obtain ⟨hprintable, hends⟩ := printable_ending hending
  have htokens := Lexer.run?_document (fun g hg => (h g hg).lexes) hending
  have hparses := Reading.parses_mapping fun g hg => (h g hg).parses
  have hroot (fuel : Nat) := hparses.run_node false fuel ending.2 []
  rw [List.cons_append, List.append_assoc, List.singleton_append] at hroot
  rw [read?, all?_printable (printable_append.mpr ⟨Field.printable_block h, hprintable⟩), htokens,
    Option.bind_some]
  generalize ((f :: fields).flatMap Field.allTokens) = tokens at hroot ⊢
  have hread : Node.root? standardHandles (.mappingStart :: (tokens ++ .blockEnd :: ending.2)) =
      some (.mapping none ((f :: fields).map Field.entry), ⟨ending.2, []⟩) := by
    refine hroot _ ?_
    simp only [List.length_cons, List.length_append, List.length_nil]
    omega
  simp only [ofTokens?, Directive.leading, hread, Option.bind_eq_bind, Option.bind_some, hends,
    if_true]

end WaybillBoard.Yaml
