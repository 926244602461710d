import WaybillBoard.Config.Layers
import WaybillBoard.Proofs.Text.Octets
import WaybillBoard.Proofs.Yaml.Document

/-!
A configuration is loaded from the file that it was saved in, whatever texts it holds.
-/

namespace WaybillBoard.Config

open Yaml (Field Node)
open Yaml.Lexer (IsName)

def searchFields (c : Config) : List Field :=
  [.ofPlain "threshold".toList (thresholdText c.threshold)]

def uiFields (c : Config) : List Field :=
  [.ofPlain "enableMouse".toList (boolText c.enableMouse).toList,
    .ofPlain "noIcons".toList (boolText c.noIcons).toList]

/-- The fields of the document of a configuration. -/
def documentFields (c : Config) : List Field :=
  [.ofText "apiUrl".toList c.apiUrl.toList,
    .ofText "requestTimeout".toList c.requestTimeout.toList,
    .ofText "refreshInterval".toList c.refreshInterval.toList,
    .ofText "defaultNamespace".toList c.defaultNamespace.toList,
    .ofFields "search".toList 2 c.searchFields,
    .ofFields "ui".toList 2 c.uiFields]

theorem mayBePlain_boolText (b : Bool) : Yaml.Style.mayBePlain (boolText b).toList = true := by
  cases b <;> decide

theorem reads_searchFields (c : Config) : ∀ f ∈ c.searchFields, f.Reads 2 :=
  List.forall_mem_singleton.mpr (Field.reads_ofPlain ⟨by decide, by decide, by decide⟩
    (Yaml.Plain.mayBePlain_textWith _ _) 2)

theorem reads_uiFields (c : Config) : ∀ f ∈ c.uiFields, f.Reads 2 := by
  simp only [uiFields, List.forall_mem_cons]
  exact ⟨Field.reads_ofPlain ⟨by decide, by decide, by decide⟩ (mayBePlain_boolText _) 2,
    Field.reads_ofPlain ⟨by decide, by decide, by decide⟩ (mayBePlain_boolText _) 2, nofun⟩

theorem reads_documentFields (c : Config) : ∀ f ∈ c.documentFields, f.Reads 0 := by
  simp only [documentFields, List.forall_mem_cons]
  exact ⟨Field.reads_ofText ⟨by decide, by decide, by decide⟩ _,
    Field.reads_ofText ⟨by decide, by decide, by decide⟩ _,
    Field.reads_ofText ⟨by decide, by decide, by decide⟩ _,
    Field.reads_ofText ⟨by decide, by decide, by decide⟩ _,
    Field.reads_ofFields ⟨by decide, by decide, by decide⟩ (by decide) c.reads_searchFields,
    Field.reads_ofFields ⟨by decide, by decide, by decide⟩ (by decide) c.reads_uiFields, nofun⟩

theorem toYaml_eq (c : Config) : c.toYaml = Field.block 0 c.documentFields ++ Yaml.Style.endMark
    ([c.apiUrl, c.requestTimeout, c.refreshInterval, c.defaultNamespace].map String.toList) := by
  unfold toYaml
  dsimp only
  generalize Yaml.Style.endMark _ = ending
  simp [documentFields, searchFields, uiFields, Field.block, Field.line, Field.ofText,
    Field.ofPlain, Field.ofFields]

theorem exists_ending (texts : List (List Char)) :
    ∃ ending ∈ Yaml.Lexer.endings, Yaml.Style.endMark texts = ending.1 := by
  unfold Yaml.Style.endMark
  split
  · exact ⟨("...\n".toList, [.documentEnd]), by simp [Yaml.Lexer.endings], rfl⟩
  · exact ⟨([], []), by simp [Yaml.Lexer.endings], rfl⟩

theorem number?_thresholdText (root : Node) (x : Binary64) :
    number? root (.scalar none none .plain (thresholdText x)) = some x :=
  Yaml.Scalar.number?_textWith _ x

theorem bool?_boolText (root : Node) (b : Bool) :
    bool? root (.scalar none none .plain (boolText b).toList) = some b := by
  cases b <;> rfl

theorem text?_scalar (root : Node) (style : Yaml.ScalarStyle) (text : String) :
    text? root (.scalar none none style text.toList) = some text :=
  congrArg some String.ofList_toList

/-- A field of a document under its name. -/
def named (f : Field) : String × Node := (String.ofList f.name, f.node)

theorem mapM_entry (root : Node) (fields : List Field) :
    (fields.map Field.entry).mapM (m := Option)
        (fun (key, value) => do return (← text? root key, value)) = some (fields.map named) := by
  induction fields with
  | nil => rfl
  | cons f fields ih =>
      rw [List.map_cons, List.mapM_cons, ih]
      rfl

/-- A mapping of the named fields, each once. -/
theorem fields?_mapping (root : Node) {fields : List Field} {names : List String}
    (hnames : (fields.map named).map (·.1) = names) (hnodup : names.Nodup) :
    fields? names root (.mapping none (fields.map Field.entry)) = some (fields.map named) := by
  have hfilter : (fields.map named).filter (names.contains ·.1) = fields.map named := by
    rw [List.filter_eq_self]
    intro field hfield
    rw [List.contains_iff_mem, ← hnames]
    exact List.mem_map_of_mem hfield
  have hall := mapM_entry root fields
  rw [fields?]
  dsimp only [Node.resolve]
  rw [hall, Option.bind_eq_bind, Option.bind_some, hfilter, hnames, if_pos hnodup]

theorem field?_cons {α : Type} (key : String) (node : Node) (fields : Fields) (name : String)
    (read : Node → Option α) (default : α) :
    field? ((key, node) :: fields) name read default =
      if name = key then read node else field? fields name read default := by
  rw [field?, List.lookup_cons]
  by_cases h : name = key
  · rw [if_pos h, beq_iff_eq.mpr h]
  · rw [if_neg h, beq_eq_false_iff_ne.mpr h]
    rfl

theorem ofNode?_documentFields (c : Config) :
    ofNode? (.mapping none (c.documentFields.map Field.entry)) = some c := by
  generalize hroot : Node.mapping none (c.documentFields.map Field.entry) = root
  have htop : topFields? root = some (c.documentFields.map named) := by
    rw [← hroot]
    refine fields?_mapping _ ?_ (by decide)
    simp [documentFields, named, Field.ofText, Field.ofFields]
  have hsearch : fields? ["threshold"] root (.mapping none (c.searchFields.map Field.entry)) =
      some (c.searchFields.map named) := by
    refine fields?_mapping root ?_ (by decide)
    simp [searchFields, named, Field.ofPlain]
  have hui : fields? ["enableMouse", "noIcons"] root
      (.mapping none (c.uiFields.map Field.entry)) = some (c.uiFields.map named) := by
    refine fields?_mapping root ?_ (by decide)
    simp [uiFields, named, Field.ofPlain]
  simp only [ofNode?, htop, documentFields, List.map_cons, named, Field.ofText, Field.ofFields,
    String.ofList_toList, field?_cons, String.reduceEq, if_true, if_false, text?_scalar, hsearch,
    hui, Option.bind_eq_bind, Option.bind_some]
  simp only [searchFields, uiFields, List.map_cons, named, Field.ofPlain, String.ofList_toList,
    field?_cons, String.reduceEq, if_true, if_false, number?_thresholdText, bool?_boolText,
    Option.bind_some, Option.pure_def]

/-- A configuration is read from its own document. -/
theorem ofYaml?_toYaml (c : Config) : ofYaml? c.toYaml = some c := by
  obtain ⟨ending, hending, hmark⟩ := exists_ending
    ([c.apiUrl, c.requestTimeout, c.refreshInterval, c.defaultNamespace].map String.toList)
  have hread : Node.read? (Field.block 0 c.documentFields ++ ending.1) =
      some (some (.mapping none (c.documentFields.map Field.entry))) :=
    Node.read?_block c.reads_documentFields hending
  rw [ofYaml?, toYaml_eq, hmark, hread, Option.bind_eq_bind, Option.bind_some]
  exact c.ofNode?_documentFields

/-- A configuration is loaded from the file that it was saved in. -/
theorem ofFile_save (c : Config) (file : ConfigFile) : ofFile (c.save file) = .ok c := by
  have htext : (c.save file).content.readText = .ok c.toYaml := by
    simp only [save, FileContent.readText, FileContent.read, bind, Except.bind,
      Text.Octets.decode_encode]
    rfl
  rw [ofFile, htext]
  simp only [c.ofYaml?_toYaml]

end WaybillBoard.Config
