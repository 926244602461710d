import WaybillBoard.CommandLine.Run

/-!
Which of several values a setting has. Arguments come before the environment, that before the
configuration file, and that before the defaults; but a file that is there and cannot be loaded
takes the environment with it.
-/

namespace WaybillBoard

namespace Setting

/-- The settings that are texts, which may be given in several places. -/
def texts : List Setting := [.apiUrl, .requestTimeout, .refreshInterval, .defaultNamespace]

/-- The text that a setting has where nothing gives it one. -/
def builtIn (s : Setting) : String := ({} : Config).get s

end Setting

namespace Config

/-- The text that a document gives a setting at its top. -/
def given? (cs : List Char) (s : Setting) : Option String := do
  let root ← (← Yaml.Node.read? cs)
  let top ← topFields? root
  text? root (← top.lookup s.name)

theorem field?_eq_some {fields : Fields} {name : String} {root : Yaml.Node} {default value : String}
    (h : field? fields name (text? root) default = some value) :
    value = ((fields.lookup name).bind (text? root)).getD default := by
  unfold field? at h
  split at h
  · next node hnode => rw [hnode, Option.bind_some, h, Option.getD_some]
  · next hnone => rw [hnone, Option.bind_none, Option.getD_none, Option.some.inj h]

/-- A document that can be loaded gives each text what it says at its top. -/
theorem get_of_ofYaml {cs : List Char} {c : Config} (h : ofYaml? cs = some c) {s : Setting}
    (hs : s ∈ Setting.texts) : c.get s = (given? cs s).getD s.builtIn := by
  simp only [ofYaml?, Option.bind_eq_bind, Option.bind_eq_some_iff] at h
  obtain ⟨document, hread, h⟩ := h
  simp only [given?, hread, Option.bind_eq_bind, Option.bind_some]
  cases document with
  | none =>
      cases h
      rfl
  | some root =>
      simp only [ofNode?, Option.bind_eq_bind, Option.bind_eq_some_iff, Option.pure_def,
        Option.some.injEq] at h
      obtain ⟨top, htop, search, -, ui, -, url, hurl, timeout, htimeout, interval, hinterval, ns,
        hns, threshold, -, mouse, -, icons, -, rfl⟩ := h
      simp only [htop, Option.bind_some]
      simp only [Setting.texts, List.mem_cons, List.not_mem_nil, or_false] at hs
      rcases hs with rfl | rfl | rfl | rfl
      · exact field?_eq_some hurl
      · exact field?_eq_some htimeout
      · exact field?_eq_some hinterval
      · exact field?_eq_some hns

theorem ofFile_eq_ok_iff {file : ConfigFile} {c : Config} :
    ofFile file = .ok c ↔ ∃ cs, file.content.readText = .ok cs ∧ ofYaml? cs = some c := by
  unfold ofFile
  cases file.content.readText with
  | error e => simp
  | ok cs => cases h : ofYaml? cs <;> simp [h]

/-- The text that a file gives a setting, if the file can be loaded and sets it. -/
def written? (file : ConfigFile) (s : Setting) : Option String :=
  match file.content.readText with
  | .ok cs => if (ofYaml? cs).isSome then given? cs s else none
  | .error _ => none

/-- Is there no file, or one that can be loaded? -/
def Loads (file : ConfigFile) : Prop := ∃ c, stored file = .ok c

theorem get_stored {file : ConfigFile} {c : Config} (h : stored file = .ok c) {s : Setting}
    (hs : s ∈ Setting.texts) : c.get s = (written? file s).getD s.builtIn := by
  unfold stored at h
  split at h
  · obtain ⟨cs, hread, hc⟩ := ofFile_eq_ok_iff.mp h
    simp only [written?, hread, hc, Option.isSome_some, if_true]
    exact get_of_ofYaml hc hs
  · next hmissing =>
    obtain rfl := Except.ok.inj h
    cases hcontent : file.content with
    | missing => simp only [written?, hcontent]; rfl
    | directory | octets => simp [hcontent, FileContent.isPresent] at hmissing

theorem written?_of_not_loads {file : ConfigFile} (h : ¬ Loads file) (s : Setting) :
    written? file s = none := by
  unfold written?
  cases hread : file.content.readText with
  | error e => rfl
  | ok cs =>
      refine if_neg fun hsome => h ?_
      obtain ⟨c, hc⟩ := Option.isSome_iff_exists.mp hsome
      refine ⟨c, ?_⟩
      unfold stored
      split
      · exact ofFile_eq_ok_iff.mpr ⟨cs, hread, hc⟩
      · next hmissing =>
        cases hcontent : file.content with
        | missing => rw [hcontent] at hread; cases hread
        | directory | octets => simp [hcontent, FileContent.isPresent] at hmissing

end Config

namespace CommandLine

/-- The text that the arguments give a setting. -/
def Invocation.flag? (i : Invocation) : Setting → Option String
  | .apiUrl => i.apiUrl
  | .refreshInterval => i.refresh
  | .defaultNamespace => i.namespaceArgument
  | _ => none

/-- The text that the environment gives a setting. -/
def environment? (env : Environment) : Setting → Option String
  | .apiUrl => env.lookup "KA9S_API_URL"
  | .requestTimeout => env.lookup "KA9S_REQUEST_TIMEOUT"
  | .defaultNamespace => env.lookup "KA9S_DEFAULT_NAMESPACE"
  | _ => none

namespace Machine

/-- The text of a setting as a run uses it. The one for the namespace says where to begin. -/
def used (m : Machine) (i : Invocation) : Setting → String
  | .defaultNamespace => startNamespace i (m.config i)
  | s => (m.config i).get s

/-- The text of a setting by precedence. -/
def layered (m : Machine) (i : Invocation) (s : Setting) : String :=
  (i.flag? s <|> environment? m.env s <|> Config.written? m.configFile s).getD s.builtIn

/-- Arguments come before a configuration. -/
theorem used_eq (m : Machine) (i : Invocation) {s : Setting} (hs : s ∈ Setting.texts) :
    m.used i s =
      (i.flag? s).getD (((Config.load m.configFile m.env).toOption.getD {}).get s) := by
  simp only [Setting.texts, List.mem_cons, List.not_mem_nil, or_false] at hs
  rcases hs with rfl | rfl | rfl | rfl <;> rfl

/-- The environment comes before what is stored. -/
theorem get_override (c : Config) (env : Environment) {s : Setting} (hs : s ∈ Setting.texts) :
    (c.override (.of env)).get s = (environment? env s).getD (c.get s) := by
  simp only [Setting.texts, List.mem_cons, List.not_mem_nil, or_false] at hs
  rcases hs with rfl | rfl | rfl | rfl <;> rfl

theorem used_of_loads {m : Machine} (h : Config.Loads m.configFile) (i : Invocation) {s : Setting}
    (hs : s ∈ Setting.texts) : m.used i s = m.layered i s := by
  obtain ⟨c, hc⟩ := h
  have hload : Config.load m.configFile m.env = .ok (c.override (.of m.env)) := by
    rw [Config.load, hc]
    rfl
  rw [used_eq m i hs, hload, Except.toOption, Option.getD_some, get_override c m.env hs,
    Config.get_stored hc hs, layered]
  cases i.flag? s with
  | some text => rfl
  | none => cases environment? m.env s <;> rfl

theorem used_of_not_loads {m : Machine} (h : ¬ Config.Loads m.configFile) (i : Invocation)
    {s : Setting} (hs : s ∈ Setting.texts) : m.used i s = (i.flag? s).getD s.builtIn := by
  rw [used_eq m i hs]
  cases hload : Config.load m.configFile m.env with
  | error e => rfl
  | ok c =>
      cases hstored : Config.stored m.configFile with
      | error e => rw [Config.load, hstored] at hload; cases hload
      | ok c => exact absurd ⟨c, hstored⟩ h

/-- Without a file that can be loaded, the value of the environment counts only by chance. -/
theorem used_eq_layered_iff {m : Machine} (h : ¬ Config.Loads m.configFile) (i : Invocation)
    {s : Setting} (hs : s ∈ Setting.texts) :
    m.used i s = m.layered i s ↔
      (i.flag? s = none → ∀ text, environment? m.env s = some text → text = s.builtIn) := by
  rw [used_of_not_loads h i hs, layered, Config.written?_of_not_loads h]
  cases i.flag? s with
  | some text => simp
  | none =>
      cases environment? m.env s with
      | none => simp
      | some text => simp [eq_comm]

/-- Every text is the one by precedence exactly if the file is absent or can be loaded, or else the
environment gives nothing, beside the arguments, that differs from the defaults. -/
theorem precedence_iff (m : Machine) (i : Invocation) :
    (∀ s ∈ Setting.texts, m.used i s = m.layered i s) ↔
      Config.Loads m.configFile ∨ ∀ s ∈ Setting.texts, i.flag? s = none →
        ∀ text, environment? m.env s = some text → text = s.builtIn := by
  by_cases h : Config.Loads m.configFile
  · exact iff_of_true (fun s hs => used_of_loads h i hs) (.inl h)
  · rw [or_iff_right h]
    exact forall₂_congr fun s hs => used_eq_layered_iff h i hs

/-- A namespace in the environment is passed over because of a file that is no document. -/
theorem used_beside_malformed :
    let m : Machine := {
      env := [("KA9S_CONFIG_DIR", "conf"), ("KA9S_DEFAULT_NAMESPACE", "billing")]
      file := fun _ => .octets (Text.Octets.ofString "[")
      now := .epoch }
    m.layered {} .defaultNamespace = "billing" ∧ m.used {} .defaultNamespace = "" := by
  decide +kernel

end Machine

end CommandLine

end WaybillBoard
