import WaybillBoard.CommandLine.Run
import WaybillBoard.Proofs.Config.RoundTrip
import WaybillBoard.Proofs.Config.Setting

/-!
What setting a value leaves in the configuration file: the one change and all that was there before,
or the file as it was.
-/

namespace WaybillBoard

namespace Config

/-- What was saved is loaded again, whether there was a file before or not. -/
theorem stored_save (c : Config) (file : ConfigFile) : stored (c.save file) = .ok c := by
  have hpresent : (c.save file).content.isPresent = true := rfl
  rw [stored, if_pos hpresent]
  exact c.ofFile_save file

/-- The configuration differs from the one before in one setting, which has this value. -/
def Changes (before : Config) (s : Setting) (v : SettingValue) (c : Config) : Prop :=
  ∀ t, c.value t = if t = s then v else before.value t

theorem Changes.unique {before c d : Config} {s : Setting} {v : SettingValue}
    (hc : before.Changes s v c) (hd : before.Changes s v d) : c = d :=
  eq_of_value_eq fun t => (hc t).trans (hd t).symm

end Config

namespace CommandLine.Machine

/-- The configuration file once the program has ended. -/
def fileAfter (m : Machine) (i : Invocation) : ConfigFile := (m.run i).saved.getD m.configFile

def setting (i : Invocation) (name text : String) : Invocation :=
  { i with command := .config (.set name text) }

/-- There is a configuration to change, and the change can be made. -/
def CanSet (m : Machine) (name text : String) (before c : Config) : Prop :=
  Config.stored m.configFile = .ok before ∧ before.setNamed name text = .ok c

theorem run_setting_of_canSet {m : Machine} {name text : String} {before c : Config}
    (h : m.CanSet name text before c) (i : Invocation) :
    m.run (setting i name text) =
      { out := "Configuration saved\n", saved := some (c.save m.configFile) } := by
  simp [run, setting, runConfig, h.1, h.2]

theorem run_setting_of_not_canSet {m : Machine} {name text : String}
    (h : ¬∃ before c, m.CanSet name text before c) (i : Invocation) :
    (m.run (setting i name text)).code = 1 ∧ (m.run (setting i name text)).saved = none := by
  change (m.runConfig (.set name text)).code = 1 ∧ (m.runConfig (.set name text)).saved = none
  rw [runConfig]
  split
  · exact ⟨rfl, rfl⟩
  · next before hbefore =>
      split
      · exact ⟨rfl, rfl⟩
      · next c hc => exact absurd ⟨before, c, hbefore, hc⟩ h

/-- What is done depends on the configuration file alone. -/
theorem run_setting_congr {m m' : Machine} (h : m'.configFile = m.configFile) (i : Invocation)
    (name text : String) : m'.run (setting i name text) = m.run (setting i name text) := by
  change m'.runConfig (.set name text) = m.runConfig (.set name text)
  rw [runConfig, runConfig, h]

/-- Setting a value either fails and leaves the configuration file as it was, or it puts there what
the file gave before, with the one change; in both cases whatever the environment holds. -/
theorem setting_changes_one (m : Machine) (i : Invocation) (name text : String) :
    ((m.run (setting i name text)).code ≠ 0 ∧ (¬∃ before c, m.CanSet name text before c) ∧
        m.fileAfter (setting i name text) = m.configFile ∨
      (m.run (setting i name text)).code = 0 ∧
        (m.fileAfter (setting i name text)).path = m.configFile.path ∧
        ∃ before s v, Config.stored m.configFile = .ok before ∧ Setting.named? name = some s ∧
          s.value? text = some v ∧
          ∀ c, Config.stored (m.fileAfter (setting i name text)) = .ok c ↔ before.Changes s v c) ∧
    ∀ m' : Machine, m'.configFile = m.configFile →
      m'.fileAfter (setting i name text) = m.fileAfter (setting i name text) := by
  refine ⟨?_, fun m' h => by rw [fileAfter, fileAfter, run_setting_congr h, h]⟩
  -- The run is determined by whether there is a configuration to change and a change to make.
  by_cases hset : ∃ before c, m.CanSet name text before c
  · obtain ⟨before, c, hcan⟩ := hset
    obtain ⟨s, hs, hc⟩ := Config.setNamed_eq_ok_iff.mp hcan.2
    obtain ⟨v, hv, hchanges⟩ := Config.value_of_set hc
    have hrun := run_setting_of_canSet hcan i
    have hafter : m.fileAfter (setting i name text) = c.save m.configFile := by
      rw [fileAfter, hrun, Option.getD_some]
    refine .inr ⟨by rw [hrun], by rw [hafter]; rfl, before, s, v, hcan.1, hs, hv, fun d => ?_⟩
    rw [hafter, Config.stored_save, Except.ok.injEq]
    exact ⟨fun h => h ▸ hchanges, fun h => Config.Changes.unique hchanges h⟩
  · obtain ⟨hcode, hsaved⟩ := run_setting_of_not_canSet hset i
    refine .inl ⟨by rw [hcode]; exact Nat.one_ne_zero, hset, ?_⟩
    rw [fileAfter, hsaved, Option.getD_none]

/-- A word that stands for nothing is quoted, and an address in the environment stays out. -/
example :
    let m : Machine := {
      env := [("KA9S_CONFIG_DIR", "conf"), ("KA9S_API_URL", "http://elsewhere")]
      file := fun _ => .missing
      now := .epoch }
    (m.fileAfter (setting {} "defaultNamespace" "null")).content =
      .octets (Text.Octets.ofString ("apiUrl: http://localhost:8080\nrequestTimeout: 10s\n"
        ++ "refreshInterval: 0s\ndefaultNamespace: \x27null\x27\nsearch:\n  threshold: 0.3\n"
        ++ "ui:\n  enableMouse: false\n  noIcons: false\n")) := by
  decide +kernel

end CommandLine.Machine

end WaybillBoard
