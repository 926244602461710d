import WaybillBoard.Proofs.Binary64.Literal
import WaybillBoard.Proofs.Config.Setting

/-!
Setting and checking accept the same values. A value can be set exactly if the configuration that
has it would pass the check, and every configuration that passes it can be written down, setting
by setting, in texts that set it again. A failure leaves nothing half done.
-/

namespace WaybillBoard

theorem Setting.named?_eq_some_iff {name : String} {s : Setting} :
    named? name = some s ↔ s.name = name := by
  constructor
  · intro h
    unfold named? at h
    simpa using List.find?_some h
  · rintro rfl
    exact named?_name s

/-- The text of a value, as a configuration shows it. -/
def SettingValue.shown : SettingValue → String
  | .text shown => shown
  | .number x => String.ofList x.text
  | .flag b => boolText b

namespace Config

/-- The configuration with one value replaced. No setting takes a value of another kind. -/
def put (c : Config) : Setting → SettingValue → Config
  | .apiUrl, .text text => { c with apiUrl := text }
  | .requestTimeout, .text text => { c with requestTimeout := text }
  | .refreshInterval, .text text => { c with refreshInterval := text }
  | .defaultNamespace, .text text => { c with defaultNamespace := text }
  | .threshold, .number x => { c with threshold := x }
  | .enableMouse, .flag b => { c with enableMouse := b }
  | .noIcons, .flag b => { c with noIcons := b }
  | _, _ => c

theorem get_eq_shown (c : Config) (s : Setting) : c.get s = (c.value s).shown := by
  cases s <;> rfl

theorem put_value (c : Config) (s : Setting) : c.put s (c.value s) = c := by
  cases s <;> rfl

/-- The value that a text gives a setting is of its kind. -/
theorem value_put (c : Config) {s : Setting} {text : String} {v : SettingValue}
    (h : s.value? text = some v) (t : Setting) :
    (c.put s v).value t = if t = s then v else c.value t := by
  cases s with
  | apiUrl | requestTimeout | refreshInterval | defaultNamespace =>
      obtain rfl := Option.some.inj h
      cases t <;> rfl
  | threshold | enableMouse | noIcons =>
      obtain ⟨_, -, rfl⟩ := Option.map_eq_some_iff.mp h
      cases t <;> rfl

theorem get_put (c : Config) {s : Setting} {text : String} {v : SettingValue}
    (h : s.value? text = some v) (t : Setting) :
    (c.put s v).get t = if t = s then v.shown else c.get t := by
  rw [get_eq_shown, value_put c h t, get_eq_shown]
  split <;> rfl

/-! ### The values that can be set -/

/-- A value can be set if the configuration that has it passes the check. -/
theorem set_of_check {c : Config} {s : Setting} {text : String} {v : SettingValue}
    (hv : s.value? text = some v) (h : (c.put s v).check = .ok ()) :
    c.set s text = .ok (c.put s v) := by
  obtain ⟨⟨⟨url, hurl⟩, ⟨period, hperiod⟩, ⟨every, hevery⟩⟩, hthreshold⟩ := check_eq_ok_iff.mp h
  cases s with
  | apiUrl =>
      obtain rfl := Option.some.inj hv
      exact bind_eq_ok_iff.mpr ⟨url, mapError_eq_ok_iff.mpr hurl, rfl⟩
  | requestTimeout =>
      obtain rfl := Option.some.inj hv
      exact bind_eq_ok_iff.mpr ⟨period, mapError_eq_ok_iff.mpr hperiod, rfl⟩
  | refreshInterval =>
      obtain rfl := Option.some.inj hv
      exact bind_eq_ok_iff.mpr ⟨every, mapError_eq_ok_iff.mpr hevery, rfl⟩
  | defaultNamespace =>
      obtain rfl := Option.some.inj hv
      rfl
  | threshold =>
      obtain ⟨x, hx, rfl⟩ := Option.map_eq_some_iff.mp hv
      exact bind_eq_ok_iff.mpr ⟨x, mapError_eq_ok_iff.mpr (toOption_eq_some_iff.mp hx),
        ite_throw_eq_ok_iff.mpr ⟨hthreshold, rfl⟩⟩
  | enableMouse | noIcons =>
      obtain ⟨b, hb, rfl⟩ := Option.map_eq_some_iff.mp hv
      rw [set, setFlag, hb]
      rfl

theorem set_eq_ok_iff {c d : Config} (h : c.check = .ok ()) {s : Setting} {text : String} :
    c.set s text = .ok d ↔
      ∃ v, s.value? text = some v ∧ d = c.put s v ∧ d.check = .ok () := by
  constructor
  · intro hset
    obtain ⟨v, hv, hvalue⟩ := value_of_set hset
    refine ⟨v, hv, eq_of_value_eq fun t => ?_, check_of_set h hset⟩
    rw [hvalue, value_put c hv]
  · rintro ⟨v, hv, rfl, hcheck⟩
    exact set_of_check hv hcheck

/-! ### The texts of values -/

theorem isFinite_of_isThreshold {x : Binary64} (h : isThreshold x = true) :
    ∃ negative units hunits, x = .finite negative units hunits := by
  cases x with
  | nan | infinity => cases h
  | finite negative units hunits => exact ⟨negative, units, hunits, rfl⟩

/-- A setting has the value that its own text gives it. -/
theorem value?_get {c : Config} (h : isThreshold c.threshold = true) (s : Setting) :
    s.value? (c.get s) = some (c.value s) := by
  cases s with
  | apiUrl | requestTimeout | refreshInterval | defaultNamespace => rfl
  | threshold =>
      obtain ⟨negative, units, hunits, hx⟩ := isFinite_of_isThreshold h
      have hread := Binary64.ofLiteral_textWith .plain "NaN".toList "inf".toList negative hunits
      rw [← hx] at hread
      rw [Setting.value?, get, String.toList_ofList, Binary64.text, hread]
      rfl
  | enableMouse =>
      rw [Setting.value?, get, value]
      cases c.enableMouse <;> rfl
  | noIcons =>
      rw [Setting.value?, get, value]
      cases c.noIcons <;> rfl

/-! ### Setting in place -/

/-- Steps on a configuration that can fail. What was written before a failure stays. -/
abbrev Steps := ExceptT SetError (StateM Config)

/-- Sets a value in place, step by step. -/
def assign (s : Setting) (text : String) : Steps Unit :=
  match s with
  | .apiUrl => do
    let _ ← MonadExcept.ofExcept ((Url.read text.toList).mapError .apiUrl)
    modify ({ · with apiUrl := text })
  | .requestTimeout => do
    let _ ← MonadExcept.ofExcept ((readTimeout text).mapError .requestTimeout)
    modify ({ · with requestTimeout := text })
  | .refreshInterval => do
    let _ ← MonadExcept.ofExcept ((Time.Period.read text).mapError .refreshInterval)
    modify ({ · with refreshInterval := text })
  | .defaultNamespace => modify ({ · with defaultNamespace := text })
  | .threshold => do
    let value ← MonadExcept.ofExcept ((Binary64.ofLiteral text.toList).mapError .noNumber)
    if isThreshold value then modify ({ · with threshold := value })
    else throw (.threshold value)
  | .enableMouse =>
    match readBool? text with
    | some value => modify ({ · with enableMouse := value })
    | none => throw (.noBool .enableMouse)
  | .noIcons =>
    match readBool? text with
    | some value => modify ({ · with noIcons := value })
    | none => throw (.noBool .noIcons)

def assignNamed (name text : String) : Steps Unit :=
  match Setting.named? name with
  | some s => assign s text
  | none => throw (.unknownName name)

/-- A configuration after an attempt to set a value in place, and how the attempt went. -/
def attempt (c : Config) (name text : String) : Except SetError Unit × Config :=
  (assignNamed name text).run.run c

theorem assign_eq (c : Config) (s : Setting) (text : String) :
    (assign s text).run.run c =
      match c.set s text with
      | .ok d => (.ok (), d)
      | .error e => (.error e, c) := by
  cases s with
  | apiUrl =>
      rw [assign, set]
      cases Url.read text.toList <;> rfl
  | requestTimeout =>
      rw [assign, set]
      cases readTimeout text <;> rfl
  | refreshInterval =>
      rw [assign, set]
      cases Time.Period.read text <;> rfl
  | defaultNamespace => rfl
  | threshold =>
      cases hx : Binary64.ofLiteral text.toList with
      | error cause =>
          rw [assign, set, hx]
          rfl
      | ok x =>
          have hset : c.set .threshold text =
              if isThreshold x then .ok { c with threshold := x } else .error (.threshold x) := by
            rw [set, hx]
            rfl
          have hassign : assign .threshold text =
              if isThreshold x then modify ({ · with threshold := x }) else throw (.threshold x) := by
            rw [assign, hx]
            rfl
          rw [hset, hassign]
          cases isThreshold x <;> rfl
  | enableMouse | noIcons =>
      rw [assign, set, setFlag]
      cases readBool? text <;> rfl

/-- An attempt that fails leaves the configuration as it was. -/
theorem attempt_eq (c : Config) (name text : String) :
    c.attempt name text =
      match c.setNamed name text with
      | .ok d => (.ok (), d)
      | .error e => (.error e, c) := by
  unfold attempt assignNamed setNamed
  cases Setting.named? name with
  | none => rfl
  | some s => exact assign_eq c s text

/-- A value can be set exactly if its text can be read and the configuration that has it passes the
check. Then it is shown, and every other value is as before; otherwise nothing has changed. What is
shown can always be set again. -/
theorem set_agrees_with_check {c : Config} (h : c.check = .ok ()) (name text : String) :
    (∀ d, c.setNamed name text = .ok d ↔
      ∃ s v, s.name = name ∧ s.value? text = some v ∧ d = c.put s v ∧ d.check = .ok ()) ∧
    (∀ d, c.setNamed name text = .ok d →
      ∃ s v, s.name = name ∧ s.value? text = some v ∧
        ∀ t, d.get t = if t = s then v.shown else c.get t) ∧
    (c.attempt name text =
      match c.setNamed name text with
      | .ok d => (.ok (), d)
      | .error e => (.error e, c)) ∧
    ∀ s, c.setNamed s.name (c.get s) = .ok c := by
  have hset (name text : String) (d : Config) : c.setNamed name text = .ok d ↔
      ∃ s v, s.name = name ∧ s.value? text = some v ∧ d = c.put s v ∧ d.check = .ok () := by
    simp only [setNamed_eq_ok_iff, Setting.named?_eq_some_iff, set_eq_ok_iff h, exists_and_left]
  refine ⟨hset name text, ?_, attempt_eq c name text, ?_⟩
  · intro d hd
    obtain ⟨s, v, hname, hv, rfl, -⟩ := (hset name text d).mp hd
    exact ⟨s, v, hname, hv, get_put c hv⟩
  · intro s
    have hvalue := value?_get (check_eq_ok_iff.mp h).2 s
    exact (hset s.name (c.get s) c).mpr ⟨s, c.value s, rfl, hvalue, (put_value c s).symm, h⟩

/-- A threshold is shown in another way than it was given, and a timeout of zero changes nothing. -/
theorem set_agrees_with_check_half :
    let c : Config := {}
    c.check = .ok () ∧
      (∃ d, c.setNamed "search.threshold" "5e-1" = .ok d ∧ d.get .threshold = "0.5" ∧
        d.get .requestTimeout = "10s") ∧
      (c.attempt "requestTimeout" "0s").2 = c := by
  intro c
  have hcheck : c.check = .ok () := toOption_eq_some_iff.mp (by decide +kernel)
  let v : SettingValue := .number (.ofDecimal false 5 (-1))
  have hv : Setting.threshold.value? "5e-1" = some v := rfl
  have hafter : (c.put .threshold v).check = .ok () := toOption_eq_some_iff.mp (by decide +kernel)
  obtain ⟨hset, -⟩ := set_agrees_with_check hcheck "search.threshold" "5e-1"
  obtain ⟨-, -, hattempt, -⟩ := set_agrees_with_check hcheck "requestTimeout" "0s"
  have hd := (hset _).mpr ⟨.threshold, v, rfl, hv, rfl, hafter⟩
  refine ⟨hcheck, ⟨_, hd, by decide +kernel, rfl⟩, ?_⟩
  rw [hattempt]
  rfl

end Config

end WaybillBoard
