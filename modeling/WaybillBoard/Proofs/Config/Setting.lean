import WaybillBoard.Proofs.Config.Check

/-!
The values of settings. A configuration is made of them, and setting one leaves the others and what
the check accepts of them.
-/

namespace WaybillBoard

inductive SettingValue
  | text (text : String)
  | number (x : Binary64)
  | flag (b : Bool)

/-- The value that a text gives a setting, whether it can be used or not. -/
def Setting.value? (s : Setting) (text : String) : Option SettingValue :=
  match s with
  | .apiUrl | .requestTimeout | .refreshInterval | .defaultNamespace => some (.text text)
  | .threshold => (Binary64.ofLiteral text.toList).toOption.map .number
  | .enableMouse | .noIcons => (readBool? text).map .flag

namespace Config

def value (c : Config) : Setting → SettingValue
  | .apiUrl => .text c.apiUrl
  | .requestTimeout => .text c.requestTimeout
  | .refreshInterval => .text c.refreshInterval
  | .defaultNamespace => .text c.defaultNamespace
  | .threshold => .number c.threshold
  | .enableMouse => .flag c.enableMouse
  | .noIcons => .flag c.noIcons

/-- Nothing belongs to a configuration but the values of its settings. -/
theorem eq_of_value_eq {c d : Config} (h : ∀ s, c.value s = d.value s) : c = d := by
  obtain ⟨url, timeout, interval, ns, threshold, mouse, icons⟩ := c
  have hurl := h .apiUrl
  have htimeout := h .requestTimeout
  have hinterval := h .refreshInterval
  have hns := h .defaultNamespace
  have hthreshold := h .threshold
  have hmouse := h .enableMouse
  have hicons := h .noIcons
  simp only [value, SettingValue.text.injEq, SettingValue.number.injEq, SettingValue.flag.injEq]
    at *
  subst hurl htimeout hinterval hns hthreshold hmouse hicons
  rfl

theorem setFlag_eq_ok {s : Setting} {text : String} {put : Bool → Config} {d : Config}
    (h : setFlag s text put = .ok d) : ∃ b, readBool? text = some b ∧ d = put b := by
  unfold setFlag at h
  split at h
  · next b hb => exact ⟨b, hb, (Except.ok.inj h).symm⟩
  · cases h

/-- A setting has what its text says, and every other one has what it had. -/
theorem value_of_set {c d : Config} {s : Setting} {text : String} (h : c.set s text = .ok d) :
    ∃ v, s.value? text = some v ∧ ∀ t, d.value t = if t = s then v else c.value t := by
  cases s with
  | apiUrl | requestTimeout | refreshInterval =>
      simp only [set, bind_eq_ok_iff] at h
      obtain ⟨_, -, hd⟩ := h
      obtain rfl := Except.ok.inj hd
      exact ⟨_, rfl, fun t => by cases t <;> rfl⟩
  | defaultNamespace =>
      obtain rfl := Except.ok.inj h
      exact ⟨_, rfl, fun t => by cases t <;> rfl⟩
  | threshold =>
      simp only [set, bind_eq_ok_iff, mapError_eq_ok_iff] at h
      obtain ⟨x, hx, hd⟩ := h
      split at hd
      · obtain rfl := Except.ok.inj hd
        exact ⟨.number x, by simp [Setting.value?, hx, Except.toOption],
          fun t => by cases t <;> rfl⟩
      · cases hd
  | enableMouse | noIcons =>
      obtain ⟨b, hb, rfl⟩ := setFlag_eq_ok h
      exact ⟨.flag b, by simp [Setting.value?, hb], fun t => by cases t <;> rfl⟩

/-- What is set passes the check as well. -/
theorem check_of_set {c d : Config} {s : Setting} {text : String} (h : c.check = .ok ())
    (hset : c.set s text = .ok d) : d.check = .ok () := by
  obtain ⟨hreadable, hthreshold⟩ := check_eq_ok_iff.mp h
  rw [check_eq_ok_iff]
  cases s with
  | apiUrl =>
      simp only [set, bind_eq_ok_iff, mapError_eq_ok_iff] at hset
      obtain ⟨url, hurl, hd⟩ := hset
      obtain rfl := Except.ok.inj hd
      exact ⟨⟨⟨url, hurl⟩, hreadable.timeout, hreadable.interval⟩, hthreshold⟩
  | requestTimeout =>
      simp only [set, bind_eq_ok_iff, mapError_eq_ok_iff] at hset
      obtain ⟨period, hperiod, hd⟩ := hset
      obtain rfl := Except.ok.inj hd
      exact ⟨⟨hreadable.apiUrl, ⟨period, hperiod⟩, hreadable.interval⟩, hthreshold⟩
  | refreshInterval =>
      simp only [set, bind_eq_ok_iff, mapError_eq_ok_iff] at hset
      obtain ⟨every, hevery, hd⟩ := hset
      obtain rfl := Except.ok.inj hd
      exact ⟨⟨hreadable.apiUrl, hreadable.timeout, ⟨every, hevery⟩⟩, hthreshold⟩
  | defaultNamespace =>
      obtain rfl := Except.ok.inj hset
      exact ⟨⟨hreadable.apiUrl, hreadable.timeout, hreadable.interval⟩, hthreshold⟩
  | threshold =>
      simp only [set, bind_eq_ok_iff, mapError_eq_ok_iff, ite_throw_eq_ok_iff] at hset
      obtain ⟨x, -, hx, rfl⟩ := hset
      exact ⟨⟨hreadable.apiUrl, hreadable.timeout, hreadable.interval⟩, hx⟩
  | enableMouse | noIcons =>
      obtain ⟨b, -, rfl⟩ := setFlag_eq_ok hset
      exact ⟨⟨hreadable.apiUrl, hreadable.timeout, hreadable.interval⟩, hthreshold⟩

theorem setNamed_eq_ok_iff {c d : Config} {name text : String} :
    c.setNamed name text = .ok d ↔
      ∃ s, Setting.named? name = some s ∧ c.set s text = .ok d := by
  unfold setNamed
  cases Setting.named? name <;> simp

end Config

end WaybillBoard
