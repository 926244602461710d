import WaybillBoard.Config.Check

/-!
What a check accepts: texts that can be read, and a threshold within its bounds.
-/

namespace WaybillBoard

section Except

variable {ε ε' α β : Type}

theorem bind_eq_ok_iff {x : Except ε α} {f : α → Except ε β} {b : β} :
    x >>= f = .ok b ↔ ∃ a, x = .ok a ∧ f a = .ok b := by
  cases x <;> simp [bind, Except.bind]

theorem mapError_eq_ok_iff {f : ε → ε'} {x : Except ε α} {a : α} :
    x.mapError f = .ok a ↔ x = .ok a := by
  cases x with
  | error e => exact iff_of_false nofun nofun
  | ok b =>
      have hok : (Except.ok b : Except ε α).mapError f = .ok b := rfl
      rw [hok, Except.ok.injEq, Except.ok.injEq]

theorem ite_throw_eq_ok_iff {p : Prop} [Decidable p] {a b : α} {e : ε} :
    (if p then pure a else throw e : Except ε α) = .ok b ↔ p ∧ a = b := by
  by_cases h : p <;> simp [h, pure, Except.pure, throw, throwThe, MonadExceptOf.throw]

theorem toOption_eq_some_iff {x : Except ε α} {a : α} : x.toOption = some a ↔ x = .ok a := by
  cases x <;> simp [Except.toOption]

end Except

namespace Config

/-- The texts of a configuration stand for what they should. -/
structure Readable (c : Config) : Prop where
  apiUrl : ∃ url, Url.read c.apiUrl.toList = .ok url
  timeout : ∃ period, readTimeout c.requestTimeout = .ok period
  interval : ∃ period, Time.Period.read c.refreshInterval = .ok period

theorem timeout_eq_ok_iff {c : Config} {period : Time.Period} :
    c.timeout = .ok period ↔ readTimeout c.requestTimeout = .ok period := mapError_eq_ok_iff

theorem interval_eq_ok_iff {c : Config} {interval : Option Time.Period} :
    c.interval = .ok interval ↔ ∃ period, Time.Period.read c.refreshInterval = .ok period ∧
      (if period.isZero then none else some period) = interval := by
  simp only [Config.interval, bind_eq_ok_iff, mapError_eq_ok_iff, pure, Except.pure,
    Except.ok.injEq]

theorem check_eq_ok_iff {c : Config} :
    c.check = .ok () ↔ c.Readable ∧ isThreshold c.threshold = true := by
  simp only [check, bind_eq_ok_iff, mapError_eq_ok_iff, ite_throw_eq_ok_iff, and_true,
    timeout_eq_ok_iff, interval_eq_ok_iff]
  constructor
  · rintro ⟨url, hurl, period, hperiod, _, ⟨every, hevery, -⟩, hthreshold⟩
    exact ⟨⟨⟨url, hurl⟩, ⟨period, hperiod⟩, ⟨every, hevery⟩⟩, hthreshold⟩
  · rintro ⟨⟨⟨url, hurl⟩, ⟨period, hperiod⟩, ⟨every, hevery⟩⟩, hthreshold⟩
    exact ⟨url, hurl, period, hperiod, _, ⟨every, hevery, rfl⟩, hthreshold⟩

theorem ne_zero_of_readTimeout {text : String} {period : Time.Period}
    (h : readTimeout text = .ok period) : period.isZero = false := by
  unfold readTimeout at h
  split at h
  · cases h
  · next read hread =>
    split at h
    · cases h
    · next hzero =>
      obtain rfl := Except.ok.inj h
      exact Bool.eq_false_iff.mpr hzero

end Config

end WaybillBoard
