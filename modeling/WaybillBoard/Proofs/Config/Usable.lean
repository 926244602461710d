import WaybillBoard.CommandLine.Run
import WaybillBoard.Proofs.Config.Setting

/-!
Which configurations can be worked with. A check asks of the URL only that it can be read, while
the server behind it needs one to which paths can be added; nothing else comes between the two.
-/

namespace WaybillBoard

theorem Server.ofText_eq_ok_iff {text : String} {timeout : Time.Period} {server : Server} :
    Server.ofText text timeout = .ok server ↔
      ∃ url, Url.read text.toList = .ok url ∧ url.isBase = true ∧ timeout.isZero = false ∧
        server = ⟨url, timeout⟩ := by
  unfold Server.ofText
  cases Url.read text.toList with
  | error cause => simp
  | ok url =>
      cases hbase : url.isBase with
      | false => simp [hbase]
      | true =>
          cases hzero : timeout.isZero with
          | true => simp [hbase]
          | false => simpa [hbase] using eq_comm

namespace Config

open CommandLine (Machine)

/-- Paths can be added to the URL. -/
def HasBase (c : Config) : Prop :=
  ∃ url, Url.read c.apiUrl.toList = .ok url ∧ url.isBase = true

/-- There is a server to ask, and it is known how often to ask it. -/
def Usable (c : Config) : Prop :=
  (∃ server, Machine.source {} c = .ok (.server server)) ∧ ∃ interval, c.interval = .ok interval

theorem source_eq_ok_iff {c : Config} {server : Server} :
    Machine.source {} c = .ok (.server server) ↔
      ∃ period, readTimeout c.requestTimeout = .ok period ∧
        Server.ofText c.apiUrl period = .ok server := by
  simp only [Machine.source, bind_eq_ok_iff, mapError_eq_ok_iff, timeout_eq_ok_iff, pure,
    Except.pure, Except.ok.injEq, Source.server.injEq, exists_eq_right]

theorem usable_iff {c : Config} : c.Usable ↔ c.HasBase ∧ c.Readable := by
  simp only [Usable, source_eq_ok_iff, Server.ofText_eq_ok_iff, interval_eq_ok_iff]
  constructor
  · rintro ⟨⟨_, period, hperiod, url, hurl, hbase, -, -⟩, _, every, hevery, -⟩
    exact ⟨⟨url, hurl, hbase⟩, ⟨url, hurl⟩, ⟨period, hperiod⟩, ⟨every, hevery⟩⟩
  · rintro ⟨⟨url, hurl, hbase⟩, -, ⟨period, hperiod⟩, ⟨every, hevery⟩⟩
    exact ⟨⟨_, period, hperiod, url, hurl, hbase, ne_zero_of_readTimeout hperiod, rfl⟩,
      _, every, hevery, rfl⟩

theorem usable_of_check {c : Config} (h : c.check = .ok ()) : c.Usable ↔ c.HasBase := by
  rw [usable_iff, and_iff_left (check_eq_ok_iff.mp h).1]

/-- What a validation accepts is loaded and passes its check. -/
theorem check_of_validate {file : ConfigFile} {env : Environment}
    (h : validate file env = .ok ()) : ∃ c, load file env = .ok c ∧ c.check = .ok () := by
  simp only [validate, bind_eq_ok_iff, mapError_eq_ok_iff] at h
  obtain ⟨c, hc, hmerged⟩ := h
  refine ⟨_, by rw [load, hc]; rfl, ?_⟩
  split at hmerged
  · obtain ⟨_, -, hcheck⟩ := bind_eq_ok_iff.mp hmerged
    exact mapError_eq_ok_iff.mp hcheck
  · exact mapError_eq_ok_iff.mp hmerged

/-- A configuration that was checked, loaded after a validation, or given another URL since, can be
worked with exactly if paths can be added to its URL. -/
theorem usable_iff_hasBase (c : Config) (file : ConfigFile) (env : Environment) (text : String) :
    (c.check = .ok () → (c.Usable ↔ c.HasBase)) ∧
    (validate file env = .ok () → ∃ d, load file env = .ok d ∧ (d.Usable ↔ d.HasBase)) ∧
    (c.check = .ok () → ∀ d, c.set .apiUrl text = .ok d → (d.Usable ↔ d.HasBase)) := by
  refine ⟨usable_of_check, fun hvalid => ?_, fun hcheck d hset => ?_⟩
  · obtain ⟨d, hload, hcheck⟩ := check_of_validate hvalid
    exact ⟨d, hload, usable_of_check hcheck⟩
  · exact usable_of_check (check_of_set hcheck hset)

/-- A mail address is a URL, so the check accepts it, but no path can be added to it. -/
theorem checked_mail_unusable :
    let c : Config := { apiUrl := "mailto:ops@example.com" }
    c.check = .ok () ∧ ¬ c.Usable := by
  intro c
  have hread : (Url.read c.apiUrl.toList).toOption.map Url.isBase = some false := by
    decide +kernel
  have hcheck : c.check.toOption = some () := by decide +kernel
  refine ⟨?_, fun h => ?_⟩
  · cases h : c.check with
    | error e => simp [h, Except.toOption] at hcheck
    | ok => rfl
  · obtain ⟨url, hurl, hbase⟩ := (usable_iff.mp h).1
    simp [hurl, Except.toOption, hbase] at hread

end Config

end WaybillBoard
