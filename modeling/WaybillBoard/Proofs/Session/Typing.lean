import Mathlib.Logic.Function.Iterate
import WaybillBoard.CommandLine.Run
import WaybillBoard.Proofs.Session.Serving

/-!
Typing a search. What is typed into the prompt and cycled through narrows the rows key by key, and
in the end they are those of a report that was asked for the same at once.
-/

namespace WaybillBoard

open CommandLine (Machine)

/-- A key that edits the line of the search prompt. -/
inductive Stroke
  | char (c : Char)
  | backspace

namespace Stroke

def key : Stroke → Key
  | char c => .char c
  | backspace => .backspace

/-- The line after a stroke. -/
def edit (line : List Char) : Stroke → List Char
  | char c => line ++ [c]
  | backspace => line.dropLast

end Stroke

/-- A search as it is typed: every key with the time of its press. -/
structure TypedSearch where
  opened : Nat
  strokes : List (Stroke × Nat)
  closed : Nat
  cycles : List Nat

namespace TypedSearch

def keys (t : TypedSearch) : List (KeyPress × Nat) :=
  (⟨.char '/', false⟩, t.opened) ::
    (t.strokes.map (fun k => (⟨k.1.key, false⟩, k.2)) ++
      (⟨.enter, false⟩, t.closed) :: t.cycles.map fun now => (⟨.char 'o', false⟩, now))

/-- What the strokes leave on an empty line. -/
def line (t : TypedSearch) : List Char := t.strokes.foldl (fun line k => k.1.edit line) []

/-- Where the cycle of filters stops that begins with all. -/
def filter (t : TypedSearch) : OutcomeFilter := OutcomeFilter.next^[t.cycles.length] .all

end TypedSearch

/-- The query that a report searches for. -/
def ReportRequest.text (r : ReportRequest) : String := r.query.getD ""

def ReportRequest.filter (r : ReportRequest) : OutcomeFilter :=
  match r.outcome with
  | none => .all
  | some outcome => .only outcome

namespace Dashboard

/-- With a query and a filter. -/
def narrowed (d : Dashboard) (query : String) (filter : OutcomeFilter) : Dashboard :=
  updateVisible { d with query, filter }

end Dashboard

namespace Session

/-- Keys pressed one after the other, none of which quits or changes route, generation or phase. -/
inductive Calmly : Session → List (KeyPress × Nat) → Session → Prop
  | nil (s : Session) : Calmly s [] s
  | cons {s s' last : Session} {p : KeyPress} {now : Nat} {keys : List (KeyPress × Nat)}
      (press : s.press p now = (s', false)) (route : s'.dashboard.route = s.dashboard.route)
      (generation : s'.dashboard.generation = s.dashboard.generation)
      (phase : s'.dashboard.phase = s.dashboard.phase) (rest : Calmly s' keys last) :
      Calmly s ((p, now) :: keys) last

theorem Calmly.append {s s' s'' : Session} {keys later : List (KeyPress × Nat)}
    (h : Calmly s keys s') (hlater : Calmly s' later s'') : Calmly s (keys ++ later) s'' := by
  induction h with
  | nil => exact hlater
  | cons press route generation phase rest ih =>
      exact .cons press route generation phase (ih hlater)

/-- A session without the help, whose dashboard is another one with a query and a filter. -/
structure Narrows (d : Dashboard) (searching : Bool) (query : String) (filter : OutcomeFilter)
    (s : Session) : Prop where
  help : s.showsHelp = false
  prompt : s.searching = searching
  dashboard : s.dashboard = d.narrowed query filter

namespace Narrows

variable {d : Dashboard} {s : Session} {query : String} {filter : OutcomeFilter}

/-- A key that only narrows the dashboard otherwise is a calm one. -/
theorem calmly {searching searching' : Bool} {query' : String} {filter' : OutcomeFilter}
    {s' last : Session} {p : KeyPress} {now : Nat} {keys : List (KeyPress × Nat)}
    (h : Narrows d searching query filter s) (h' : Narrows d searching' query' filter' s')
    (press : s.press p now = (s', false)) (rest : Calmly s' keys last) :
    Calmly s ((p, now) :: keys) last := by
  apply Calmly.cons press
  · rw [h.dashboard, h'.dashboard]
    rfl
  · rw [h.dashboard, h'.dashboard]
    rfl
  · rw [h.dashboard, h'.dashboard]
    rfl
  · exact rest

theorem press_in_prompt (h : Narrows d true query filter s) (key : Key) (now : Nat) :
    s.press ⟨key, false⟩ now = (s.pressInPrompt key, false) := by
  rw [press, if_neg (by simp), if_neg (by simp [h.help]), if_pos h.prompt]

theorem press_stroke (h : Narrows d true query filter s) (k : Stroke) (now : Nat) :
    ∃ s', s.press ⟨k.key, false⟩ now = (s', false) ∧
      Narrows d true (String.ofList (k.edit query.toList)) filter s' := by
  have hquery : s.dashboard.query = query := by
    rw [h.dashboard]
    rfl
  have hsearch : s.pressInPrompt k.key = s.search (String.ofList (k.edit query.toList)) := by
    cases k with
    | char c =>
        have hpush : query.push c = String.ofList (query.toList ++ [c]) := by
          apply String.toList_inj.mp
          rw [String.toList_push, String.toList_ofList]
        rw [Stroke.key, Stroke.edit, pressInPrompt, hquery, hpush]
    | backspace => rw [Stroke.key, Stroke.edit, pressInPrompt, hquery]
  refine ⟨s.pressInPrompt k.key, h.press_in_prompt k.key now, ?_⟩
  rw [hsearch]
  refine ⟨h.help, h.prompt, ?_⟩
  simp only [search, selectFirst, h.dashboard]
  rfl

theorem press_cycle (h : Narrows d false query filter s) (now : Nat) :
    ∃ s', s.press ⟨.char 'o', false⟩ now = (s', false) ∧
      Narrows d false query filter.next s' := by
  refine ⟨({ s with message := none } : Session).cycleFilter, ?_, h.help, h.prompt, ?_⟩
  · simp [press, h.help, h.prompt, pressInList]
  · simp only [cycleFilter, selectFirst, say, h.dashboard]
    rfl

theorem strokes (h : Narrows d true query filter s) (ks : List (Stroke × Nat)) :
    ∃ s', Calmly s (ks.map fun k => (⟨k.1.key, false⟩, k.2)) s' ∧
      Narrows d true (String.ofList (ks.foldl (fun line k => k.1.edit line) query.toList)) filter
        s' := by
  induction ks generalizing s query with
  | nil =>
      refine ⟨s, .nil s, ?_⟩
      rw [List.foldl_nil, String.ofList_toList]
      exact h
  | cons k ks ih =>
      obtain ⟨s', hpress, h'⟩ := h.press_stroke k.1 k.2
      obtain ⟨last, hrest, hlast⟩ := ih h'
      rw [String.toList_ofList] at hlast
      exact ⟨last, h.calmly h' hpress hrest, hlast⟩

theorem cycles (h : Narrows d false query filter s) (times : List Nat) :
    ∃ s', Calmly s (times.map fun now => (⟨.char 'o', false⟩, now)) s' ∧
      Narrows d false query (OutcomeFilter.next^[times.length] filter) s' := by
  induction times generalizing s filter with
  | nil => exact ⟨s, .nil s, h⟩
  | cons now times ih =>
      obtain ⟨s', hpress, h'⟩ := h.press_cycle now
      obtain ⟨last, hrest, hlast⟩ := ih h'
      exact ⟨last, h.calmly h' hpress hrest, hlast⟩

end Narrows

end Session

end WaybillBoard
