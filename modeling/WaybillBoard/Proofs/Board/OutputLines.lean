import Mathlib.Data.List.Forall2
import WaybillBoard.Board.PanelLines
import WaybillBoard.Proofs.View.Output

/-!
The output in a panel. Its lines stand below a heading, one for each line of the output, and of all
lines of the panel those are colored as warnings that report one.
-/

namespace WaybillBoard

/-- Texts with a heading and below it the lines of an output, one for each in their order, each
after an indentation. -/
def ShowsOutput (heading : String) (output : String) (below texts : List (List Char)) : Prop :=
  ∃ above shown, texts = above ++ heading.toList :: (shown ++ below) ∧
    List.Forall₂ (fun text line => line <:+ text ∧ text.length = line.length + 6) shown
      (Output.lines output)

theorem forall₂_map_classified (render : LineKind × String → List Char) (output : String)
    (hrender : ∀ line, ∃ lead : List Char, lead.length = 6 ∧ render line = lead ++ line.2.toList) :
    List.Forall₂ (fun text line => line <:+ text ∧ text.length = line.length + 6)
      ((Output.classified output).map render) (Output.lines output) := by
  rw [← Output.map_snd_classified, List.forall₂_map_left_iff, List.forall₂_map_right_iff,
    List.forall₂_same]
  intro line _
  obtain ⟨lead, hlength, heq⟩ := hrender line
  rw [heq, List.length_append, hlength, Nat.add_comm]
  exact ⟨List.suffix_append lead _, rfl⟩

namespace Board

open Screen (Line Span Style)

def ColoredAsWarning (l : Line) : Prop := Theme.outputLine .warning ∈ l.spans.map Span.style

instance (l : Line) : Decidable (ColoredAsWarning l) :=
  inferInstanceAs (Decidable (_ ∈ List.map Span.style l.spans))

theorem coloredAsWarning_outputLine (line : LineKind × String) :
    ColoredAsWarning (outputLine line) ↔ line.1 = .warning := by
  obtain ⟨kind, text⟩ := line
  change _ ∈ [Style.plain, Theme.outputLine kind] ↔ kind = .warning
  cases kind <;> decide

theorem not_coloredAsWarning_summaryLine (p : Panel) (selected noIcons : Bool) :
    ¬ ColoredAsWarning (summaryLine p selected noIcons) := by
  have hstatus : Theme.outputLine .warning ≠ Theme.status p.color := by
    cases p.color <;> decide
  have hbadges : Theme.outputLine .warning ∉ (p.badges.flatMap badgeSpans).map Span.style := by
    rw [List.map_flatMap, List.mem_flatMap]
    rintro ⟨b, -, hb⟩
    revert hb
    change _ ∉ [Style.plain, Theme.badge]
    decide
  have hlast : Theme.outputLine .warning ∉
      (if lastRunText p.detail = "" then []
        else [Span.styled Theme.secondary ("  " ++ lastRunText p.detail)]).map Span.style := by
    split
    · exact List.not_mem_nil
    · change _ ∉ [Theme.secondary]
      decide
  intro h
  simp only [ColoredAsWarning, summaryLine, List.map_append, List.mem_append] at h
  rcases h with (h | h) | h
  · change _ ∈ [Style.plain, Theme.status p.color, Style.plain, Theme.status p.color] at h
    simp only [List.mem_cons, hstatus, List.not_mem_nil, or_false, false_or, or_self] at h
    exact absurd h (by decide)
  · exact hbadges h
  · exact hlast h

theorem not_coloredAsWarning_field (label value : String) :
    ¬ ColoredAsWarning (field label value) := by
  change _ ∉ [Theme.label, Style.plain]
  decide

theorem not_coloredAsWarning_timeField (label : String) (t : Option Timestamp) :
    ∀ l ∈ timeField label t, ¬ ColoredAsWarning l := by
  cases t with
  | none => exact List.forall_mem_nil _
  | some t => exact List.forall_mem_singleton.mpr (not_coloredAsWarning_field _ _)

def outputHeading : Line := .ofSpans [Span.styled Theme.label (indent ++ "Output:")]

theorem detailLines_eq (d : RunDetail) : ∃ above, (∀ l ∈ above, ¬ ColoredAsWarning l) ∧
    detailLines d = above ++ outputHeading :: (Output.classified d.output).map outputLine := by
  refine ⟨_, ?_, List.append_assoc _ [_] _⟩
  simp only [List.forall_mem_append]
  refine ⟨⟨⟨⟨⟨?head, not_coloredAsWarning_timeField _ _⟩, not_coloredAsWarning_timeField _ _⟩,
    ?duration⟩, ?command⟩, ?error⟩
  case head =>
    refine List.forall_mem_cons.mpr
      ⟨not_coloredAsWarning_field _ _, List.forall_mem_singleton.mpr ?_⟩
    cases d.commitLink with
    | none =>
        change _ ∉ [Theme.label, Style.plain]
        decide
    | some link =>
        change _ ∉ [Theme.label, Style.plain, Style.plain, Theme.link]
        decide
  case duration =>
    cases d.duration with
    | none => exact List.forall_mem_nil _
    | some duration => exact List.forall_mem_singleton.mpr (not_coloredAsWarning_field _ _)
  case command => exact List.forall_mem_singleton.mpr (not_coloredAsWarning_field _ _)
  case error =>
    cases d.errorMessage with
    | none => exact List.forall_mem_nil _
    | some message =>
        refine List.forall_mem_singleton.mpr ?_
        change _ ∉ [Theme.label, Theme.message true]
        decide

section Expanded

variable {p : Panel} {d : RunDetail} (hexpanded : p.expanded = true) (hdetail : p.detail = some d)
  (selected noIcons : Bool)
include hexpanded hdetail

/-- The lines of an expanded panel end with its output and an empty line. Nothing above has the
color of warnings. -/
theorem panelLines_expanded : ∃ above, (∀ l ∈ above, ¬ ColoredAsWarning l) ∧
    panelLines p selected noIcons = above ++
      outputHeading :: ((Output.classified d.output).map outputLine ++ [Line.empty]) := by
  obtain ⟨above, habove, hlines⟩ := detailLines_eq d
  refine ⟨summaryLine p selected noIcons :: above,
    List.forall_mem_cons.mpr ⟨not_coloredAsWarning_summaryLine p selected noIcons, habove⟩, ?_⟩
  simp [panelLines, hexpanded, hdetail, hlines]

theorem showsOutput_panelLines :
    ShowsOutput (indent ++ "Output:") d.output [[]]
      ((panelLines p selected noIcons).map Line.text) := by
  obtain ⟨above, -, hlines⟩ := panelLines_expanded hexpanded hdetail selected noIcons
  refine ⟨above.map Line.text, (Output.classified d.output).map fun line => (outputLine line).text,
    ?_, forall₂_map_classified _ _ fun line => ⟨(indent ++ "  ").toList, rfl, ?_⟩⟩
  · rw [hlines]
    simp only [List.map_append, List.map_cons, List.map_map, List.map_nil]
    rfl
  · exact congrArg (_ ++ ·) (List.append_nil _)

/-- The color of warnings is in a panel for the lines of its output that are warnings. -/
theorem coloredAsWarning_panelLines :
    (∃ l ∈ panelLines p selected noIcons, ColoredAsWarning l) ↔
      Output.hasWarnings d.output = true := by
  obtain ⟨above, habove, hlines⟩ := panelLines_expanded hexpanded hdetail selected noIcons
  rw [Output.hasWarnings_iff, hlines]
  constructor
  · rintro ⟨l, hl, hcolored⟩
    rcases List.mem_append.mp hl with hl | hl
    · exact absurd hcolored (habove l hl)
    rcases List.mem_cons.mp hl with rfl | hl
    · exact absurd hcolored (by decide)
    rcases List.mem_append.mp hl with hl | hl
    · obtain ⟨line, hline, rfl⟩ := List.mem_map.mp hl
      exact ⟨line, hline, (coloredAsWarning_outputLine line).mp hcolored⟩
    · obtain rfl := List.mem_singleton.mp hl
      exact absurd hcolored List.not_mem_nil
  · rintro ⟨line, hline, hkind⟩
    refine ⟨outputLine line, ?_, (coloredAsWarning_outputLine line).mpr hkind⟩
    exact List.mem_append_right _ (List.mem_cons_of_mem _
      (List.mem_append_left _ (List.mem_map_of_mem hline)))

end Expanded

end Board

end WaybillBoard
