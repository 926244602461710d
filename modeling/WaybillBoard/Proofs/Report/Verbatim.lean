import WaybillBoard.Proofs.Board.OutputLines
import WaybillBoard.Report.Request
import WaybillBoard.Report.Listing

/-!
Output is shown verbatim. On the board and in a report the output of a run stands below a heading,
line by line, and it is marked as one with warnings when a line of it is colored as a warning.
-/

namespace WaybillBoard

namespace Report

open Text (splitOn)

/-- The lines that some texts make, each of which ends with a newline. -/
def textLines (texts : List String) : List (List Char) :=
  texts.flatMap fun text => splitOn '\n' text.toList

theorem textLines_cons (text : String) (texts : List String) :
    textLines (text :: texts) = splitOn '\n' text.toList ++ textLines texts := List.flatMap_cons

theorem textLines_append (texts others : List String) :
    textLines (texts ++ others) = textLines texts ++ textLines others := List.flatMap_append

theorem splitOn_join (texts : List String) :
    splitOn '\n' (String.join (texts.map (· ++ "\n"))).toList = textLines texts ++ [[]] := by
  rw [String.toList_join]
  induction texts with
  | nil => rfl
  | cons text texts ih =>
      have hnewline : "\n".toList = ['\n'] := rfl
      rw [List.map_cons, List.flatMap_cons, String.toList_append, hnewline, List.append_assoc,
        List.singleton_append, Text.splitOn_eq, List.splitOn_append_cons_self, ← Text.splitOn_eq,
        ← Text.splitOn_eq, ih, textLines_cons, List.append_assoc]

/-- The lines of a listing are those of its panels, in order. -/
theorem splitOn_listing {d : Dashboard} {now : Time.Instant} {place : Nat} {p : Panel}
    (h : (d.rows now)[place]? = some p) :
    splitOn '\n' (listing d now).toList =
      textLines (countLine d :: ((d.rows now).take place).flatMap panelLines) ++
        textLines (panelLines p) ++
          (textLines (((d.rows now).drop (place + 1)).flatMap panelLines) ++ [[]]) := by
  obtain ⟨hlt, hp⟩ := List.getElem?_eq_some_iff.mp h
  have hne : (d.rows now).isEmpty = false :=
    List.isEmpty_eq_false_iff.mpr (List.ne_nil_of_length_pos (Nat.zero_lt_of_lt hlt))
  have hrows : (d.rows now).flatMap panelLines =
      ((d.rows now).take place).flatMap panelLines ++
        (panelLines p ++ ((d.rows now).drop (place + 1)).flatMap panelLines) := by
    rw [← List.flatMap_cons, ← List.flatMap_append, ← hp, List.getElem_cons_drop,
      List.take_append_drop]
  have hlines : lines d now = (countLine d :: ((d.rows now).take place).flatMap panelLines) ++
      (panelLines p ++ ((d.rows now).drop (place + 1)).flatMap panelLines) := by
    rw [lines, hne, if_neg Bool.false_ne_true, hrows, List.cons_append]
  simp only [listing, splitOn_join, hlines, textLines_append, List.append_assoc]

theorem detailLines_eq (d : RunDetail) : ∃ above,
    detailLines d = above ++ "    output:" :: (Output.classified d.output).map outputLine :=
  ⟨_, List.append_assoc _ [_] _⟩

/-- No line of an output is broken when it is listed. -/
theorem textLines_outputLine (output : String) :
    textLines ((Output.classified output).map outputLine) =
      (Output.classified output).map fun line => (outputLine line).toList := by
  have hline : ∀ line ∈ Output.classified output,
      splitOn '\n' (outputLine line).toList = [(outputLine line).toList] := by
    intro line hline
    obtain ⟨text, htext, rfl⟩ := List.mem_map.mp hline
    have hnot : '\n' ∉ text := Text.not_mem_of_mem_splitOn htext
    have hmark : '\n' ∉ (lineMark (Output.classify text)).toList := by
      cases Output.classify text <;> decide
    rw [Text.splitOn_eq]
    apply List.splitOn_eq_singleton
    simp [outputLine, hnot, hmark]
  rw [textLines, List.flatMap_map]
  exact (List.flatMap_congr hline).trans (List.map_eq_flatMap ..).symm

theorem length_lead (kind : LineKind) : ("    " ++ lineMark kind ++ " ").toList.length = 6 := by
  cases kind <;> decide

theorem showsOutput_panelLines {p : Panel} {d : RunDetail} (hexpanded : p.expanded = true)
    (hdetail : p.detail = some d) :
    ShowsOutput "    output:" d.output [] (textLines (panelLines p)) := by
  obtain ⟨above, hlines⟩ := detailLines_eq d
  have hheading : splitOn '\n' "    output:".toList = ["    output:".toList] := by decide
  refine ⟨textLines (panelLine p :: above),
    (Output.classified d.output).map fun line => (outputLine line).toList, ?_,
    forall₂_map_classified _ _ fun line =>
      ⟨("    " ++ lineMark line.1 ++ " ").toList, length_lead line.1, String.toList_append⟩⟩
  have hpanel : panelLines p = (panelLine p :: above) ++
      "    output:" :: (Output.classified d.output).map outputLine := by
    simp [panelLines, hexpanded, hdetail, hlines]
  rw [hpanel, textLines_append, textLines_cons "    output:", hheading, textLines_outputLine,
    List.append_nil]
  rfl

end Report

/-- What is said of a run of a Waybill where its panel is expanded. -/
structure ShownVerbatim (p : Panel) (d : RunDetail) : Prop where
  /-- No character of the output is lost. -/
  joined : "\n".intercalate ((Output.classified d.output).map Prod.snd) = d.output
  on_board : ∀ selected noIcons, ShowsOutput "    Output:" d.output [[]]
    ((Board.panelLines p selected noIcons).map Screen.Line.text)
  in_report : ShowsOutput "    output:" d.output [] (Report.textLines (Report.panelLines p))
  /-- The lines of a listing are those of its panels, in order. -/
  listed : ∀ (board : Dashboard) (now : Time.Instant) (place : Nat),
    (board.rows now)[place]? = some p → Text.splitOn '\n' (Report.listing board now).toList =
      Report.textLines
          (Report.countLine board :: ((board.rows now).take place).flatMap Report.panelLines) ++
        Report.textLines (Report.panelLines p) ++
          (Report.textLines (((board.rows now).drop (place + 1)).flatMap Report.panelLines) ++ [[]])
  hasWarnings_iff : d.hasWarnings = true ↔ ∃ line ∈ Output.classified d.output, line.1 = .warning
  colored_iff : ∀ selected noIcons, d.hasWarnings = true ↔
    ∃ l ∈ Board.panelLines p selected noIcons, Board.ColoredAsWarning l

theorem output_shown_verbatim {w : Waybill} {run : Run} (h : w.lastRun = some run)
    (diffUrlFormat : String) (now : Time.Instant) :
    let p := Panel.of w true diffUrlFormat now
    ∃ d, p.detail = some d ∧ d.output = run.output ∧ ShownVerbatim p d ∧
      (run.success = true → ∀ selected noIcons, Outcome.of w = .warning ↔
        ∃ l ∈ Board.panelLines p selected noIcons, Board.ColoredAsWarning l) := by
  intro p
  have hdetail : p.detail = some (RunDetail.of run diffUrlFormat now) := by
    change w.lastRun.map _ = _
    rw [h, Option.map_some]
  have hcolored (selected noIcons : Bool) :=
    Board.coloredAsWarning_panelLines (p := p) rfl hdetail selected noIcons
  refine ⟨_, hdetail, rfl, ?_, fun hsuccess selected noIcons => ?_⟩
  · exact
      { joined := Output.intercalate_classified run.output
        on_board := Board.showsOutput_panelLines rfl hdetail
        in_report := Report.showsOutput_panelLines rfl hdetail
        listed := fun _ _ _ => Report.splitOn_listing
        hasWarnings_iff := Output.hasWarnings_iff run.output
        colored_iff := fun selected noIcons => (hcolored selected noIcons).symm }
  · exact (Outcome.of_eq_warning_iff h hsuccess).trans (hcolored selected noIcons).symm

/-- A carriage return and an empty line are kept, and a wide blank does not hide a warning. -/
theorem output_shown_verbatim_blanks :
    let run : Run := { output := "a\r\n\n\u2003Warning: b\n", success := true }
    let w : Waybill := { lastRun := some run }
    let p := Panel.of w true "" .epoch
    w.lastRun = some run ∧ run.success = true ∧
      ShowsOutput "    output:" run.output [] (Report.textLines (Report.panelLines p)) ∧
      ∃ l ∈ Board.panelLines p false false, Board.ColoredAsWarning l := by
  intro run w p
  have hrun : w.lastRun = some run := rfl
  obtain ⟨d, -, houtput, hshown, hwarning⟩ := output_shown_verbatim hrun "" .epoch
  have hreport := hshown.in_report
  rw [houtput] at hreport
  exact ⟨rfl, rfl, hreport, (hwarning rfl false false).mp (by decide +kernel)⟩

end WaybillBoard
