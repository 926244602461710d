import WaybillBoard.Board.Messages
import WaybillBoard.Board.PanelLines
import WaybillBoard.Dashboard.Basic

/-!
The list of panels, scrolled so that the selected one is on the screen.
-/

namespace WaybillBoard.Board

open Screen (Area Line Paragraph)

/-- The offset from which the lines `first` to `last`, the latter excluded, are seen in `height`
lines, with `context` lines before them if there is room. Lines that do not all fit are seen from
the first on. -/
def scrollTo (first last height context offset : Nat) : Nat :=
  if height = 0 then offset
  else
    let offset := if first < offset + context then first - context else offset
    if last ≤ offset + height then offset
    else if height ≤ last - first then first
    else last - height

/-- The most lines that scrolling can pass over. -/
def scrollLimit : Nat := 65535

/-- The lines of all panels, one below the other. -/
def listLines (rows : List Panel) (selected : Nat) (noIcons : Bool) : List Line :=
  rows.zipIdx.flatMap fun (p, i) => panelLines p (i = selected) noIcons

/-- The lines before a panel. -/
def linesBefore (rows : List Panel) (place : Nat) : Nat :=
  (rows.take place).foldl (fun n p => n + (panelLines p false false).length) 0

/-- The first line of the selected panel and the one after its last; nothing when there is none. -/
def selectedSpan (rows : List Panel) (selected : Nat) : Nat × Nat :=
  if selected < rows.length then (linesBefore rows selected, linesBefore rows (selected + 1))
  else (0, 0)

def listTitle : String := " Waybills "

/-- What is shown instead of panels, if anything. -/
def listMessage (d : Dashboard) (rows : List Panel) : Option Paragraph :=
  match d.phase, d.snapshot with
  | .failed e, _ => some (failureMessage e)
  | .idle, _ =>
    some (emptyMessage listTitle "Nothing loaded yet" "Press r to load Waybill status")
  | .loading, none =>
    some (loadingMessage listTitle ("Loading Waybills for " ++ d.route.text ++ "..."))
  | _, snapshot =>
    if !rows.isEmpty then none
    else if (snapshot.map Snapshot.waybills).getD [] = [] then
      some (emptyMessage listTitle "No Waybills found"
        "kube-applier reports no Waybills for this view")
    else
      some (emptyMessage listTitle "No Waybills match the current search or outcome filter"
        "Press Esc to clear")

/-- The panels from an offset on. -/
def panelList (rows : List Panel) (selected : Nat) (noIcons : Bool) (offset : Nat) : Paragraph where
  lines := listLines rows selected noIcons
  frame := titledFrame (" Waybills (" ++ toString rows.length ++ ") ")
  scroll := min offset scrollLimit

/-- The list in an area of a height, and the offset after it. -/
def waybillList (d : Dashboard) (selected offset height : Nat) (now : Time.Instant)
    (noIcons : Bool) : Paragraph × Nat :=
  let rows := d.rows now
  match listMessage d rows with
  | some message => (message, offset)
  | none =>
    let (first, last) := selectedSpan rows selected
    let offset := scrollTo first last (height - 2) 1 offset
    (panelList rows selected noIcons offset, offset)

/-- The start of a message, with dots in place of what is too long. -/
def shortened (limit : Nat) (message : List Char) : List Char :=
  if limit < message.length then message.take (limit - 3) ++ "...".toList else message

end WaybillBoard.Board
