import WaybillBoard.Board.Footer
import WaybillBoard.Board.Header
import WaybillBoard.Board.Help
import WaybillBoard.Board.WaybillList
import WaybillBoard.Session.Basic

/-!
Drawing a session: the header, the list and the footer, one below the other, and the help over them.
-/

namespace WaybillBoard.Session

open Board
open Screen (Area)

/-- The areas of header, list and footer. In a low area the header goes first. -/
def divide (a : Area) : Area × Area × Area :=
  let top := min headerHeight a.height
  let bottom := min footerHeight (a.height - top)
  let middle := a.height - top - bottom
  (⟨a.x, a.y, a.width, top⟩, ⟨a.x, a.y + top, a.width, middle⟩,
    ⟨a.x, a.y + top + middle, a.width, bottom⟩)

/-- The session as it is drawn on a screen. It remembers how far the list was scrolled, and how
many rows a page has. -/
def draw (s : Session) (width height : Nat) (now : Time.Instant) : Session × Screen :=
  let screen := Screen.blank width height
  let (top, middle, bottom) := divide screen.area
  let d := s.dashboard
  let (list, offset) := waybillList d s.selected s.offset middle.height now s.noIcons
  let screen := (header d s.label now s.noIcons).draw screen top
  let screen := list.draw screen middle
  let screen := (footer s.searching d.query s.message d.mode).draw screen bottom
  let screen := if s.showsHelp then drawHelp screen screen.area else screen
  ({ s with offset, pageSize := middle.height - 2 }, screen)

end WaybillBoard.Session
