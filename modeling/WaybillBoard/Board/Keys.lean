import WaybillBoard.Dashboard.Route

/-!
The keys that are shown in the footer and in the help.
-/

namespace WaybillBoard.Board

/-- Keys and labels of the footer, in order. -/
def footerKeys (mode : DisplayMode) : List (String × String) :=
  [("j/k", "Navigate"),
    ("Enter", match mode with | .list => "Open" | .single => "Toggle"),
    ("Space", "Expand"), ("/", "Search"), ("o", "Outcome"), ("r", "Refresh"), ("?", "Help"),
    ("Esc", "Back/Quit")]

/-- Keys and what they do. -/
def helpKeys : List (String × String) :=
  [("<j>/<Down>", "Select next Waybill"),
    ("<k>/<Up>", "Select previous Waybill"),
    ("<g>/<G>", "Jump to first/last Waybill"),
    ("<Enter>", "Open namespace view (toggle in namespace view)"),
    ("<Space>/<Tab>", "Expand or collapse the selected Waybill"),
    ("</>", "Fuzzy search namespaces"),
    ("<o>", "Cycle outcome filter"),
    ("<r>", "Refresh now"),
    ("<Esc>", "Clear search, go back, or quit"),
    ("<?>", "Show/hide help"),
    ("<q>", "Quit")]

end WaybillBoard.Board
