/-!
Styles of a terminal: colors, bold and underlined letters. What a style leaves open is taken from
what is below it.
-/

namespace WaybillBoard.Screen

inductive Color
  | terminal
  | black
  | red
  | green
  | yellow
  | blue
  | magenta
  | cyan
  | gray
  | darkGray
  | white
  deriving DecidableEq, Repr

def Color.name : Color → String
  | .terminal => "Reset"
  | .black => "Black"
  | .red => "Red"
  | .green => "Green"
  | .yellow => "Yellow"
  | .blue => "Blue"
  | .magenta => "Magenta"
  | .cyan => "Cyan"
  | .gray => "Gray"
  | .darkGray => "DarkGray"
  | .white => "White"

structure Style where
  foreground : Option Color := none
  background : Option Color := none
  bold : Bool := false
  underlined : Bool := false
  deriving DecidableEq, Repr

namespace Style

def plain : Style := {}

def colored (color : Color) : Style := { foreground := some color }

/-- The second style laid over the first. -/
def overlaid (below above : Style) : Style where
  foreground := above.foreground.or below.foreground
  background := above.background.or below.background
  bold := below.bold || above.bold
  underlined := below.underlined || above.underlined

/-- The names of what letters are made of, `-` when they are plain. -/
def lettersText (bold underlined : Bool) : String :=
  match bold, underlined with
  | false, false => "-"
  | true, false => "BOLD"
  | false, true => "UNDERLINED"
  | true, true => "BOLD | UNDERLINED"

def colorText : Option Color → String
  | none => "-"
  | some color => color.name

def text (s : Style) : String :=
  colorText s.foreground ++ "/" ++ colorText s.background ++ "/" ++
    lettersText s.bold s.underlined

end Style

end WaybillBoard.Screen
