/-! Colours and weights of terminal text. -/
namespace TextMate

inductive Style where
  | bold
  | dim
  | italic
  | red
  | green
  | yellow
  | blue
  | magenta
  | cyan
  | gray
deriving DecidableEq, Inhabited

def Style.code : Style → String
  | .bold => "1"
  | .dim => "2"
  | .italic => "3"
  | .red => "31"
  | .green => "32"
  | .yellow => "33"
  | .blue => "34"
  | .magenta => "35"
  | .cyan => "36"
  | .gray => "90"

/-- The escape sequence that switches to the attribute of a number. -/
def escapeSequence (code : String) : String := "\x1b[" ++ code ++ "m"

/-- Without colour a text stays as it is. -/
def Style.apply (style : Style) (colored : Bool) (text : String) : String :=
  if colored then escapeSequence style.code ++ text ++ escapeSequence "0" else text

end TextMate
