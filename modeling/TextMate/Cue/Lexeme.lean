/-! Regular expressions for the lexemes of CUE, to be put together as text. -/
namespace TextMate.Cue.Lexeme

def wordChar : String := "[\\p{L}\\p{Nd}_]"

def exportedName : String := "\\p{Lu}" ++ wordChar ++ "*"

def plainName : String := "\\p{L}" ++ wordChar ++ "*"

def hiddenName : String := "_" ++ wordChar ++ "+"

def packageName : String := plainName

def anyName : String := plainName ++ "|" ++ hiddenName

def wordStart : String := "(?<!" ++ wordChar ++ ")"

def wordEnd : String := "(?!" ++ wordChar ++ ")"

/-- A number does not start behind a point either. -/
def numberStart : String := "(?<![\\p{L}\\p{Nd}_\\.])"

def numberEnd : String := "(?![\\p{L}\\p{Nd}_\\.])"

def importPath : String := "[^:\"]+"

/-- The groups are the alias, the quote, the path, a colon, the package name and the quote. -/
def importSpec : String :=
  "(?:(" ++ packageName ++ ")[ \\t]+)?(\")(" ++ importPath ++ ")(?:(:)(" ++ plainName ++
    "))?(\")"

def digits : String := "[0-9](?:_?[0-9])*"

def exponent : String := "[eE][\\+\\-]?" ++ digits

def optionalExponent : String := "(?:" ++ exponent ++ ")?"

def wholeNumber : String := "(?:0|[1-9](?:_?[0-9])*)"

def multiplier : String := "(?:[KMGTPEYZ]i?)"

def controlEscape : String := "[abfnrtv]"

def plainEscape : String := "/|\\\\"

def octalEscape : String := "[0-7]{3}"

def hexEscape : String := "x[0-9A-Fa-f]{2}"

def shortUnicodeEscape : String := "u[0-9A-Fa-f]{4}"

def longUnicodeEscape : String := "U[0-9A-Fa-f]{8}"

/-- Escapes of every string. -/
def commonEscape : String :=
  plainEscape ++ "|" ++ controlEscape ++ "|" ++ shortUnicodeEscape ++ "|" ++ longUnicodeEscape

/-- Escapes of byte strings only. -/
def byteEscape : String := octalEscape ++ "|" ++ hexEscape

end TextMate.Cue.Lexeme
