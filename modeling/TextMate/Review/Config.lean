import TextMate.FileTree
import TextMate.Text.Blank
import TextMate.Text.Quoted

/-! The review configuration of a repository, a list of lines of the form `key: value`. -/
namespace TextMate.Review

inductive ConfigError where
  | unreadable (path : String) (error : FileError)
  | badLine (path line : String)
deriving DecidableEq, Inhabited

def ConfigError.message : ConfigError → String
  | .unreadable path error => "failed to load config from " ++ path ++ ": " ++ error.message
  | .badLine path line =>
    "bad config line in " ++ path ++ "; expected 'key: value': " ++ Text.quoted line

structure Config where
  entries : Table String
deriving DecidableEq, Inhabited

namespace Config

def get? (c : Config) (key : String) : Option String := c.entries.get? key

def size (c : Config) : Nat := c.entries.size

def isEmpty (c : Config) : Bool := c.entries.isEmpty

/-- In key order. -/
def toList (c : Config) : List (String × String) := c.entries.entries

/-- A blank line or a comment. -/
def isSkipped (line : List Char) : Bool := line.isEmpty || line.head? = some '#'

/-- The key and the value of a trimmed line. -/
def entry? (line : List Char) : Option (String × String) :=
  (Text.cutAt ':' line).map fun cut => (.ofList (Text.trim cut.1), .ofList (Text.trim cut.2))

/-- Adds the entries of trimmed lines; a line that is no entry is the error. -/
def readLines (entries : Table String) : List (List Char) → Except (List Char) (Table String)
  | [] => .ok entries
  | line :: rest =>
    if isSkipped line then readLines entries rest
    else
      match entry? line with
      | some (key, value) => readLines (entries.insert key value) rest
      | none => .error line

/-- The end of a line is trimmed with it, so it does not matter which of the two it is. -/
def lines (text : String) : List (List Char) := (Text.pieces '\n' text.toList).map Text.trim

/-- A later entry replaces an earlier one; `path` only tells where the text is from. -/
def parse (text path : String) : Except ConfigError Config :=
  match readLines .empty (lines text) with
  | .ok entries => .ok ⟨entries⟩
  | .error line => .error (.badLine path (.ofList line))

def fileName : String := "codereview.cfg"

/-- The path of the configuration below a root directory. -/
def pathBelow (root : String) : String :=
  if root.isEmpty || root.toList.getLast? = some '/' then root ++ fileName
  else root ++ "/" ++ fileName

def load (t : FileTree) (working : FileTree.Place) (root : String) : Except ConfigError Config :=
  match t.read working (pathBelow root) with
  | .ok text => parse text (pathBelow root)
  | .error e => .error (.unreadable (pathBelow root) e)

end Config

end TextMate.Review
