import TextMate.Table
import TextMate.Text.Pieces

/-! Directories and files, and where paths lead among them. -/
namespace TextMate

inductive FileError where
  | notFound
  | notADirectory
  | isADirectory
  /-- The content is not UTF-8. -/
  | invalidData
deriving DecidableEq, Inhabited

def FileError.message : FileError → String
  | .notFound => "No such file or directory (os error 2)"
  | .notADirectory => "Not a directory (os error 20)"
  | .isADirectory => "Is a directory (os error 21)"
  | .invalidData => "stream did not contain valid UTF-8"

inductive FileTree.Item where
  | directory
  | file (content : ByteArray)
deriving Inhabited

/-- Items are named by their places, the directories on the way to them joined with slashes. -/
structure FileTree where
  items : Table FileTree.Item

namespace FileTree

/-- The names on the way from the root. -/
abbrev Place := List String

def key (place : Place) : String := "/".intercalate place

def item? (t : FileTree) (place : Place) : Option Item :=
  if place.isEmpty then some .directory else t.items.get? (key place)

def put (t : FileTree) (place : Place) (item : Item) : FileTree :=
  ⟨t.items.insert (key place) item⟩

/-- A tree with the given items. -/
def ofList (items : List (Place × Item)) : FileTree :=
  items.foldl (fun t e => t.put e.1 e.2) ⟨.empty⟩

/-- The parent of the root is the root. -/
def directoryAt (t : FileTree) (place : Place) : List String → Except FileError Place
  | [] => .ok place
  | "" :: rest => t.directoryAt place rest
  | "." :: rest => t.directoryAt place rest
  | ".." :: rest => t.directoryAt place.dropLast rest
  | name :: rest =>
    match t.item? (place ++ [name]) with
    | some .directory => t.directoryAt (place ++ [name]) rest
    | some (.file _) => .error .notADirectory
    | none => .error .notFound

def components (path : String) : List String :=
  (Text.pieces '/' path.toList).map String.ofList

/-- Where a path starts. -/
def origin (working : Place) (path : String) : Place :=
  if path.toList.head? = some '/' then [] else working

def isStep (component : String) : Bool := component = "" || component = "." || component = ".."

def read (t : FileTree) (working : Place) (path : String) : Except FileError String := do
  if path.isEmpty then throw .notFound
  let names := components path
  let last := names.getLastD ""
  let place ← t.directoryAt (origin working path) names.dropLast
  if isStep last then throw .isADirectory
  match t.item? (place ++ [last]) with
  | none => throw .notFound
  | some .directory => throw .isADirectory
  | some (.file content) =>
    match String.fromUTF8? content with
    | some text => return text
    | none => throw .invalidData

/-- Where a file with this path is to be written. A path that ends in a slash names no file. -/
def target (t : FileTree) (working : Place) (path : String) : Except FileError Place := do
  if path.isEmpty then throw .notFound
  let names := components path
  let kept := (names.reverse.dropWhile (· = "")).reverse
  let last := kept.getLastD ""
  let place ← t.directoryAt (origin working path) kept.dropLast
  if kept.length < names.length || isStep last then throw .isADirectory
  match t.item? (place ++ [last]) with
  | some .directory => throw .isADirectory
  | _ => return place ++ [last]

end FileTree

end TextMate
