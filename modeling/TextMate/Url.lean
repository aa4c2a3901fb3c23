import TextMate.Text.Blank
import TextMate.Url.Authority
import TextMate.Url.Path

/-! URLs. -/
namespace TextMate

structure Url where
  scheme : String
  authority : Option Url.Authority
  path : Url.Path
  /-- Percent-encoded. -/
  query : Option (List Char)
  fragment : Option (List Char)
deriving DecidableEq

namespace Url

/-- Spaces and controls at the ends do not count. -/
def clean (text : String) : List Char := Text.strip (fun c => c.toNat ≤ 0x20) text.toList

/-- What may follow the authority of a URL, not yet encoded. -/
structure Tail where
  path : List Char
  query : Option (List Char)
  fragment : Option (List Char)

def cutOff (mark : Char) (cs : List Char) : List Char × Option (List Char) :=
  match Text.cutAt mark cs with
  | some (before, after) => (before, some after)
  | none => (cs, none)

/-- The first number sign starts the fragment, and the first question mark before it the query. -/
def cutTail (cs : List Char) : Tail :=
  let (rest, fragment) := cutOff '#' cs
  let (path, query) := cutOff '?' rest
  { path, query, fragment }

def build (scheme : String) (authority : Option Authority) (path : Path) (tail : Tail) : Url where
  scheme := scheme
  authority := authority
  path := path
  query :=
    let set := if (schemeKind scheme).isSpecial then inSpecialQuerySet else inQuerySet
    tail.query.map fun cs => percentEncode set (withoutBreaks cs)
  fragment := tail.fragment.map fun cs => percentEncode inFragmentSet (withoutBreaks cs)

/-- Any number of slashes may stand before the authority. -/
def parseWeb (scheme : String) (cs : List Char) : Except ParseError Url := do
  let (authority, rest) := (cs.dropWhile (Path.isSlash .web)).span (!Authority.isEnd .web ·)
  let (authority, _) ← Authority.parse scheme (!rest.isEmpty) authority
  let tail := cutTail rest
  return build scheme authority (.segments (Path.resolved .web tail.path)) tail

/-- A file on a drive has no host. -/
def fileUrl (host : Host) (trail : Path.Trail) (tail : Tail) : Url :=
  build "file" (some { host := if trail.drive then .empty else host })
    (.segments (Path.dropEmpty trail.segments.reverse)) tail

def fileHost (cs : List Char) : Except ParseError Host := do
  if cs.isEmpty then return .empty
  let host ← Host.parseDomain cs
  return if host = .name "localhost".toList then .empty else host

/--
Reads what follows the two slashes before a host. Behind a host the first slash of the path belongs
to the root, and where the host is missing it does not. A drive may stand in place of the host.
-/
def parseFileHost (cs : List Char) : Except ParseError Url := do
  let (hostText, after) := cs.span (!Authority.isEnd .file ·)
  let hostText := withoutBreaks hostText
  let isDrive := Path.isDrive hostText
  let host ← if isDrive then .ok .empty else fileHost hostText
  let tail := cutTail (if isDrive then cs else after)
  let trail := if host = .empty then Path.trailFromRoot else Path.trail
  return fileUrl host (trail .file tail.path) tail

/-- The breaks are still in the text. -/
def parseFile (cs : List Char) : Except ParseError Url :=
  match (Path.behindSlash? .file cs).bind (Path.behindSlash? .file) with
  | some rest => parseFileHost rest
  | none =>
    let tail := cutTail cs
    .ok (fileUrl .empty (Path.trail .file tail.path) tail)

/-- Two slashes come before an authority, and without any slash the path is plain text. -/
def parseOther (scheme : String) (cs : List Char) : Except ParseError Url :=
  match cs with
  | '/' :: '/' :: rest => do
    let (authority, rest) := rest.span (!Authority.isEnd .other ·)
    let (authority, left) ← Authority.parse scheme (!rest.isEmpty) authority
    let tail := cutTail (left ++ rest)
    let segments := if tail.path.isEmpty then [] else Path.resolved .other tail.path
    return build scheme authority (.segments segments) tail
  | '/' :: _ =>
    let tail := cutTail cs
    .ok (build scheme none (.segments (Path.resolved .other tail.path)) tail)
  | _ =>
    let tail := cutTail cs
    .ok (build scheme none (.plain (percentEncode inControls tail.path)) tail)

/-- What follows the first colon is the text after the scheme, breaks included. -/
def parse (text : String) : Except ParseError Url :=
  match cutScheme (withoutBreaks (clean text)) with
  | none => .error .relativeWithoutBase
  | some (scheme, rest) =>
    match schemeKind scheme with
    | .web => parseWeb scheme rest
    | .file => parseFile (((clean text).dropWhile (· ≠ ':')).drop 1)
    | .other => parseOther scheme rest

/-- Without an authority, a path must not look like one. -/
def textBeforePath (u : Url) : String :=
  u.scheme ++ ":" ++
    match u.authority with
    | some a => "//" ++ .ofList a.text
    | none => if ['/', '/'].isPrefixOf u.path.text then "/." else ""

def textAfterPath (u : Url) : String :=
  let part (mark : Char) : Option (List Char) → String
    | some cs => .ofList (mark :: cs)
    | none => ""
  part '?' u.query ++ part '#' u.fragment

end Url

end TextMate
