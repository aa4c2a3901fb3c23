/-! JSON trees and their written forms. -/
namespace TextMate

/-- Members of an object stand in the order in which they are written. -/
inductive Json where
  | text (value : String)
  | list (items : List Json)
  | object (members : List (String × Json))
deriving Inhabited

namespace Json

def hexDigit (n : Nat) : Char := if n < 10 then .ofNat (48 + n) else .ofNat (87 + n)

/-- A quote, a backslash and each control character is escaped; all else stands for itself. -/
def escapeChar (c : Char) : List Char :=
  if c = '"' then ['\\', '"']
  else if c = '\\' then ['\\', '\\']
  else if c = '\x08' then ['\\', 'b']
  else if c = '\t' then ['\\', 't']
  else if c = '\n' then ['\\', 'n']
  else if c = '\x0c' then ['\\', 'f']
  else if c = '\r' then ['\\', 'r']
  else if c.toNat < 32 then
    ['\\', 'u', '0', '0', hexDigit (c.toNat / 16), hexDigit (c.toNat % 16)]
  else [c]

def quote (s : String) : List Char := '"' :: s.toList.flatMap escapeChar ++ ['"']

mutual

/-- Without any space. -/
def compact : Json → List Char
  | .text value => quote value
  | .list [] => ['[', ']']
  | .list (j :: rest) => '[' :: j.compact ++ compactItems rest
  | .object [] => ['\x7b', '\x7d']
  | .object ((key, j) :: rest) => '\x7b' :: quote key ++ ':' :: j.compact ++ compactMembers rest

def compactItems : List Json → List Char
  | [] => [']']
  | j :: rest => ',' :: j.compact ++ compactItems rest

def compactMembers : List (String × Json) → List Char
  | [] => ['\x7d']
  | (key, j) :: rest => ',' :: quote key ++ ':' :: j.compact ++ compactMembers rest

end

/-- A new line at the given depth, indented with tabs. -/
def newline (depth : Nat) : List Char := '\n' :: List.replicate depth '\t'

mutual

/-- One item or member a line; an empty list or object stays on its line. -/
def indented (depth : Nat) : Json → List Char
  | .text value => quote value
  | .list [] => ['[', ']']
  | .list (j :: rest) =>
    '[' :: newline (depth + 1) ++ j.indented (depth + 1) ++ indentedItems depth rest
  | .object [] => ['\x7b', '\x7d']
  | .object ((key, j) :: rest) =>
    '\x7b' :: newline (depth + 1) ++ quote key ++ ':' :: ' ' :: j.indented (depth + 1) ++
      indentedMembers depth rest

def indentedItems (depth : Nat) : List Json → List Char
  | [] => newline depth ++ [']']
  | j :: rest => ',' :: newline (depth + 1) ++ j.indented (depth + 1) ++ indentedItems depth rest

def indentedMembers (depth : Nat) : List (String × Json) → List Char
  | [] => newline depth ++ ['\x7d']
  | (key, j) :: rest =>
    ',' :: newline (depth + 1) ++ quote key ++ ':' :: ' ' :: j.indented (depth + 1) ++
      indentedMembers depth rest

end

end Json

end TextMate
