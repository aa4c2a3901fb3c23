import TextMate.Document
import TextMate.GrammarError

/-! Writing a document piece by piece to a place that may fill up. -/
namespace TextMate

/-- Takes `limit` bytes and refuses all others for the given reason. -/
structure Sink where
  limit : Nat
  reason : String
  received : List UInt8 := []

/-- The number of bytes that will still be taken. -/
def Sink.room (s : Sink) : Nat := s.limit - s.received.length

def Sink.receive (s : Sink) (bytes : List UInt8) : Sink :=
  { s with received := s.received ++ bytes }

/-- Hands over something to a sink, and fails when a byte is refused. -/
abbrev Handover := EStateM Unit Sink Unit

/-- The bytes before the one that is refused are taken. -/
def Handover.bytes (bytes : List UInt8) : Handover := fun s =>
  if bytes.length ≤ s.room then .ok () (s.receive bytes)
  else .error () (s.receive (bytes.take s.room))

/-- The characters of a text in UTF-8. -/
def Handover.text (cs : List Char) : Handover := .bytes (String.ofList cs).toUTF8.data.toList

namespace Json

def handOverQuoted (s : String) : Handover := do
  Handover.text ['"']
  Handover.text (s.toList.flatMap escapeChar)
  Handover.text ['"']

mutual

/-- One item or member a line, like the indented text. -/
def handOver (depth : Nat) : Json → Handover
  | .text value => handOverQuoted value
  | .list [] => do
    Handover.text ['[']
    Handover.text [']']
  | .list (j :: rest) => do
    Handover.text ['[']
    Handover.text (newline (depth + 1))
    j.handOver (depth + 1)
    handOverItems depth rest
  | .object [] => do
    Handover.text ['\x7b']
    Handover.text ['\x7d']
  | .object ((key, j) :: rest) => do
    Handover.text ['\x7b']
    Handover.text (newline (depth + 1))
    handOverQuoted key
    Handover.text [':', ' ']
    j.handOver (depth + 1)
    handOverMembers depth rest

def handOverItems (depth : Nat) : List Json → Handover
  | [] => do
    Handover.text (newline depth)
    Handover.text [']']
  | j :: rest => do
    Handover.text (',' :: newline (depth + 1))
    j.handOver (depth + 1)
    handOverItems depth rest

def handOverMembers (depth : Nat) : List (String × Json) → Handover
  | [] => do
    Handover.text (newline depth)
    Handover.text ['\x7d']
  | (key, j) :: rest => do
    Handover.text (',' :: newline (depth + 1))
    handOverQuoted key
    Handover.text [':', ' ']
    j.handOver (depth + 1)
    handOverMembers depth rest

end

end Json

/-- The line feed that ends the document goes out after all the rest. -/
def Grammar.writeTo (g : Grammar) (s : Sink) : Sink × Except GrammarError Unit :=
  match (g.toJson.handOver 0).run s with
  | .error _ s => (s, .error (.cutShort s.reason))
  | .ok _ s =>
    match (Handover.text ['\n']).run s with
    | .error _ s => (s, .error (.io s.reason))
    | .ok _ s => (s, .ok ())

end TextMate
