import TextMate.Document.Sink
import TextMate.Proofs.ByteOrder

/-!
What a sink has received when a document has been handed over, or when it is full. Pieces that are
handed over one after the other are handed over like the text that they make.
-/
namespace TextMate

namespace Sink

variable (s : Sink) (bs : List UInt8)

@[simp] theorem limit_receive : (s.receive bs).limit = s.limit := rfl

@[simp] theorem reason_receive : (s.receive bs).reason = s.reason := rfl

@[simp] theorem received_receive : (s.receive bs).received = s.received ++ bs := rfl

theorem room_empty (limit : Nat) (reason : String) :
    ({ limit, reason } : Sink).room = limit := by
  simp [room]

theorem room_receive : (s.receive bs).room = s.room - bs.length := by
  simp only [room, limit_receive, received_receive, List.length_append]
  omega

theorem receive_nil : s.receive [] = s := by
  simp only [receive, List.append_nil]

theorem receive_append (front back : List UInt8) :
    s.receive (front ++ back) = (s.receive front).receive back := by
  simp only [receive, List.append_assoc]

end Sink

namespace Handover

section Bytes

variable {bs : List UInt8} {s : Sink}

theorem bytes_taken (h : bs.length ≤ s.room) : bytes bs s = .ok () (s.receive bs) :=
  if_pos h

theorem bytes_refused (h : s.room < bs.length) :
    bytes bs s = .error () (s.receive (bs.take s.room)) :=
  if_neg (Nat.not_le.2 h)

/-- Bytes behind one that is refused make no difference, and the others find less room. -/
theorem bytes_append (front back : List UInt8) :
    bytes (front ++ back) = (do bytes front; bytes back) := by
  funext s
  change bytes (front ++ back) s = (bytes front).bind (fun _ => bytes back) s
  have hlength : (front ++ back).length = front.length + back.length := List.length_append
  have hroom : (s.receive front).room = s.room - front.length := s.room_receive front
  unfold EStateM.bind
  rcases Nat.lt_or_ge s.room front.length with hfront | hfront
  · rw [bytes_refused hfront, bytes_refused (by omega),
      List.take_append_of_le_length (Nat.le_of_lt hfront)]
  · rw [bytes_taken hfront]
    rcases Nat.lt_or_ge (s.receive front).room back.length with hback | hback
    · have htake : (front ++ back).take s.room = front ++ back.take (s.receive front).room := by
        rw [List.take_append, List.take_of_length_le hfront, hroom]
      rw [bytes_refused (by omega), htake, Sink.receive_append]
      exact (bytes_refused hback).symm
    · rw [bytes_taken (by omega), Sink.receive_append]
      exact (bytes_taken hback).symm

end Bytes

theorem text_append (front back : List Char) :
    text (front ++ back) = (do text front; text back) := by
  have hbytes : ∀ cs, text cs = bytes (Text.bytes (.ofList cs)) := fun _ => rfl
  rw [hbytes, hbytes, hbytes, Text.bytes_ofList, Text.bytes_ofList, Text.bytes_ofList,
    List.flatMap_append, bytes_append]

end Handover

namespace Json

open Handover (text_append)

theorem handOverQuoted_eq (s : String) : handOverQuoted s = Handover.text (quote s) := by
  simp only [handOverQuoted, quote, ← text_append, List.cons_append, List.nil_append]

mutual

/-- Item by item and member by member, a tree is handed over as its text. -/
theorem handOver_eq (depth : Nat) : (j : Json) → j.handOver depth = Handover.text (j.indented depth)
  | .text value => by
    rw [handOver, indented, handOverQuoted_eq]
  | .list [] => by
    rw [handOver, indented, ← text_append, List.singleton_append]
  | .list (j :: rest) => by
    rw [handOver, indented, handOver_eq (depth + 1) j, handOverItems_eq depth rest]
    simp only [← text_append, List.cons_append, List.nil_append, List.append_assoc]
  | .object [] => by
    rw [handOver, indented, ← text_append, List.singleton_append]
  | .object ((key, j) :: rest) => by
    rw [handOver, indented, handOver_eq (depth + 1) j, handOverMembers_eq depth rest,
      handOverQuoted_eq]
    simp only [← text_append, List.cons_append, List.nil_append, List.append_assoc]

theorem handOverItems_eq (depth : Nat) : (items : List Json) →
    handOverItems depth items = Handover.text (indentedItems depth items)
  | [] => by
    rw [handOverItems, indentedItems, text_append]
  | j :: rest => by
    rw [handOverItems, indentedItems, handOver_eq (depth + 1) j, handOverItems_eq depth rest]
    simp only [← text_append, List.cons_append, List.append_assoc]

theorem handOverMembers_eq (depth : Nat) : (members : List (String × Json)) →
    handOverMembers depth members = Handover.text (indentedMembers depth members)
  | [] => by
    rw [handOverMembers, indentedMembers, text_append]
  | (key, j) :: rest => by
    rw [handOverMembers, indentedMembers, handOver_eq (depth + 1) j,
      handOverMembers_eq depth rest, handOverQuoted_eq]
    simp only [← text_append, List.cons_append, List.nil_append, List.append_assoc]

end

end Json

namespace Text

theorem bytes_append (s t : String) : bytes (s ++ t) = bytes s ++ bytes t := by
  unfold bytes String.toUTF8
  rw [String.toByteArray_append, ByteArray.data_append, Array.toList_append]

theorem length_bytes (s : String) : (bytes s).length = s.utf8ByteSize :=
  String.size_toByteArray

end Text

namespace Grammar

section Writing

variable {g : Grammar} {s : Sink}

theorem bytes_document (g : Grammar) : Text.bytes g.document = Text.bytes g.documentBody ++ [10] :=
  Text.bytes_append g.documentBody "\n"

theorem utf8ByteSize_document (g : Grammar) :
    g.document.utf8ByteSize = (Text.bytes g.documentBody).length + 1 := by
  rw [← Text.length_bytes, bytes_document, List.length_append, List.length_singleton]

theorem handOver_toJson (g : Grammar) :
    g.toJson.handOver 0 = Handover.bytes (Text.bytes g.documentBody) :=
  Json.handOver_eq 0 g.toJson

/-- Too little room for the document without its last line feed. -/
theorem writeTo_cutShort (h : s.room < (Text.bytes g.documentBody).length) :
    g.writeTo s = (s.receive ((Text.bytes g.documentBody).take s.room),
      .error (.cutShort s.reason)) := by
  have hbody := Handover.bytes_refused h
  unfold writeTo EStateM.run
  rw [handOver_toJson, hbody]
  rfl

theorem text_lineFeed : Handover.text ['\n'] = Handover.bytes [10] := rfl

/-- Room for that line feed alone is missing. -/
theorem writeTo_io (h : s.room = (Text.bytes g.documentBody).length) :
    g.writeTo s = (s.receive (Text.bytes g.documentBody), .error (.io s.reason)) := by
  have hbody := Handover.bytes_taken (Nat.le_of_eq h.symm)
  have hroom : (s.receive (Text.bytes g.documentBody)).room = 0 := by
    rw [Sink.room_receive, h, Nat.sub_self]
  have hfeed : Handover.bytes [10] (s.receive (Text.bytes g.documentBody)) =
      .error () (s.receive (Text.bytes g.documentBody)) := by
    rw [Handover.bytes_refused (by rw [hroom]; decide), hroom, List.take_zero, Sink.receive_nil]
  unfold writeTo EStateM.run
  rw [handOver_toJson, hbody]
  simp only [text_lineFeed, hfeed, Sink.reason_receive]

theorem writeTo_ok (h : (Text.bytes g.documentBody).length < s.room) :
    g.writeTo s = (s.receive (Text.bytes g.document), .ok ()) := by
  have hbody := Handover.bytes_taken (Nat.le_of_lt h)
  have hroom : [(10 : UInt8)].length ≤ (s.receive (Text.bytes g.documentBody)).room := by
    rw [Sink.room_receive, List.length_singleton]
    omega
  unfold writeTo EStateM.run
  rw [handOver_toJson, hbody]
  simp only [text_lineFeed, Handover.bytes_taken hroom]
  rw [bytes_document, Sink.receive_append]

/-- As many bytes arrive as there is room for, and where the first one is missing decides. -/
theorem writeTo_eq (g : Grammar) (s : Sink) :
    g.writeTo s = (s.receive ((Text.bytes g.document).take s.room),
      if g.document.utf8ByteSize ≤ s.room then .ok ()
      else if g.document.utf8ByteSize = s.room + 1 then .error (.io s.reason)
      else .error (.cutShort s.reason)) := by
  have hbytes : Text.bytes g.document = Text.bytes g.documentBody ++ [10] := bytes_document g
  rw [utf8ByteSize_document]
  rcases Nat.lt_trichotomy s.room (Text.bytes g.documentBody).length with hlt | heq | hgt
  · have htake : (Text.bytes g.document).take s.room =
        (Text.bytes g.documentBody).take s.room := by
      rw [hbytes, List.take_append_of_le_length (Nat.le_of_lt hlt)]
    rw [writeTo_cutShort hlt, htake, if_neg (by omega), if_neg (by omega)]
  · have htake : (Text.bytes g.document).take s.room = Text.bytes g.documentBody := by
      rw [hbytes, heq, List.take_left]
    rw [writeTo_io heq, htake, if_neg (by omega), if_pos (by omega)]
  · have htake : (Text.bytes g.document).take s.room = Text.bytes g.document := by
      apply List.take_of_length_le
      rw [hbytes, List.length_append, List.length_singleton]
      omega
    rw [writeTo_ok hgt, htake, if_pos (by omega)]

end Writing

/--
A sink that fills up has received the first bytes of the document, as many as it takes, even if they
end inside of a character. Only if all but the last byte fit, it is the line feed at the end that
cannot be written, and before that the document itself is cut short.
-/
theorem writeTo_limit (g : Grammar) (limit : Nat) (reason : String) :
    let size := g.document.utf8ByteSize
    let written := g.writeTo { limit, reason }
    written.1.received = (Text.bytes g.document).take (min limit size) ∧
      (written.2 = .ok () ↔ size ≤ limit) ∧
      (written.2 = .error (.io reason) ↔ limit + 1 = size) ∧
      (written.2 = .error (.cutShort reason) ↔ limit + 1 < size) := by
  dsimp only
  have hreceived : ((Text.bytes g.document).take limit) =
      (Text.bytes g.document).take (min limit g.document.utf8ByteSize) := by
    rw [← Text.length_bytes, List.take_eq_take_min]
  rw [writeTo_eq, Sink.room_empty]
  refine ⟨hreceived, ?_⟩
  split_ifs with hall hfeed
  · simp
    omega
  · simp
    omega
  · simp
    omega

end Grammar

end TextMate
