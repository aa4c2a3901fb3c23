/-! Findings about repository entries that do not stop a run by themselves. -/
namespace TextMate

inductive FindingKind where
  /-- Nothing reaches the entry, and it is removed. -/
  | unused
  /-- The entry is used once but was not inlined, and it is kept. -/
  | singleUse
deriving DecidableEq, Inhabited

namespace FindingKind

def all : List FindingKind := [.unused, .singleUse]

def label : FindingKind → String
  | .unused => "unused"
  | .singleUse => "single-use"

def ofLabel? (label : String) : Option FindingKind := all.find? (·.label = label)

/-- The place of a kind among the findings about one entry. -/
def rank : FindingKind → Nat
  | .unused => 0
  | .singleUse => 1

end FindingKind

/-- A set of kinds. -/
structure FindingSet where
  unused : Bool := false
  singleUse : Bool := false
deriving DecidableEq, Inhabited

namespace FindingSet

def none : FindingSet := ⟨false, false⟩

def all : FindingSet := ⟨true, true⟩

def contains (s : FindingSet) : FindingKind → Bool
  | .unused => s.unused
  | .singleUse => s.singleUse

def insert (s : FindingSet) : FindingKind → FindingSet
  | .unused => { s with unused := true }
  | .singleUse => { s with singleUse := true }

def singleton (k : FindingKind) : FindingSet := none.insert k

def toList (s : FindingSet) : List FindingKind := FindingKind.all.filter s.contains

/-- The set of the two lowest bits; higher bits mean nothing. -/
def ofBits (bits : Nat) : FindingSet := ⟨bits.testBit 0, bits.testBit 1⟩

def bits (s : FindingSet) : Nat := s.unused.toNat + 2 * s.singleUse.toNat

end FindingSet

structure Finding where
  kind : FindingKind
  rule : String
deriving DecidableEq, Inhabited

namespace Finding

def message (d : Finding) : String :=
  match d.kind with
  | .unused => "unused rule: " ++ d.rule
  | .singleUse => "rule used only once: " ++ d.rule

/-- By rule name, then by kind. -/
def le (a b : Finding) : Bool :=
  if a.rule = b.rule then a.kind.rank ≤ b.kind.rank else a.rule < b.rule

def sort (findings : List Finding) : List Finding := findings.mergeSort le

end Finding

end TextMate
