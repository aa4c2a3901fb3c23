import TextMate.Proofs.Json.Values

/-! Both written forms of a tree are texts of its value. -/
namespace TextMate.Json

mutual

def toValue : Json → Value
  | .text value => .scalar (.text value)
  | .list items => .list (itemValues items)
  | .object members => .object (memberValues members)

def itemValues : List Json → List Value
  | [] => []
  | j :: rest => j.toValue :: itemValues rest

def memberValues : List (String × Json) → List (String × Value)
  | [] => []
  | (key, j) :: rest => (key, j.toValue) :: memberValues rest

end

mutual

/-- The tokens of both written forms. -/
def tokens : Json → List Token
  | .text value => [.scalar (.text value)]
  | .list [] => [.mark .listStart, .mark .listEnd]
  | .list (j :: rest) => .mark .listStart :: j.tokens ++ itemTokens rest
  | .object [] => [.mark .objectStart, .mark .objectEnd]
  | .object ((key, j) :: rest) =>
    .mark .objectStart :: .scalar (.text key) :: .mark .colon :: j.tokens ++ memberTokens rest

def itemTokens : List Json → List Token
  | [] => [.mark .listEnd]
  | j :: rest => .mark .comma :: j.tokens ++ itemTokens rest

def memberTokens : List (String × Json) → List Token
  | [] => [.mark .objectEnd]
  | (key, j) :: rest =>
    .mark .comma :: .scalar (.text key) :: .mark .colon :: j.tokens ++ memberTokens rest

end

section Strings

theorem hexValue?_hexDigit : ∀ n < 16, hexValue? (hexDigit n) = some n := by
  decide

theorem spelling_escapeChar (c : Char) : Spelling c (escapeChar c) := by
  unfold escapeChar
  split_ifs with hquote hescape hback htab hline hpage hreturn hcontrol
  · exact .escaped (by rw [hquote]; rfl)
  · exact .escaped (by rw [hescape]; rfl)
  · exact .escaped (by rw [hback]; rfl)
  · exact .escaped (by rw [htab]; rfl)
  · exact .escaped (by rw [hline]; rfl)
  · exact .escaped (by rw [hpage]; rfl)
  · exact .escaped (by rw [hreturn]; rfl)
  · have hhigh := hexValue?_hexDigit (c.toNat / 16) (by omega)
    have hlow := hexValue?_hexDigit (c.toNat % 16) (by omega)
    have hzero : hexValue? '0' = some 0 := rfl
    refine .unit ?_
    simp only [unit?, hzero, hhigh, hlow]
    congr 2
    omega
  · exact .plain (by omega) hquote hescape

theorem body_flatMap (s : List Char) : Body s (s.flatMap escapeChar) := by
  induction s with
  | nil => exact .nil
  | cons c s ih => exact .cons (spelling_escapeChar c) ih

variable {ts : List Token} {cs : List Char}

theorem spells_quote (s : String) (h : Spells ts cs) :
    Spells (.scalar (.text s) :: ts) (quote s ++ cs) := by
  have htext := Spells.text (body_flatMap s.toList) h
  unfold quote
  simpa using htext

theorem spells_newline (depth : Nat) (h : Spells ts cs) : Spells ts (newline depth ++ cs) := by
  refine .blank rfl ?_
  induction depth with
  | zero => exact h
  | succ depth ih => exact .blank rfl ih

end Strings

section Trees

mutual

/-- Without blanks, a tree is written as its tokens. -/
theorem spells_compact {ts : List Token} {cs : List Char} (h : Spells ts cs) :
    (j : Json) → Spells (j.tokens ++ ts) (j.compact ++ cs)
  | .text value => by
    rw [tokens, compact]
    exact spells_quote value h
  | .list [] => by
    rw [tokens, compact]
    exact .mark rfl (.mark rfl h)
  | .list (j :: rest) => by
    rw [tokens, compact, List.append_assoc, List.append_assoc]
    exact .mark rfl (spells_compact (spells_compactItems h rest) j)
  | .object [] => by
    rw [tokens, compact]
    exact .mark rfl (.mark rfl h)
  | .object ((key, j) :: rest) => by
    rw [tokens, compact]
    simp only [List.cons_append, List.append_assoc]
    have hrest := spells_compact (spells_compactMembers h rest) j
    exact .mark rfl (spells_quote key (.mark rfl hrest))

theorem spells_compactItems {ts : List Token} {cs : List Char} (h : Spells ts cs) :
    (items : List Json) → Spells (itemTokens items ++ ts) (compactItems items ++ cs)
  | [] => by
    rw [itemTokens, compactItems]
    exact .mark rfl h
  | j :: rest => by
    rw [itemTokens, compactItems, List.append_assoc, List.append_assoc]
    exact .mark rfl (spells_compact (spells_compactItems h rest) j)

theorem spells_compactMembers {ts : List Token} {cs : List Char} (h : Spells ts cs) :
    (members : List (String × Json)) →
      Spells (memberTokens members ++ ts) (compactMembers members ++ cs)
  | [] => by
    rw [memberTokens, compactMembers]
    exact .mark rfl h
  | (key, j) :: rest => by
    rw [memberTokens, compactMembers]
    simp only [List.cons_append, List.append_assoc]
    have hrest := spells_compact (spells_compactMembers h rest) j
    exact .mark rfl (spells_quote key (.mark rfl hrest))

end

mutual

/-- In lines, a tree is written as the same tokens. -/
theorem spells_indented {ts : List Token} {cs : List Char} (h : Spells ts cs) (depth : Nat) :
    (j : Json) → Spells (j.tokens ++ ts) (j.indented depth ++ cs)
  | .text value => by
    rw [tokens, indented]
    exact spells_quote value h
  | .list [] => by
    rw [tokens, indented]
    exact .mark rfl (.mark rfl h)
  | .list (j :: rest) => by
    rw [tokens, indented]
    simp only [List.cons_append, List.append_assoc]
    have hrest := spells_indented (spells_indentedItems h depth rest) (depth + 1) j
    exact .mark rfl (spells_newline _ hrest)
  | .object [] => by
    rw [tokens, indented]
    exact .mark rfl (.mark rfl h)
  | .object ((key, j) :: rest) => by
    rw [tokens, indented]
    simp only [List.cons_append, List.append_assoc]
    have hrest := spells_indented (spells_indentedMembers h depth rest) (depth + 1) j
    exact .mark rfl (spells_newline _ (spells_quote key (.mark rfl (.blank rfl hrest))))

theorem spells_indentedItems {ts : List Token} {cs : List Char} (h : Spells ts cs) (depth : Nat) :
    (items : List Json) → Spells (itemTokens items ++ ts) (indentedItems depth items ++ cs)
  | [] => by
    rw [itemTokens, indentedItems, List.append_assoc]
    exact spells_newline depth (.mark rfl h)
  | j :: rest => by
    rw [itemTokens, indentedItems]
    simp only [List.cons_append, List.append_assoc]
    have hrest := spells_indented (spells_indentedItems h depth rest) (depth + 1) j
    exact .mark rfl (spells_newline _ hrest)

theorem spells_indentedMembers {ts : List Token} {cs : List Char} (h : Spells ts cs)
    (depth : Nat) :
    (members : List (String × Json)) →
      Spells (memberTokens members ++ ts) (indentedMembers depth members ++ cs)
  | [] => by
    rw [memberTokens, indentedMembers, List.append_assoc]
    exact spells_newline depth (.mark rfl h)
  | (key, j) :: rest => by
    rw [memberTokens, indentedMembers]
    simp only [List.cons_append, List.append_assoc]
    have hrest := spells_indented (spells_indentedMembers h depth rest) (depth + 1) j
    exact .mark rfl (spells_newline _ (spells_quote key (.mark rfl (.blank rfl hrest))))

end

mutual

/-- The tokens of a tree stand for its value. -/
theorem derives_tokens (rest : List Token) :
    (j : Json) → Derives (.value j.toValue) (j.tokens ++ rest) rest
  | .text value => by
    rw [tokens, toValue]
    exact .scalar
  | .list [] => by
    rw [tokens, toValue, itemValues]
    exact .emptyList
  | .list (j :: items) => by
    rw [tokens, toValue, itemValues, List.append_assoc]
    exact .list (derives_itemTokens items (derives_tokens _ j))
  | .object [] => by
    rw [tokens, toValue, memberValues]
    exact .emptyObject
  | .object ((key, j) :: members) => by
    rw [tokens, toValue, memberValues]
    simp only [List.cons_append, List.append_assoc]
    exact .object (derives_memberTokens members (derives_tokens _ j))

theorem derives_itemTokens {v : Value} {ts rest : List Token} :
    (items : List Json) → (h : Derives (.value v) ts (itemTokens items ++ rest)) →
      Derives (.items (v :: itemValues items)) ts rest
  | [], h => .lastItem h
  | j :: items, h => by
    rw [itemTokens] at h
    simp only [List.cons_append, List.append_assoc] at h
    rw [itemValues]
    exact .item h (derives_itemTokens items (derives_tokens _ j))

theorem derives_memberTokens {key : String} {v : Value} {ts rest : List Token} :
    (members : List (String × Json)) →
      (h : Derives (.value v) ts (memberTokens members ++ rest)) →
      Derives (.members ((key, v) :: memberValues members))
        (.scalar (.text key) :: .mark .colon :: ts) rest
  | [], h => .lastMember h
  | (key', j) :: members, h => by
    rw [memberTokens] at h
    simp only [List.cons_append, List.append_assoc] at h
    rw [memberValues]
    exact .member h (derives_memberTokens members (derives_tokens _ j))

end

/-- The compact form of a tree is read as the value of the tree. -/
theorem parse?_compact (j : Json) : parse? j.compact = some j.toValue := by
  have hspells := spells_compact .nil j
  have hderives := derives_tokens [] j
  rw [List.append_nil] at hderives
  rw [List.append_nil, List.append_nil] at hspells
  exact parse?_eq_some_iff.2 ⟨j.tokens, hspells, hderives⟩

/-- And so is the form in lines, before a line feed. -/
theorem parse?_indented (j : Json) : parse? (j.indented 0 ++ ['\n']) = some j.toValue := by
  have hspells := spells_indented (.blank (c := '\n') rfl .nil) 0 j
  have hderives := derives_tokens [] j
  rw [List.append_nil] at hspells hderives
  exact parse?_eq_some_iff.2 ⟨j.tokens, hspells, hderives⟩

end Trees

end TextMate.Json
