import TextMate.Proofs.Json.Tokens

/-! The values of JSON texts, and a parser that accepts these texts and no others. -/
namespace TextMate.Json

inductive Value where
  | scalar (value : Scalar)
  | list (items : List Value)
  /-- Members stand in the order in which they are written. -/
  | object (members : List (String × Value))

/-- A value, or what follows the opening of a list or of an object that is not empty. -/
inductive Part where
  | value (value : Value)
  | items (values : List Value)
  | members (members : List (String × Value))

/-- The part may be read from the front of the first tokens, and the second ones are left. -/
inductive Derives : Part → List Token → List Token → Prop
  | scalar {s : Scalar} {rest : List Token} :
    Derives (.value (.scalar s)) (.scalar s :: rest) rest
  | emptyList {rest : List Token} :
    Derives (.value (.list [])) (.mark .listStart :: .mark .listEnd :: rest) rest
  | list {vs : List Value} {ts rest : List Token} (h : Derives (.items vs) ts rest) :
    Derives (.value (.list vs)) (.mark .listStart :: ts) rest
  | emptyObject {rest : List Token} :
    Derives (.value (.object [])) (.mark .objectStart :: .mark .objectEnd :: rest) rest
  | object {ms : List (String × Value)} {ts rest : List Token}
    (h : Derives (.members ms) ts rest) :
    Derives (.value (.object ms)) (.mark .objectStart :: ts) rest
  | lastItem {v : Value} {ts rest : List Token}
    (h : Derives (.value v) ts (.mark .listEnd :: rest)) : Derives (.items [v]) ts rest
  | item {v : Value} {vs : List Value} {ts ts' rest : List Token}
    (h : Derives (.value v) ts (.mark .comma :: ts')) (hrest : Derives (.items vs) ts' rest) :
    Derives (.items (v :: vs)) ts rest
  | lastMember {key : String} {v : Value} {ts rest : List Token}
    (h : Derives (.value v) ts (.mark .objectEnd :: rest)) :
    Derives (.members [(key, v)]) (.scalar (.text key) :: .mark .colon :: ts) rest
  | member {key : String} {v : Value} {ms : List (String × Value)} {ts ts' rest : List Token}
    (h : Derives (.value v) ts (.mark .comma :: ts')) (hrest : Derives (.members ms) ts' rest) :
    Derives (.members ((key, v) :: ms)) (.scalar (.text key) :: .mark .colon :: ts) rest

/-- The texts that stand for the value. -/
def IsText (cs : List Char) (v : Value) : Prop :=
  ∃ ts, Spells ts cs ∧ Derives (.value v) ts []

mutual

/-- No value nests deeper than it has tokens, so `depth` may start as the number of tokens. -/
def value? : (depth : Nat) → List Token → Option (Value × List Token)
  | 0, _ => none
  | depth + 1, ts =>
    match ts with
    | .scalar s :: rest => some (.scalar s, rest)
    | .mark .listStart :: .mark .listEnd :: rest => some (.list [], rest)
    | .mark .listStart :: rest => (items? depth rest).map fun p => (.list p.1, p.2)
    | .mark .objectStart :: .mark .objectEnd :: rest => some (.object [], rest)
    | .mark .objectStart :: rest => (members? depth rest).map fun p => (.object p.1, p.2)
    | _ => none

def items? : (depth : Nat) → List Token → Option (List Value × List Token)
  | 0, _ => none
  | depth + 1, ts =>
    match value? depth ts with
    | some (v, .mark .comma :: rest) => (items? depth rest).map fun p => (v :: p.1, p.2)
    | some (v, .mark .listEnd :: rest) => some ([v], rest)
    | _ => none

def members? : (depth : Nat) → List Token → Option (List (String × Value) × List Token)
  | 0, _ => none
  | depth + 1, ts =>
    match ts with
    | .scalar (.text key) :: .mark .colon :: ts =>
      match value? depth ts with
      | some (v, .mark .comma :: rest) =>
        (members? depth rest).map fun p => ((key, v) :: p.1, p.2)
      | some (v, .mark .objectEnd :: rest) => some ([(key, v)], rest)
      | _ => none
    | _ => none

end

/-- The value of a whole text. -/
def parse? (cs : List Char) : Option Value :=
  match tokens? cs with
  | none => none
  | some ts =>
    match value? ts.length ts with
    | some (v, []) => some v
    | _ => none

/-- The parser finds the part and leaves the second tokens. -/
def Part.Parsed (depth : Nat) (ts rest : List Token) : Part → Prop
  | .value v => value? depth ts = some (v, rest)
  | .items vs => items? depth ts = some (vs, rest)
  | .members ms => members? depth ts = some (ms, rest)

variable {p : Part} {ts rest : List Token} {depth : Nat}

theorem derives_of_parsed (h : p.Parsed depth ts rest) : Derives p ts rest := by
  induction depth generalizing p ts rest with
  | zero => cases p <;> cases h
  | succ depth ih =>
    cases p with
    | value v =>
      change value? (depth + 1) ts = some (v, rest) at h
      unfold value? at h
      split at h
      · cases h
        exact .scalar
      · cases h
        exact .emptyList
      · obtain ⟨⟨vs, rest'⟩, hitems, heq⟩ := Option.map_eq_some_iff.1 h
        cases heq
        exact .list (ih (p := .items vs) hitems)
      · cases h
        exact .emptyObject
      · obtain ⟨⟨ms, rest'⟩, hmembers, heq⟩ := Option.map_eq_some_iff.1 h
        cases heq
        exact .object (ih (p := .members ms) hmembers)
      · cases h
    | items vs =>
      change items? (depth + 1) ts = some (vs, rest) at h
      unfold items? at h
      split at h
      · rename_i v ts' hv
        obtain ⟨⟨vs', rest'⟩, hitems, heq⟩ := Option.map_eq_some_iff.1 h
        cases heq
        exact .item (ih (p := .value v) hv) (ih (p := .items vs') hitems)
      · rename_i v rest' hv
        cases h
        exact .lastItem (ih (p := .value v) hv)
      · cases h
    | members ms =>
      change members? (depth + 1) ts = some (ms, rest) at h
      unfold members? at h
      split at h
      · split at h
        · rename_i v ts' hv
          obtain ⟨⟨ms', rest'⟩, hmembers, heq⟩ := Option.map_eq_some_iff.1 h
          cases heq
          exact .member (ih (p := .value v) hv) (ih (p := .members ms') hmembers)
        · rename_i v rest' hv
          cases h
          exact .lastMember (ih (p := .value v) hv)
        · cases h
      · cases h

/-- Reading a part uses up tokens. -/
theorem Derives.length_lt (h : Derives p ts rest) : rest.length < ts.length := by
  induction h with
  | scalar => exact Nat.lt_succ_self _
  | emptyList => exact Nat.lt_succ_of_lt (Nat.lt_succ_self _)
  | list h ih => exact Nat.lt_succ_of_lt ih
  | emptyObject => exact Nat.lt_succ_of_lt (Nat.lt_succ_self _)
  | object h ih => exact Nat.lt_succ_of_lt ih
  | lastItem h ih => exact Nat.lt_of_succ_lt ih
  | item h hrest ih ihrest => exact ihrest.trans (Nat.lt_of_succ_lt ih)
  | lastMember h ih =>
    simp only [List.length_cons] at ih ⊢
    omega
  | member h hrest ih ihrest =>
    simp only [List.length_cons] at ih ⊢
    omega

/-- No part starts where a list or an object ends. -/
theorem Derives.not_end (h : Derives p ts rest) (rest' : List Token) :
    ts ≠ .mark .listEnd :: rest' ∧ ts ≠ .mark .objectEnd :: rest' := by
  induction h with
  | lastItem h ih => exact ih
  | item h hrest ih ihrest => exact ih
  | _ => exact ⟨nofun, nofun⟩

theorem Derives.exists_depth (h : Derives p ts rest)
    (hdepth : ts.length ≤ depth + rest.length) : ∃ d, depth = d + 1 := by
  have hlt := h.length_lt
  exact ⟨depth - 1, by omega⟩

theorem Derives.parsed (h : Derives p ts rest) (hdepth : ts.length ≤ depth + rest.length) :
    p.Parsed depth ts rest := by
  induction h generalizing depth with
  | scalar =>
    obtain ⟨d, rfl⟩ := Derives.scalar.exists_depth hdepth
    rfl
  | emptyList =>
    obtain ⟨d, rfl⟩ := Derives.emptyList.exists_depth hdepth
    rfl
  | @list vs ts rest h ih =>
    obtain ⟨d, rfl⟩ := (Derives.list h).exists_depth hdepth
    rw [List.length_cons] at hdepth
    have hitems : items? d ts = some (vs, rest) := ih (by omega)
    change value? (d + 1) (.mark .listStart :: ts) = some (.list vs, rest)
    rw [value?, hitems]
    · rfl
    · exact fun rest' => (h.not_end rest').1
  | emptyObject =>
    obtain ⟨d, rfl⟩ := Derives.emptyObject.exists_depth hdepth
    rfl
  | @object ms ts rest h ih =>
    obtain ⟨d, rfl⟩ := (Derives.object h).exists_depth hdepth
    rw [List.length_cons] at hdepth
    have hmembers : members? d ts = some (ms, rest) := ih (by omega)
    change value? (d + 1) (.mark .objectStart :: ts) = some (.object ms, rest)
    rw [value?, hmembers]
    · rfl
    · exact fun rest' => (h.not_end rest').2
  | @lastItem v ts rest h ih =>
    obtain ⟨d, rfl⟩ := (Derives.lastItem h).exists_depth hdepth
    have hv : value? d ts = some (v, .mark .listEnd :: rest) :=
      ih (by rw [List.length_cons]; omega)
    change items? (d + 1) ts = some ([v], rest)
    rw [items?, hv]
  | @item v vs ts ts' rest h hrest ih ihrest =>
    obtain ⟨d, rfl⟩ := (Derives.item h hrest).exists_depth hdepth
    have hlt := h.length_lt
    have hlt' := hrest.length_lt
    rw [List.length_cons] at hlt
    have hv : value? d ts = some (v, .mark .comma :: ts') :=
      ih (by rw [List.length_cons]; omega)
    have hitems : items? d ts' = some (vs, rest) := ihrest (by omega)
    change items? (d + 1) ts = some (v :: vs, rest)
    rw [items?, hv]
    simp only [hitems, Option.map_some]
  | @lastMember key v ts rest h ih =>
    obtain ⟨d, rfl⟩ := (Derives.lastMember h).exists_depth hdepth
    simp only [List.length_cons] at hdepth
    have hv : value? d ts = some (v, .mark .objectEnd :: rest) :=
      ih (by rw [List.length_cons]; omega)
    change members? (d + 1) (.scalar (.text key) :: .mark .colon :: ts) = some ([(key, v)], rest)
    rw [members?, hv]
  | @member key v ms ts ts' rest h hrest ih ihrest =>
    obtain ⟨d, rfl⟩ := (Derives.member h hrest).exists_depth hdepth
    have hlt := h.length_lt
    have hlt' := hrest.length_lt
    simp only [List.length_cons] at hdepth hlt
    have hv : value? d ts = some (v, .mark .comma :: ts') :=
      ih (by rw [List.length_cons]; omega)
    have hmembers : members? d ts' = some (ms, rest) := ihrest (by omega)
    change members? (d + 1) (.scalar (.text key) :: .mark .colon :: ts) =
      some ((key, v) :: ms, rest)
    rw [members?, hv]
    simp only [hmembers, Option.map_some]

/-- The parser accepts the texts of values, each as the value it stands for. -/
theorem parse?_eq_some_iff {cs : List Char} {v : Value} : parse? cs = some v ↔ IsText cs v := by
  constructor
  · intro h
    unfold parse? at h
    split at h
    · cases h
    · rename_i ts hts
      split at h
      · rename_i v' hv
        cases h
        exact ⟨ts, tokens?_eq_some_iff.1 hts, derives_of_parsed (p := .value v) hv⟩
      · cases h
  · rintro ⟨ts, hts, hv⟩
    have hvalue : value? ts.length ts = some (v, []) := hv.parsed (Nat.le_refl _)
    unfold parse?
    rw [tokens?_eq_some_iff.2 hts]
    simp only [hvalue]

end TextMate.Json
