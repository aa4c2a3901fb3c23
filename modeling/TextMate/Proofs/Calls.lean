import TextMate.Proofs.Conservation
import TextMate.Proofs.Pass

/-!
The calls that a pass makes, with the stack of the bodies under way and without any bound on its
height: in which states they are made, that each of them comes back, and that the bound with which a
pass runs is never reached.
-/
namespace TextMate.Compaction

/-- A pass at work. -/
structure Machine where
  /-- The names of the bodies under way, the innermost first. -/
  active : List String
  state : State

namespace Machine

def start (repository : Repository) : Machine := ⟨[], { repository }⟩

/-- The body of an entry goes under way. -/
def enter (m : Machine) (name : String) : Machine := ⟨name :: m.active, takeOut name m.state⟩

/-- The innermost body is under way no longer. -/
def leave (m : Machine) : Machine := ⟨m.active.tail, m.state⟩

def update (m : Machine) (f : State → State) : Machine := ⟨m.active, f m.state⟩

end Machine

/-- The name stays an entry and its body has another form now. -/
abbrev Machine.restore (m : Machine) (name : String) (body : Rule) : Machine :=
  m.leave.update (putBack name body)

/-- The name is no entry any more, because its body stands for its include. -/
abbrev Machine.inline (m : Machine) (name : String) : Machine :=
  m.leave.update fun s => { s with inlined := s.inlined ++ [name] }

/--
How the compaction of a list of rules ends, with one case for each way through a call. After an error
the rules behind are left alone.
-/
inductive Ends (counts : UseCounts) :
    Machine → List Rule → Machine → Except GrammarError (List Rule) → Prop
  | nil {m : Machine} : Ends counts m [] m (.ok [])
  | inside {m m₁ m₂ : Machine} {r r' : Rule} {rest : List Rule}
    {result : Except GrammarError (List Rule)} (href : r.reference? = none)
    (hchildren : Ends counts m r.children m₁ (.ok r'.children))
    (hnode : r'.withoutChildren = r.withoutChildren) (hrest : Ends counts m₁ rest m₂ result) :
    Ends counts m (r :: rest) m₂ (result.map (r' :: ·))
  | insideFails {m m₁ : Machine} {r : Rule} {rest : List Rule} {e : GrammarError}
    (href : r.reference? = none) (hchildren : Ends counts m r.children m₁ (.error e)) :
    Ends counts m (r :: rest) m₁ (.error e)
  | kept {m m₁ : Machine} {name : String} {tag : Option String} {rest : List Rule}
    {result : Except GrammarError (List Rule)} (hone : counts.get name ≠ 1)
    (hrest : Ends counts m rest m₁ result) :
    Ends counts m (.reference (.entry name) tag :: rest) m₁
      (result.map (.reference (.entry name) tag :: ·))
  | pinned {m m₁ : Machine} {name : String} {tag : Option String} {rest : List Rule}
    {result : Except GrammarError (List Rule)} (hone : counts.get name = 1)
    (hactive : name ∈ m.active) (hrest : Ends counts (m.update (pin name)) rest m₁ result) :
    Ends counts m (.reference (.entry name) tag :: rest) m₁
      (result.map (.reference (.entry name) tag :: ·))
  | missing {m : Machine} {name : String} {tag : Option String} {rest : List Rule}
    (hone : counts.get name = 1) (hactive : name ∉ m.active)
    (hb : m.state.repository.get? name = none) :
    Ends counts m (.reference (.entry name) tag :: rest) m (.error (.unresolved name))
  | bodyFails {m m₁ : Machine} {name : String} {tag : Option String} {body : Rule}
    {rest : List Rule} {e : GrammarError} (hone : counts.get name = 1) (hactive : name ∉ m.active)
    (hb : m.state.repository.get? name = some body)
    (hbody : Ends counts (m.enter name) [body] m₁ (.error e)) :
    Ends counts m (.reference (.entry name) tag :: rest) m₁.leave (.error e)
  | restored {m m₁ m₂ : Machine} {name : String} {tag : Option String} {body body' : Rule}
    {rest : List Rule} {result : Except GrammarError (List Rule)} (hone : counts.get name = 1)
    (hactive : name ∉ m.active) (hb : m.state.repository.get? name = some body)
    (hbody : Ends counts (m.enter name) [body] m₁ (.ok [body']))
    (hpinned : name ∈ m₁.state.pinned) (hrest : Ends counts (m₁.restore name body') rest m₂ result) :
    Ends counts m (.reference (.entry name) tag :: rest) m₂
      (result.map (.reference (.entry name) tag :: ·))
  | inlined {m m₁ m₂ : Machine} {name : String} {tag : Option String} {body body' : Rule}
    {rest : List Rule} {result : Except GrammarError (List Rule)} (hone : counts.get name = 1)
    (hactive : name ∉ m.active) (hb : m.state.repository.get? name = some body)
    (hbody : Ends counts (m.enter name) [body] m₁ (.ok [body']))
    (hpinned : name ∉ m₁.state.pinned) (hrest : Ends counts (m₁.inline name) rest m₂ result) :
    Ends counts m (.reference (.entry name) tag :: rest) m₂ (result.map (body' :: ·))

section Ends

variable {counts : UseCounts} {m m' : Machine} {rs : List Rule}
  {result : Except GrammarError (List Rule)}

/-- Whatever goes on the stack comes off it again, after an error too. -/
theorem Ends.active_eq (h : Ends counts m rs m' result) : m'.active = m.active := by
  induction h with
  | nil => rfl
  | inside href hchildren hnode hrest ihchildren ihrest => exact ihrest.trans ihchildren
  | insideFails href hchildren ih => exact ih
  | kept hone hrest ih => exact ih
  | pinned hone hactive hrest ih => exact ih
  | missing hone hactive hb => rfl
  | bodyFails hone hactive hb hbody ih => exact congrArg List.tail ih
  | restored hone hactive hb hbody hpinned hrest ihbody ihrest =>
    exact ihrest.trans (congrArg List.tail ihbody)
  | inlined hone hactive hb hbody hpinned hrest ihbody ihrest =>
    exact ihrest.trans (congrArg List.tail ihbody)

theorem keys_enter (m : Machine) (name : String) :
    (m.enter name).state.repository.keys ⊆ m.state.repository.keys := by
  intro n hn
  rw [Table.mem_keys_iff, Option.isSome_iff_exists] at hn ⊢
  obtain ⟨body, hb⟩ := hn
  exact ⟨body, Table.get?_of_erase hb⟩

theorem keys_restore {name : String} (body : Rule) {keys : List String} (hname : name ∈ keys)
    (hm : m.state.repository.keys ⊆ keys) :
    (m.restore name body).state.repository.keys ⊆ keys := by
  intro n hn
  have hn : (Table.get? (m.state.repository.insert name body) n).isSome := Table.mem_keys_iff.1 hn
  rw [Table.get?_insert] at hn
  split at hn
  · rename_i heq
    exact heq ▸ hname
  · exact hm (Table.mem_keys_iff.2 hn)

/-- No name becomes an entry that was none. -/
theorem Ends.keys_subset (h : Ends counts m rs m' result) :
    m'.state.repository.keys ⊆ m.state.repository.keys := by
  induction h with
  | nil => exact List.Subset.refl _
  | inside href hchildren hnode hrest ihchildren ihrest => exact List.Subset.trans ihrest ihchildren
  | insideFails href hchildren ih => exact ih
  | kept hone hrest ih => exact ih
  | pinned hone hactive hrest ih => exact ih
  | missing hone hactive hb => exact List.Subset.refl _
  | bodyFails hone hactive hb hbody ih => exact List.Subset.trans ih (keys_enter _ _)
  | restored hone hactive hb hbody hpinned hrest ihbody ihrest =>
    have hinner := List.Subset.trans ihbody (keys_enter _ _)
    exact List.Subset.trans ihrest (keys_restore _ (Table.mem_keys_of_get? hb) hinner)
  | inlined hone hactive hb hbody hpinned hrest ihbody ihrest =>
    exact List.Subset.trans ihrest (List.Subset.trans ihbody (keys_enter _ _))

theorem Ends.size_le (h : Ends counts m rs m' result) :
    m'.state.repository.size ≤ m.state.repository.size :=
  Table.size_le_of_keys_subset h.keys_subset

end Ends

section Runs

variable {counts : UseCounts} {depth : Nat} {active : List String} {name : String}
  {tag : Option String} {r r' : Rule} {rest : List Rule} {s s₁ s' : State}

theorem run_expand_kept (hone : counts.get name ≠ 1) :
    (expand counts depth active (.entry name) tag).run s =
      .ok (.reference (.entry name) tag, s) := by
  cases depth with
  | zero => rw [expand_zero, replace_kept hone]; rfl
  | succ depth => rw [expand_succ, replace_kept hone]; rfl

theorem run_replace_pinned {inline : String → Option String → Step Rule}
    (hone : counts.get name = 1) (ha : name ∈ active) :
    (replace counts active inline (.entry name) tag).run s =
      .ok (.reference (.entry name) tag, pin name s) := by
  rw [replace, if_neg (not_not_intro hone), if_pos ha]
  rfl

theorem run_expand_pinned (hone : counts.get name = 1) (ha : name ∈ active) :
    (expand counts depth active (.entry name) tag).run s =
      .ok (.reference (.entry name) tag, pin name s) := by
  cases depth with
  | zero => exact run_replace_pinned hone ha
  | succ depth => exact run_replace_pinned hone ha

theorem run_expand_missing (hone : counts.get name = 1) (ha : name ∉ active)
    (hb : s.repository.get? name = none) :
    (expand counts depth active (.entry name) tag).run s = .error (.unresolved name) := by
  cases depth with
  | zero => rw [expand_zero, replace_once hone ha]; rfl
  | succ depth =>
    rw [expand_succ, replace_once hone ha, inlineEntry, inlineEntryM, run_get_bind, hb]
    rfl

theorem expand_once (hone : counts.get name = 1) (ha : name ∉ active) :
    expand counts (depth + 1) active (.entry name) tag =
      inlineEntry (Rule.mapIncludesM (expand counts depth (name :: active))) name tag := by
  rw [expand_succ, replace_once hone ha]

theorem run_inlineEntry_pinned {settle : Rule → Step Rule} {body result : Rule}
    (hb : s.repository.get? name = some body)
    (hr : (settle body).run (takeOut name s) = .ok (result, s')) (hp : name ∈ s'.pinned) :
    (inlineEntry settle name tag).run s =
      .ok (.reference (.entry name) tag, putBack name result s') := by
  unfold inlineEntry inlineEntryM
  rw [run_get_bind]
  simp only [hb]
  rw [run_modify_bind, run_bind_ok hr, run_get_bind, if_pos hp]
  rfl

theorem run_inlineEntry_error {settle : Rule → Step Rule} {body : Rule} {e : GrammarError}
    (hb : s.repository.get? name = some body)
    (hr : (settle body).run (takeOut name s) = .error e) :
    (inlineEntry settle name tag).run s = .error e := by
  unfold inlineEntry inlineEntryM
  rw [run_get_bind]
  simp only [hb]
  rw [run_modify_bind, StateT.run_bind, hr]
  rfl

theorem run_expand_children (href : r.reference? = none) :
    (Rule.mapIncludesListM (expand counts depth active) r.children).run s =
      ((Rule.mapIncludesM (expand counts depth active) r).run s).map
        fun p => (p.1.children, p.2) := by
  cases r with
  | reference target name =>
    cases target with
    | entry n => cases href
    | external text => cases depth <;> rfl
  | leaf r => exact Rule.run_mapIncludesListM_children nofun
  | region r => exact Rule.run_mapIncludesListM_children nofun
  | group r => exact Rule.run_mapIncludesListM_children nofun

theorem withoutChildren_of_run_expand (href : r.reference? = none)
    (h : (Rule.mapIncludesM (expand counts depth active) r).run s = .ok (r', s')) :
    r'.withoutChildren = r.withoutChildren := by
  cases r with
  | reference target name =>
    cases target with
    | entry n => cases href
    | external text => cases depth <;> cases h <;> rfl
  | leaf r => exact Rule.withoutChildren_of_mapIncludesM nofun h
  | region r => exact Rule.withoutChildren_of_mapIncludesM nofun h
  | group r => exact Rule.withoutChildren_of_mapIncludesM nofun h

section Lists

variable {f : Include → Option String → Step Rule}

theorem run_mapIncludesListM_cons (hr : (Rule.mapIncludesM f r).run s = .ok (r', s₁)) :
    (Rule.mapIncludesListM f (r :: rest)).run s =
      ((Rule.mapIncludesListM f rest).run s₁).map fun p => (r' :: p.1, p.2) := by
  rw [Rule.mapIncludesListM, run_bind_ok hr, StateT.run_bind]
  cases (Rule.mapIncludesListM f rest).run s₁ <;> rfl

theorem run_mapIncludesListM_cons_map {result : Except GrammarError (List Rule)}
    (hr : (Rule.mapIncludesM f r).run s = .ok (r', s₁))
    (hrest : (Rule.mapIncludesListM f rest).run s₁ = result.map fun rules => (rules, s')) :
    (Rule.mapIncludesListM f (r :: rest)).run s =
      (result.map (r' :: ·)).map fun rules => (rules, s') := by
  rw [run_mapIncludesListM_cons hr, hrest]
  cases result <;> rfl

theorem run_mapIncludesListM_cons_error {e : GrammarError}
    (hr : (Rule.mapIncludesM f r).run s = .error e) :
    (Rule.mapIncludesListM f (r :: rest)).run s = .error e := by
  rw [Rule.mapIncludesListM, StateT.run_bind, hr]
  rfl

theorem run_mapIncludesListM_singleton :
    (Rule.mapIncludesListM f [r]).run s =
      ((Rule.mapIncludesM f r).run s).map fun p => ([p.1], p.2) := by
  rw [Rule.mapIncludesListM, StateT.run_bind]
  cases (Rule.mapIncludesM f r).run s <;> rfl

end Lists

end Runs

section Runs

variable {counts : UseCounts} {m m' : Machine} {rs : List Rule}
  {result : Except GrammarError (List Rule)}

theorem map_eq_ok {ε α β : Type} {x : Except ε α} {f : α → β} {b : β} (h : x.map f = .ok b) :
    ∃ a, x = .ok a ∧ f a = b := by
  cases x with
  | error e => cases h
  | ok a => exact ⟨a, rfl, Except.ok.inj h⟩

theorem map_eq_error {ε α β : Type} {x : Except ε α} {f : α → β} {e : ε}
    (h : x.map f = .error e) : x = .error e := by
  cases x with
  | error e' => exact congrArg _ (Except.error.inj h)
  | ok a => cases h

/-- A body that can be entered takes one from the bound. -/
theorem exists_depth {name : String} {body : Rule} {depth : Nat}
    (hb : m.state.repository.get? name = some body) (hdepth : m.state.repository.size ≤ depth) :
    ∃ depth', depth = depth' + 1 ∧ (m.enter name).state.repository.size ≤ depth' := by
  have hsize := Table.size_erase hb
  exact ⟨depth - 1, by omega, show (m.state.repository.erase name).size ≤ depth - 1 by omega⟩

/-- A call ends in one way only, which the bounded run finds with every bound that suffices. -/
theorem Ends.run_eq (h : Ends counts m rs m' result) {depth : Nat}
    (hdepth : m.state.repository.size ≤ depth) :
    (Rule.mapIncludesListM (expand counts depth m.active) rs).run m.state =
      result.map fun rules => (rules, m'.state) := by
  induction h generalizing depth with
  | nil => rfl
  | @inside m m₁ m₂ r r' rest result href hchildren hnode hrest ihchildren ihrest =>
    have hinner := ihchildren hdepth
    rw [run_expand_children href] at hinner
    obtain ⟨⟨r'', s₁⟩, hr, heq⟩ := map_eq_ok hinner
    obtain ⟨hsame, rfl⟩ := Prod.mk.inj heq
    obtain rfl := Rule.ext_children ((withoutChildren_of_run_expand href hr).trans hnode.symm) hsame
    have houter := ihrest (hchildren.size_le.trans hdepth)
    rw [hchildren.active_eq] at houter
    exact run_mapIncludesListM_cons_map hr houter
  | insideFails href hchildren ih =>
    have hinner := ih hdepth
    rw [run_expand_children href] at hinner
    exact run_mapIncludesListM_cons_error (map_eq_error hinner)
  | kept hone hrest ih => exact run_mapIncludesListM_cons_map (run_expand_kept hone) (ih hdepth)
  | pinned hone hactive hrest ih =>
    exact run_mapIncludesListM_cons_map (run_expand_pinned hone hactive) (ih hdepth)
  | missing hone hactive hb =>
    exact run_mapIncludesListM_cons_error (run_expand_missing hone hactive hb)
  | bodyFails hone hactive hb hbody ih =>
    obtain ⟨depth, rfl, hsize⟩ := exists_depth hb hdepth
    have hinner := ih hsize
    rw [run_mapIncludesListM_singleton] at hinner
    refine run_mapIncludesListM_cons_error ?_
    rw [Rule.mapIncludesM, expand_once hone hactive]
    exact run_inlineEntry_error hb (map_eq_error hinner)
  | @restored m m₁ m₂ name tag body body' rest result hone hactive hb hbody hpinned hrest ihbody
      ihrest =>
    have hkeys := keys_restore body' (Table.mem_keys_of_get? hb)
      (List.Subset.trans hbody.keys_subset (keys_enter m name))
    have houter := ihrest ((Table.size_le_of_keys_subset hkeys).trans hdepth)
    have hstack : (m₁.restore name body').active = m.active :=
      congrArg List.tail hbody.active_eq
    obtain ⟨depth, rfl, hsize⟩ := exists_depth hb hdepth
    have hinner := ihbody hsize
    rw [run_mapIncludesListM_singleton] at hinner
    obtain ⟨⟨body'', s₁⟩, hr, heq⟩ := map_eq_ok hinner
    cases heq
    rw [hstack] at houter
    refine run_mapIncludesListM_cons_map ?_ houter
    rw [Rule.mapIncludesM, expand_once hone hactive]
    exact run_inlineEntry_pinned hb hr hpinned
  | @inlined m m₁ m₂ name tag body body' rest result hone hactive hb hbody hpinned hrest ihbody
      ihrest =>
    have hkeys := List.Subset.trans hbody.keys_subset (keys_enter m name)
    have houter := ihrest ((Table.size_le_of_keys_subset hkeys).trans hdepth)
    have hstack : (m₁.inline name).active = m.active := congrArg List.tail hbody.active_eq
    obtain ⟨depth, rfl, hsize⟩ := exists_depth hb hdepth
    have hinner := ihbody hsize
    rw [run_mapIncludesListM_singleton] at hinner
    obtain ⟨⟨body'', s₁⟩, hr, heq⟩ := map_eq_ok hinner
    cases heq
    rw [hstack] at houter
    refine run_mapIncludesListM_cons_map ?_ houter
    rw [Rule.mapIncludesM, expand_once hone hactive]
    exact run_inlineEntry hb hr hpinned

/-- A body in a row by itself ends with one rule. -/
theorem Ends.exists_singleton {r : Rule} {rules : List Rule} (h : Ends counts m [r] m' (.ok rules)) :
    ∃ r', rules = [r'] := by
  have hrun := h.run_eq (Nat.le_refl _)
  rw [run_mapIncludesListM_singleton] at hrun
  obtain ⟨⟨r', s⟩, -, heq⟩ := map_eq_ok hrun
  exact ⟨r', (Prod.mk.inj heq).1.symm⟩

section Existence

variable {r : Rule} {rest : List Rule}

theorem exists_ends_inside (href : r.reference? = none)
    (hchildren : ∃ m' result, Ends counts m r.children m' result)
    (hrest : ∀ m₁ : Machine, m₁.state.repository.keys ⊆ m.state.repository.keys →
      ∃ m' result, Ends counts m₁ rest m' result) :
    ∃ m' result, Ends counts m (r :: rest) m' result := by
  obtain ⟨m₁, result₁, h₁⟩ := hchildren
  cases result₁ with
  | error e => exact ⟨m₁, .error e, .insideFails href h₁⟩
  | ok rules =>
    have hrun := h₁.run_eq (Nat.le_refl _)
    rw [run_expand_children href] at hrun
    obtain ⟨⟨r', s₁⟩, hr, heq⟩ := map_eq_ok hrun
    obtain ⟨rfl, -⟩ := Prod.mk.inj heq
    obtain ⟨m₂, result, h₂⟩ := hrest m₁ h₁.keys_subset
    exact ⟨m₂, _, .inside href h₁ (withoutChildren_of_run_expand href hr) h₂⟩

theorem exists_ends_include (name : String) (tag : Option String)
    (hbody : ∀ body, m.state.repository.get? name = some body →
      ∃ m' result, Ends counts (m.enter name) [body] m' result)
    (hrest : ∀ m₁ : Machine, m₁.state.repository.keys ⊆ m.state.repository.keys →
      ∃ m' result, Ends counts m₁ rest m' result) :
    ∃ m' result, Ends counts m (.reference (.entry name) tag :: rest) m' result := by
  by_cases hone : counts.get name = 1
  · by_cases hactive : name ∈ m.active
    · obtain ⟨m₁, result, h₁⟩ := hrest (m.update (pin name)) (List.Subset.refl _)
      exact ⟨m₁, _, .pinned hone hactive h₁⟩
    · cases hb : m.state.repository.get? name with
      | none => exact ⟨m, _, .missing hone hactive hb⟩
      | some body =>
        obtain ⟨m₁, result₁, h₁⟩ := hbody body hb
        have hkeys := List.Subset.trans h₁.keys_subset (keys_enter m name)
        cases result₁ with
        | error e => exact ⟨m₁.leave, .error e, .bodyFails hone hactive hb h₁⟩
        | ok rules =>
          obtain ⟨body', rfl⟩ := h₁.exists_singleton
          by_cases hpinned : name ∈ m₁.state.pinned
          · obtain ⟨m₂, result, h₂⟩ := hrest (m₁.restore name body')
              (keys_restore body' (Table.mem_keys_of_get? hb) hkeys)
            exact ⟨m₂, _, .restored hone hactive hb h₁ hpinned h₂⟩
          · obtain ⟨m₂, result, h₂⟩ := hrest (m₁.inline name) hkeys
            exact ⟨m₂, _, .inlined hone hactive hb h₁ hpinned h₂⟩
  · obtain ⟨m₁, result, h₁⟩ := hrest m (List.Subset.refl _)
    exact ⟨m₁, _, .kept hone h₁⟩

theorem exists_ends_of_size_le {n : Nat} (hn : m.state.repository.size ≤ n) (rs : List Rule) :
    ∃ m' result, Ends counts m rs m' result := by
  -- A body that is entered leaves fewer entries; otherwise the rules ahead become fewer.
  induction n using Nat.strongRecOn generalizing m rs with
  | _ n ihentries =>
    induction hk : Rule.sizeList rs using Nat.strongRecOn generalizing m rs with
    | _ k ihrules =>
      cases rs with
      | nil => exact ⟨m, .ok [], .nil⟩
      | cons r rest =>
        have hsize : Rule.sizeList (r :: rest) = r.size + Rule.sizeList rest := rfl
        have hchildren := Rule.size_eq r
        have hrest : ∀ m₁ : Machine, m₁.state.repository.keys ⊆ m.state.repository.keys →
            ∃ m' result, Ends counts m₁ rest m' result := fun m₁ hkeys =>
          ihrules (Rule.sizeList rest) (by omega)
            ((Table.size_le_of_keys_subset hkeys).trans hn) rest rfl
        cases href : r.reference? with
        | none =>
          have hinner := ihrules (Rule.sizeList r.children) (by omega) hn r.children rfl
          exact exists_ends_inside href hinner hrest
        | some name =>
          obtain ⟨tag, rfl⟩ := Rule.eq_of_reference? href
          refine exists_ends_include name tag (fun body hb => ?_) hrest
          obtain ⟨n', rfl, hn'⟩ := exists_depth hb hn
          exact ihentries n' (Nat.lt_succ_self n') hn' [body]

/-- Every call comes back. -/
theorem exists_ends (counts : UseCounts) (m : Machine) (rs : List Rule) :
    ∃ m' result, Ends counts m rs m' result :=
  exists_ends_of_size_le (Nat.le_refl _) rs

end Existence

end Runs

/--
What is seen of a machine at any time between two moves, given the entries that the pass began with.
-/
structure Orderly (repository : Repository) (m : Machine) : Prop where
  nodup : m.active.Nodup
  keys : m.active ⊆ repository.keys
  absent : ∀ n ∈ m.active, n ∉ m.state.repository.keys
  pinned : m.state.pinned ⊆ m.active
  entries : m.state.repository.keys ⊆ repository.keys

section Orderly

variable {counts : UseCounts} {repository : Repository} {m m' : Machine} {name : String}
  {active : List String}

theorem orderly_start (repository : Repository) : Orderly repository (.start repository) where
  nodup := .nil
  keys := List.nil_subset _
  absent := nofun
  pinned := List.Subset.refl _
  entries := List.Subset.refl _

theorem Orderly.size_le (h : Orderly repository m) : m.state.repository.size ≤ repository.size :=
  Table.size_le_of_keys_subset h.entries

/-- There are no more bodies under way than there were entries. -/
theorem Orderly.length_le (h : Orderly repository m) : m.active.length ≤ repository.size := by
  have hlength := (h.nodup.subperm h.keys).length_le
  simpa [Table.keys, Table.size] using hlength

theorem Orderly.pin (h : Orderly repository m) (ha : name ∈ m.active) :
    Orderly repository (m.update (pin name)) where
  nodup := h.nodup
  keys := h.keys
  absent := h.absent
  pinned := List.cons_subset.2 ⟨ha, h.pinned⟩
  entries := h.entries

theorem Orderly.enter {body : Rule} (h : Orderly repository m)
    (hb : m.state.repository.get? name = some body) : Orderly repository (m.enter name) where
  nodup := List.nodup_cons.2 ⟨fun ha => h.absent name ha (Table.mem_keys_of_get? hb), h.nodup⟩
  keys := List.cons_subset.2 ⟨h.entries (Table.mem_keys_of_get? hb), h.keys⟩
  absent n hn hkey := by
    rcases List.mem_cons.1 hn with rfl | hn
    · have hsome : (Table.get? (m.state.repository.erase n) n).isSome := Table.mem_keys_iff.1 hkey
      rw [Table.get?_erase, if_pos rfl] at hsome
      cases hsome
    · exact h.absent n hn (keys_enter m name hkey)
  pinned := List.Subset.trans h.pinned (List.subset_cons_self _ _)
  entries := List.Subset.trans (keys_enter m name) h.entries

theorem Orderly.restore (h : Orderly repository m) (hstack : m.active = name :: active)
    (body : Rule) : Orderly repository (m.restore name body) := by
  obtain ⟨stack, s⟩ := m
  obtain rfl : stack = name :: active := hstack
  obtain ⟨hname, hnodup⟩ := List.nodup_cons.1 h.nodup
  obtain ⟨hkey, hkeys⟩ := List.cons_subset.1 h.keys
  refine ⟨hnodup, hkeys, fun n hn hentry => ?_, fun n hn => ?_, keys_restore body hkey h.entries⟩
  · have hsome : (Table.get? (s.repository.insert name body) n).isSome := Table.mem_keys_iff.1 hentry
    rw [Table.get?_insert, if_neg fun heq : n = name => hname (heq ▸ hn)] at hsome
    exact h.absent n (List.mem_cons_of_mem _ hn) (Table.mem_keys_iff.2 hsome)
  · obtain ⟨hn, hne⟩ := List.mem_filter.1 hn
    exact (List.mem_cons.1 (h.pinned hn)).resolve_left (by simpa using hne)

theorem Orderly.inline (h : Orderly repository m) (hstack : m.active = name :: active)
    (hpinned : name ∉ m.state.pinned) : Orderly repository (m.inline name) := by
  obtain ⟨stack, s⟩ := m
  obtain rfl : stack = name :: active := hstack
  refine ⟨(List.nodup_cons.1 h.nodup).2, (List.cons_subset.1 h.keys).2,
    fun n hn => h.absent n (List.mem_cons_of_mem _ hn), fun n hn => ?_, h.entries⟩
  exact (List.mem_cons.1 (h.pinned hn)).resolve_left fun heq => hpinned (heq ▸ hn)

theorem isOk_map {ε α β : Type} (x : Except ε α) (f : α → β) : (x.map f).isOk = x.isOk := by
  cases x <;> rfl

/-- A call that succeeds leaves the machine as orderly as it was. -/
theorem Ends.orderly {rs : List Rule} {result : Except GrammarError (List Rule)}
    (h : Ends counts m rs m' result) (hok : result.isOk = true) (hm : Orderly repository m) :
    Orderly repository m' := by
  induction h with
  | nil => exact hm
  | inside href hchildren hnode hrest ihchildren ihrest =>
    rw [isOk_map] at hok
    exact ihrest hok (ihchildren rfl hm)
  | insideFails => cases hok
  | kept hone hrest ih =>
    rw [isOk_map] at hok
    exact ih hok hm
  | pinned hone hactive hrest ih =>
    rw [isOk_map] at hok
    exact ih hok (hm.pin hactive)
  | missing => cases hok
  | bodyFails => cases hok
  | restored hone hactive hb hbody hpinned hrest ihbody ihrest =>
    rw [isOk_map] at hok
    exact ihrest hok ((ihbody rfl (hm.enter hb)).restore hbody.active_eq _)
  | inlined hone hactive hb hbody hpinned hrest ihbody ihrest =>
    rw [isOk_map] at hok
    exact ihrest hok ((ihbody rfl (hm.enter hb)).inline hbody.active_eq hpinned)

end Orderly

/--
A pass between two calls from outside, with the patterns that are done, the patterns ahead and the
names of the entries ahead.
-/
inductive Paused (counts : UseCounts) (patterns : List Rule) (repository : Repository) :
    Machine → List Rule → List Rule → List String → Prop
  | start : Paused counts patterns repository (.start repository) [] patterns
      (repository.keys.filter fun name => 0 < counts.get name)
  | pattern {m m' : Machine} {done rest : List Rule} {r r' : Rule} {names : List String}
    (h : Paused counts patterns repository m done (r :: rest) names)
    (hr : Ends counts m [r] m' (.ok [r'])) :
    Paused counts patterns repository m' (done ++ [r']) rest names
  | gone {m : Machine} {done : List Rule} {name : String} {names : List String}
    (h : Paused counts patterns repository m done [] (name :: names))
    (hb : m.state.repository.get? name = none) :
    Paused counts patterns repository m done [] names
  | settled {m m' : Machine} {done : List Rule} {body body' : Rule} {name : String}
    {names : List String} (h : Paused counts patterns repository m done [] (name :: names))
    (hb : m.state.repository.get? name = some body)
    (hbody : Ends counts (m.enter name) [body] m' (.ok [body'])) :
    Paused counts patterns repository (m'.restore name body') done [] names

/-- The calls of a pass, with the number of bodies that each of them is nested in. -/
inductive Called (counts : UseCounts) (patterns : List Rule) (repository : Repository) :
    Nat → Machine → Rule → Prop
  | pattern {m : Machine} {done rest : List Rule} {r : Rule} {names : List String}
    (h : Paused counts patterns repository m done (r :: rest) names) :
    Called counts patterns repository 0 m r
  | entry {m : Machine} {done : List Rule} {body : Rule} {name : String} {names : List String}
    (h : Paused counts patterns repository m done [] (name :: names))
    (hb : m.state.repository.get? name = some body) :
    Called counts patterns repository 1 (m.enter name) body
  | child {depth : Nat} {m m' : Machine} {r c : Rule} {before after rules : List Rule}
    (h : Called counts patterns repository depth m r) (href : r.reference? = none)
    (hsplit : r.children = before ++ c :: after) (hbefore : Ends counts m before m' (.ok rules)) :
    Called counts patterns repository depth m' c
  | body {depth : Nat} {m : Machine} {name : String} {tag : Option String} {body : Rule}
    (h : Called counts patterns repository depth m (.reference (.entry name) tag))
    (hone : counts.get name = 1) (hactive : name ∉ m.active)
    (hb : m.state.repository.get? name = some body) :
    Called counts patterns repository (depth + 1) (m.enter name) body

section Calls

variable {counts : UseCounts} {patterns done rest : List Rule} {repository : Repository}
  {m : Machine} {names : List String}

theorem Paused.orderly (h : Paused counts patterns repository m done rest names) :
    Orderly repository m ∧ m.active = [] := by
  induction h with
  | start => exact ⟨orderly_start repository, rfl⟩
  | pattern h hr ih => exact ⟨hr.orderly rfl ih.1, hr.active_eq.trans ih.2⟩
  | gone h hb ih => exact ih
  | settled h hb hbody ih =>
    have hinner := hbody.orderly rfl (ih.1.enter hb)
    exact ⟨hinner.restore hbody.active_eq _, (congrArg List.tail hbody.active_eq).trans ih.2⟩

theorem Paused.pinned_eq_nil (h : Paused counts patterns repository m done rest names) :
    m.state.pinned = [] := by
  obtain ⟨horderly, hactive⟩ := h.orderly
  have hpinned := horderly.pinned
  rw [hactive] at hpinned
  exact List.subset_nil.1 hpinned

theorem Called.orderly {depth : Nat} {r : Rule}
    (h : Called counts patterns repository depth m r) :
    Orderly repository m ∧ m.active.length = depth := by
  induction h with
  | pattern h =>
    obtain ⟨horderly, hactive⟩ := h.orderly
    exact ⟨horderly, congrArg List.length hactive⟩
  | entry h hb =>
    obtain ⟨horderly, hactive⟩ := h.orderly
    exact ⟨horderly.enter hb, congrArg (List.length · + 1) hactive⟩
  | child h href hsplit hbefore ih =>
    exact ⟨hbefore.orderly rfl ih.1, (congrArg List.length hbefore.active_eq).trans ih.2⟩
  | body h hone hactive hb ih => exact ⟨ih.1.enter hb, congrArg (· + 1) ih.2⟩

theorem Paused.run_patterns (h : Paused counts patterns repository m done rest names) :
    (∃ rules m', (Rule.mapIncludesListM (expand counts repository.size []) rest).run m.state =
        .ok (rules, m'.state) ∧ Paused counts patterns repository m' (done ++ rules) [] names) ∨
    ∃ e m₁ r m', (Rule.mapIncludesListM (expand counts repository.size []) rest).run m.state =
        .error e ∧ Called counts patterns repository 0 m₁ r ∧ Ends counts m₁ [r] m' (.error e) := by
  induction rest generalizing m done with
  | nil => exact .inl ⟨[], m, rfl, by rwa [List.append_nil]⟩
  | cons r rest ih =>
    obtain ⟨horderly, hactive⟩ := h.orderly
    obtain ⟨m₁, result, hr⟩ := exists_ends counts m [r]
    have hrun := hr.run_eq horderly.size_le
    rw [hactive, run_mapIncludesListM_singleton] at hrun
    cases result with
    | error e =>
      exact .inr ⟨e, m, r, m₁, run_mapIncludesListM_cons_error (map_eq_error hrun), .pattern h, hr⟩
    | ok rules =>
      obtain ⟨r', rfl⟩ := hr.exists_singleton
      obtain ⟨⟨r'', s₁⟩, hfirst, heq⟩ := map_eq_ok hrun
      cases heq
      rcases ih (.pattern h hr) with ⟨rules, m₂, hrest, hend⟩ | ⟨e, m₂, c, m₃, hrest, hfails⟩
      · refine .inl ⟨r'' :: rules, m₂, ?_, by rwa [List.append_assoc] at hend⟩
        rw [run_mapIncludesListM_cons hfirst, hrest]
        rfl
      · refine .inr ⟨e, m₂, c, m₃, ?_, hfails⟩
        rw [run_mapIncludesListM_cons hfirst, hrest]
        rfl

theorem run_settleEntry_error {depth : Nat} {name : String} {body : Rule} {s : State}
    {e : GrammarError} (hb : s.repository.get? name = some body)
    (hr : (body.mapIncludesM (expand counts depth [name])).run (takeOut name s) = .error e) :
    (settleEntry counts depth name).run s = .error e := by
  unfold settleEntry settleEntryM
  rw [run_get_bind]
  simp only [hb]
  rw [run_modify_bind, StateT.run_bind, hr]
  rfl

theorem Paused.run_entries (h : Paused counts patterns repository m done [] names) :
    (∃ m', (names.forM (settleEntry counts repository.size)).run m.state = .ok ((), m'.state) ∧
        Paused counts patterns repository m' done [] []) ∨
    ∃ e m₁ body m', (names.forM (settleEntry counts repository.size)).run m.state = .error e ∧
        Called counts patterns repository 1 m₁ body ∧ Ends counts m₁ [body] m' (.error e) := by
  induction names generalizing m with
  | nil => exact .inl ⟨m, rfl, h⟩
  | cons name names ih =>
    unfold List.forM
    cases hb : m.state.repository.get? name with
    | none =>
      rw [run_bind_ok (run_settleEntry_none hb)]
      exact ih (.gone h hb)
    | some body =>
      obtain ⟨horderly, hactive⟩ := h.orderly
      obtain ⟨m₁, result, hr⟩ := exists_ends counts (m.enter name) [body]
      have hrun := hr.run_eq (horderly.enter hb).size_le
      have hstack : (m.enter name).active = [name] := congrArg (name :: ·) hactive
      rw [hstack, run_mapIncludesListM_singleton] at hrun
      cases result with
      | error e =>
        rw [StateT.run_bind, run_settleEntry_error hb (map_eq_error hrun)]
        exact .inr ⟨e, m.enter name, body, m₁, rfl, .entry h hb, hr⟩
      | ok rules =>
        obtain ⟨body', rfl⟩ := hr.exists_singleton
        obtain ⟨⟨body'', s₁⟩, hbody, heq⟩ := map_eq_ok hrun
        cases heq
        rw [run_bind_ok (run_settleEntry_some hb hbody)]
        exact ih (.settled h hb hr)

/-- A pass that succeeds has gone through all patterns and entries; otherwise a call has failed. -/
theorem pass_paused (counts : UseCounts) (patterns : List Rule) (repository : Repository) :
    (∃ rules m, (pass counts patterns repository).run { repository } = .ok (rules, m.state) ∧
        Paused counts patterns repository m rules [] []) ∨
    ∃ e depth m r m', (pass counts patterns repository).run { repository } = .error e ∧
        Called counts patterns repository depth m r ∧ Ends counts m [r] m' (.error e) := by
  have hstart : Paused counts patterns repository ⟨[], { repository }⟩ [] patterns _ := .start
  unfold pass passM
  rcases hstart.run_patterns with ⟨rules, m, hpatterns, h⟩ | ⟨e, m, r, m', hpatterns, hfails⟩
  · rcases h.run_entries with ⟨m', hentries, hend⟩ | ⟨e, m₁, body, m', hentries, hfails⟩
    · refine .inl ⟨rules, m', ?_, hend⟩
      rw [run_bind_ok hpatterns, run_bind_ok hentries]
      rfl
    · refine .inr ⟨e, 1, m₁, body, m', ?_, hfails⟩
      rw [run_bind_ok hpatterns, StateT.run_bind, hentries]
      rfl
  · refine .inr ⟨e, 0, m, r, m', ?_, hfails⟩
    rw [StateT.run_bind, hpatterns]
    rfl

/--
Compaction comes to an end, whatever the patterns, the repository and the counts. At every call the
names under way are distinct entries of the beginning that are out of the repository, each pinned
name is one of them, and there is one for each body that the call is nested in, so that no call is
nested deeper than there were entries. Every call comes back with the names under way as they were,
and in the same way for any bound on the depth that is at least the number of entries present;
between two calls from outside no name is pinned.
-/
theorem pass_calls (counts : UseCounts) (patterns : List Rule) (repository : Repository) :
    ((∃ rules m, (pass counts patterns repository).run { repository } = .ok (rules, m.state) ∧
        Paused counts patterns repository m rules [] []) ∨
      ∃ e depth m r m', (pass counts patterns repository).run { repository } = .error e ∧
        Called counts patterns repository depth m r ∧ Ends counts m [r] m' (.error e)) ∧
    (∀ depth m r, Called counts patterns repository depth m r →
      m.active.Nodup ∧ (∀ n ∈ m.active, n ∈ repository.keys ∧ n ∉ m.state.repository.keys) ∧
      m.state.pinned ⊆ m.active ∧ m.active.length = depth ∧ depth ≤ repository.size ∧
      (∃ m' result, Ends counts m [r] m' result) ∧
      ∀ m' result, Ends counts m [r] m' result → m'.active = m.active ∧
        ∀ bound, m.state.repository.size ≤ bound →
          (Rule.mapIncludesListM (expand counts bound m.active) [r]).run m.state =
            result.map fun rules => (rules, m'.state)) ∧
    ∀ m done rest names, Paused counts patterns repository m done rest names →
      m.active = [] ∧ m.state.pinned = [] := by
  refine ⟨pass_paused counts patterns repository, fun depth m r h => ?_,
    fun m done rest names h => ⟨h.orderly.2, h.pinned_eq_nil⟩⟩
  obtain ⟨horderly, hdepth⟩ := h.orderly
  refine ⟨horderly.nodup, fun n hn => ⟨horderly.keys hn, horderly.absent n hn⟩, horderly.pinned,
    hdepth, ?_, exists_ends counts m [r], fun m' result hr => ⟨hr.active_eq, fun bound => hr.run_eq⟩⟩
  rw [← hdepth]
  exact horderly.length_le

end Calls

/-- Both names of the tangled repository are under way, and the outer one has been met again. -/
def Machine.tangled : Machine :=
  (((Machine.start .tangled).enter "block").enter "statement").update (pin "block")

theorem called_tangled :
    Called .tangled (Rule.includingAll ["#block"]) .tangled 2 .tangled (.including "#statement") := by
  have hblock : Rule.including "#block" = .reference (.entry "block") none := by decide
  have hstatement : Rule.including "#statement" = .reference (.entry "statement") none := by decide
  have hpattern : Called .tangled (Rule.includingAll ["#block"]) .tangled 0 (.start .tangled)
      (.reference (.entry "block") none) := hblock ▸ .pattern .start
  have houter := hpattern.body (by decide) (by decide)
    (show _ = some (Rule.alternatives ["#statement"]) by decide +kernel)
  have hmeet := houter.child rfl (show _ = [] ++ Rule.including "#statement" :: [] from rfl) .nil
  rw [hstatement] at hmeet
  have hinner := hmeet.body (by decide) (by decide)
    (show _ = some (Rule.alternatives ["#block", "#statement"]) by decide +kernel)
  have hbefore : Ends .tangled (((Machine.start .tangled).enter "block").enter "statement")
      [.reference (.entry "block") none] .tangled (.ok [.reference (.entry "block") none]) :=
    .pinned (by decide) (by decide) .nil
  rw [← hblock] at hbefore
  exact hinner.child rfl
    (show _ = [Rule.including "#block"] ++ Rule.including "#statement" :: [] from rfl) hbefore

theorem pass_calls_tangled :
    Called .tangled (Rule.includingAll ["#block"]) .tangled 2 .tangled (.including "#statement") ∧
    Machine.tangled.active.Nodup ∧
    (∀ n ∈ Machine.tangled.active,
      n ∈ Repository.tangled.keys ∧ n ∉ Machine.tangled.state.repository.keys) ∧
    Machine.tangled.state.pinned ⊆ Machine.tangled.active ∧
    Machine.tangled.active.length = 2 ∧ 2 ≤ Repository.tangled.size ∧
    (∃ m' result, Ends .tangled .tangled [.including "#statement"] m' result) ∧
    ∀ m' result, Ends .tangled .tangled [.including "#statement"] m' result →
      m'.active = Machine.tangled.active ∧
      ∀ bound, Machine.tangled.state.repository.size ≤ bound →
        (Rule.mapIncludesListM (expand .tangled bound Machine.tangled.active)
            [.including "#statement"]).run Machine.tangled.state =
          result.map fun rules => (rules, m'.state) :=
  ⟨called_tangled,
    (pass_calls .tangled (Rule.includingAll ["#block"]) .tangled).2.1 2 .tangled
      (.including "#statement") called_tangled⟩

end TextMate.Compaction
