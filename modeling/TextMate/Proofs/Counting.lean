import TextMate.Grammar.Walk
import TextMate.Proofs.Includes
import TextMate.Proofs.Table

/-! The use counts of a grammar, told by reachability. -/
namespace TextMate.Repository

/-- The names that patterns include, directly or in the bodies of entries reached before. -/
inductive Reachable (repository : Repository) (patterns : List Rule) : String → Prop
  | pattern {name : String} (h : name ∈ Rule.includesList patterns) :
    Reachable repository patterns name
  | body {user name : String} {body : Rule} (hu : Reachable repository patterns user)
    (hb : repository.get? user = some body) (h : name ∈ body.includes) :
    Reachable repository patterns name

/-- The number of includes of a name in the bodies of the chosen entries. -/
def usesIn (repository : Repository) (chosen : String → Prop) [DecidablePred chosen]
    (name : String) : Nat :=
  repository.total fun user body => if chosen user then body.includes.count name else 0

/-- The uses counted are those in the patterns and in the bodies of the names used. -/
structure Counted (repository : Repository) (patterns : List Rule) (counts : UseCounts) :
    Prop where
  get_eq : ∀ name, counts.get name =
    (Rule.includesList patterns).count name + repository.usesIn (0 < counts.get ·) name
  pos_iff : ∀ name, 0 < counts.get name ↔ repository.Reachable patterns name
  entry : ∀ name, 0 < counts.get name → ∃ body, repository.get? name = some body

variable {repository : Repository}

section Uses

variable (chosen : String → Prop) [DecidablePred chosen] (name : String) {user : String}
  {body : Rule}

theorem usesIn_congr {chosen' : String → Prop} [DecidablePred chosen']
    (h : ∀ n, chosen n ↔ chosen' n) :
    repository.usesIn chosen name = repository.usesIn chosen' name :=
  Table.total_congr fun user _ _ => by simp only [h user]

theorem usesIn_erase (hb : repository.get? user = some body) :
    repository.usesIn chosen name =
      usesIn (repository.erase user) chosen name +
        if chosen user then body.includes.count name else 0 :=
  Table.total_erase _ hb

theorem usesIn_insert (hb : repository.get? user = none) :
    usesIn (repository.insert user body) chosen name =
      repository.usesIn chosen name + if chosen user then body.includes.count name else 0 :=
  Table.total_insert _ hb

theorem count_le_usesIn (hu : chosen user) (hb : repository.get? user = some body) :
    body.includes.count name ≤ repository.usesIn chosen name := by
  rw [usesIn_erase chosen name hb, if_pos hu]
  exact Nat.le_add_left _ _

/-- Two bodies with the same include use its name twice. -/
theorem two_le_usesIn {user' : String} {body' : Rule} (hne : user ≠ user') (hu : chosen user)
    (hu' : chosen user') (hb : repository.get? user = some body)
    (hb' : repository.get? user' = some body') (hn : name ∈ body.includes)
    (hn' : name ∈ body'.includes) : 2 ≤ repository.usesIn chosen name := by
  have herase : Table.get? (repository.erase user') user = some body := by
    rw [Table.get?_erase, if_neg hne, hb]
  have hle := count_le_usesIn chosen name hu herase
  have h := List.count_pos_iff.2 hn
  have h' := List.count_pos_iff.2 hn'
  rw [usesIn_erase chosen name hb', if_pos hu']
  omega

end Uses

/-- What a complete walk from some pending rules has met, and which bodies it has entered. -/
structure Walked (repository : Repository) (seen : List String) (pending : List Rule)
    (names entered : List String) : Prop where
  fresh : ∀ n ∈ entered, n ∉ seen
  entry : ∀ n ∈ entered, ∃ body, repository.get? n = some body
  met : ∀ n ∈ entered, n ∈ names
  known : ∀ n ∈ names, n ∈ seen ∨ n ∈ entered
  count : ∀ n, names.count n =
    (Rule.includesList pending).count n + repository.usesIn (· ∈ entered) n

theorem usesIn_cons {name : String} {body : Rule} {entered : List String}
    (hb : repository.get? name = some body) (hn : name ∉ entered) (n : String) :
    repository.usesIn (· ∈ name :: entered) n =
      repository.usesIn (· ∈ entered) n + body.includes.count n := by
  have herase : ∀ user b, (Table.erase repository name).get? user = some b →
      (if user ∈ name :: entered then b.includes.count n else 0) =
        if user ∈ entered then b.includes.count n else 0 := by
    intro user b hu
    rw [Table.get?_erase] at hu
    have hne : user ≠ name := by
      rintro rfl
      simp at hu
    simp [hne]
  rw [usesIn_erase _ _ hb, usesIn_erase _ _ hb, if_pos List.mem_cons_self, if_neg hn]
  exact congrArg (· + _) (Table.total_congr herase)

theorem walked_meet {seen : List String} {pending : List Rule} {name : String}
    {tag : Option String} {names entered : List String} (hs : name ∈ seen)
    (h : repository.Walked seen pending names entered) :
    repository.Walked seen (.reference (.entry name) tag :: pending) (name :: names) entered where
  fresh := h.fresh
  entry := h.entry
  met n hn := List.mem_cons_of_mem _ (h.met n hn)
  known n hn := by
    rcases List.mem_cons.1 hn with rfl | hn
    · exact .inl hs
    · exact h.known n hn
  count n := by
    rw [List.count_cons, h.count n, Rule.includesList, Rule.includes, Include.names,
      List.singleton_append, List.count_cons]
    omega

theorem walked_enter {seen : List String} {pending : List Rule} {name : String}
    {tag : Option String} {body : Rule} {names entered : List String}
    (hb : repository.get? name = some body) (hs : name ∉ seen)
    (h : repository.Walked (name :: seen) (body :: pending) names entered) :
    repository.Walked seen (.reference (.entry name) tag :: pending) (name :: names)
      (name :: entered) where
  fresh n hn := by
    rcases List.mem_cons.1 hn with rfl | hn
    · exact hs
    · exact fun hseen => h.fresh n hn (List.mem_cons_of_mem _ hseen)
  entry n hn := by
    rcases List.mem_cons.1 hn with rfl | hn
    · exact ⟨body, hb⟩
    · exact h.entry n hn
  met n hn := by
    rcases List.mem_cons.1 hn with rfl | hn
    · exact List.mem_cons_self
    · exact List.mem_cons_of_mem _ (h.met n hn)
  known n hn := by
    rcases List.mem_cons.1 hn with rfl | hn
    · exact .inr List.mem_cons_self
    · rcases h.known n hn with hk | hk
      · rcases List.mem_cons.1 hk with rfl | hk
        · exact .inr List.mem_cons_self
        · exact .inl hk
      · exact .inr (List.mem_cons_of_mem _ hk)
  count n := by
    have hn : name ∉ entered := fun he => h.fresh name he List.mem_cons_self
    rw [List.count_cons, h.count n, usesIn_cons hb hn, Rule.includesList, Rule.includesList,
      Rule.includes, Include.names, List.singleton_append, List.count_cons, List.count_append]
    omega

theorem walked_children {seen : List String} {pending : List Rule} {r : Rule}
    {names entered : List String} (hr : r.reference? = none)
    (h : repository.Walked seen (r.children ++ pending) names entered) :
    repository.Walked seen (r :: pending) names entered where
  fresh := h.fresh
  entry := h.entry
  met := h.met
  known := h.known
  count n := by
    rw [h.count n, Rule.includesList_append, ← Rule.includes_eq_children hr, Rule.includesList]

/-- A walk that misses no entry accounts for every include it reaches. -/
theorem walkFrom_walked (repository : Repository) (seen : List String) (pending : List Rule)
    (h : (repository.walkFrom seen pending).missing = none) :
    ∃ entered, repository.Walked seen pending (repository.walkFrom seen pending).names entered := by
  induction seen, pending using walkFrom_induction repository with
  | nil seen =>
    refine ⟨[], nofun, nofun, nofun, fun n hn => ?_, fun n => ?_⟩
    · rw [walkFrom] at hn
      cases hn
    · simp [walkFrom, usesIn, Rule.includesList, Table.total]
  | inside seen r pending href ih =>
    rw [walkFrom_inside href] at h ⊢
    obtain ⟨entered, he⟩ := ih h
    exact ⟨entered, walked_children href he⟩
  | again seen name tag pending hs ih =>
    rw [walkFrom_seen hs] at h ⊢
    obtain ⟨entered, he⟩ := ih h
    exact ⟨entered, walked_meet hs he⟩
  | missing seen name tag pending hs hb =>
    rw [walkFrom_missing hs hb] at h
    cases h
  | enter seen name tag pending body hs hb ih =>
    rw [walkFrom_enter hs hb] at h ⊢
    obtain ⟨entered, he⟩ := ih h
    exact ⟨name :: entered, walked_enter hb hs he⟩

/-- A walk meets nothing but what its pending rules reach. -/
theorem names_walkFrom (repository : Repository) (seen : List String) (pending : List Rule)
    {good : String → Prop} (hp : ∀ n ∈ Rule.includesList pending, good n)
    (hb : ∀ user body, good user → repository.get? user = some body →
      ∀ n ∈ body.includes, good n) :
    ∀ n ∈ (repository.walkFrom seen pending).names, good n := by
  induction seen, pending using walkFrom_induction repository with
  | nil seen =>
    rw [walkFrom]
    exact List.forall_mem_nil good
  | inside seen r pending href ih =>
    rw [walkFrom_inside href]
    apply ih
    rwa [Rule.includesList_append, ← Rule.includes_eq_children href]
  | again seen name tag pending hs ih =>
    obtain ⟨hname, hrest⟩ := List.forall_mem_cons.1 hp
    rw [walkFrom_seen hs]
    exact List.forall_mem_cons.2 ⟨hname, ih hrest⟩
  | missing seen name tag pending hs hnone =>
    rw [walkFrom_missing hs hnone]
    intro n hn
    exact hp n (List.mem_singleton.1 hn ▸ List.mem_cons_self)
  | enter seen name tag pending body hs hsome ih =>
    obtain ⟨hname, hrest⟩ := List.forall_mem_cons.1 hp
    rw [walkFrom_enter hs hsome]
    refine List.forall_mem_cons.2 ⟨hname, ih fun m hm => ?_⟩
    rcases List.mem_append.1 hm with hm | hm
    · exact hb name body hname hsome m hm
    · exact hrest m hm

/-- The missing name has been met, and it has no entry. -/
theorem missing_walkFrom (repository : Repository) (seen : List String) (pending : List Rule)
    {name : String} (h : (repository.walkFrom seen pending).missing = some name) :
    name ∈ (repository.walkFrom seen pending).names ∧ repository.get? name = none := by
  induction seen, pending using walkFrom_induction repository with
  | nil seen =>
    rw [walkFrom] at h
    cases h
  | inside seen r pending href ih =>
    rw [walkFrom_inside href] at h ⊢
    exact ih h
  | again seen n tag pending hs ih =>
    rw [walkFrom_seen hs] at h ⊢
    exact (ih h).imp_left (List.mem_cons_of_mem _)
  | missing seen n tag pending hs hnone =>
    rw [walkFrom_missing hs hnone] at h ⊢
    cases h
    exact ⟨List.mem_cons_self, hnone⟩
  | enter seen n tag pending body hs hsome ih =>
    rw [walkFrom_enter hs hsome] at h ⊢
    exact (ih h).imp_left (List.mem_cons_of_mem _)

/-- A walk depends on the entries of the names that it meets and on no others. -/
theorem walkFrom_congr {other : Repository} {seen : List String} {pending : List Rule}
    (h : ∀ n ∈ (repository.walkFrom seen pending).names, other.get? n = repository.get? n) :
    other.walkFrom seen pending = repository.walkFrom seen pending := by
  induction seen, pending using walkFrom_induction repository with
  | nil seen => rw [walkFrom, walkFrom]
  | inside seen r pending href ih =>
    rw [walkFrom_inside href] at h
    rw [walkFrom_inside href, walkFrom_inside href, ih h]
  | again seen name tag pending hs ih =>
    rw [walkFrom_seen hs] at h
    obtain ⟨-, hrest⟩ := List.forall_mem_cons.1 h
    rw [walkFrom_seen hs, walkFrom_seen hs, ih hrest]
  | missing seen name tag pending hs hb =>
    rw [walkFrom_missing hs hb] at h
    have hb' : other.get? name = none := (h name List.mem_cons_self).trans hb
    rw [walkFrom_missing hs hb, walkFrom_missing hs hb']
  | enter seen name tag pending body hs hb ih =>
    rw [walkFrom_enter hs hb] at h
    obtain ⟨hname, hrest⟩ := List.forall_mem_cons.1 h
    have hb' : other.get? name = some body := hname.trans hb
    rw [walkFrom_enter hs hb, walkFrom_enter hs hb', ih hrest]

section Counts

variable {patterns : List Rule} {counts : UseCounts}

theorem reachable_of_mem_walk {name : String} (h : name ∈ (repository.walk patterns).names) :
    repository.Reachable patterns name :=
  names_walkFrom repository [] patterns (fun _ hn => .pattern hn)
    (fun _ _ hu hb _ hn => .body hu hb hn) name h

/-- The bodies entered by a complete walk are those of the names reached. -/
theorem Walked.mem_iff {names entered : List String}
    (h : repository.Walked [] patterns names entered) {name : String}
    (hnames : ∀ n ∈ names, repository.Reachable patterns n) :
    name ∈ entered ↔ repository.Reachable patterns name := by
  have hknown : ∀ n ∈ names, n ∈ entered := fun n hn => (h.known n hn).resolve_left nofun
  have hcount : ∀ n, 0 < names.count n → n ∈ entered :=
    fun n hn => hknown n (List.count_pos_iff.1 hn)
  refine ⟨fun hn => hnames name (h.met name hn), fun hr => ?_⟩
  induction hr with
  | pattern hp =>
    refine hcount _ ?_
    have := List.count_pos_iff.2 hp
    rw [h.count]
    omega
  | @body user n body hu hb hn ih =>
    refine hcount _ ?_
    have hle := count_le_usesIn (· ∈ entered) n ih hb
    have := List.count_pos_iff.2 hn
    rw [h.count]
    omega

theorem countUses_eq_ok_iff :
    repository.countUses patterns = .ok counts ↔
      ∃ names, repository.walk patterns = ⟨names, none⟩ ∧ counts = .ofNames names := by
  unfold countUses
  obtain ⟨names, missing⟩ := repository.walk patterns
  cases missing with
  | none => simp [eq_comm]
  | some name => simp

theorem get_of_countUses (h : repository.countUses patterns = .ok counts) (name : String) :
    counts.get name = (repository.walk patterns).names.count name := by
  obtain ⟨names, hwalk, rfl⟩ := countUses_eq_ok_iff.1 h
  rw [hwalk, UseCounts.get_ofNames]

/-- Counting gives what it should whenever it gives anything. -/
theorem counted_of_countUses (h : repository.countUses patterns = .ok counts) :
    repository.Counted patterns counts := by
  obtain ⟨names, hwalk, -⟩ := countUses_eq_ok_iff.1 h
  obtain ⟨entered, hw⟩ := walkFrom_walked repository [] patterns (congrArg Walk.missing hwalk)
  have hmem : ∀ n, n ∈ entered ↔ repository.Reachable patterns n :=
    fun n => hw.mem_iff fun m => reachable_of_mem_walk
  have hget : ∀ n, counts.get n = (repository.walk patterns).names.count n := get_of_countUses h
  have hpos : ∀ n, 0 < counts.get n ↔ n ∈ entered := by
    intro n
    rw [hget, List.count_pos_iff]
    exact ⟨fun hn => (hw.known n hn).resolve_left nofun, hw.met n⟩
  refine ⟨fun n => ?_, fun n => (hpos n).trans (hmem n), fun n hn => hw.entry n ((hpos n).1 hn)⟩
  rw [hget, usesIn_congr _ n hpos]
  exact hw.count n

theorem countUses_eq_error (h : ∀ counts, repository.countUses patterns ≠ .ok counts) :
    ∃ name, repository.Reachable patterns name ∧ repository.get? name = none := by
  cases hm : (repository.walk patterns).missing with
  | none => exact absurd (by rw [countUses, hm]) (h (.ofNames (repository.walk patterns).names))
  | some name =>
    obtain ⟨hn, hnone⟩ := missing_walkFrom repository [] patterns hm
    exact ⟨name, reachable_of_mem_walk hn, hnone⟩

end Counts

open Classical in
/--
Counting succeeds exactly on grammars in which every reachable name has an entry. A name then counts
its includes in the patterns and in the bodies of the reachable entries, so that the names in use
are the reachable ones.
-/
theorem countUses_complete (repository : Repository) (patterns : List Rule) :
    ((∃ counts, repository.countUses patterns = .ok counts) ↔
      ∀ name, repository.Reachable patterns name → name ∈ repository.keys) ∧
    ∀ counts, repository.countUses patterns = .ok counts → ∀ name,
      counts.get name = (Rule.includesList patterns).count name +
        repository.usesIn (repository.Reachable patterns) name ∧
      (0 < counts.get name ↔ repository.Reachable patterns name) := by
  refine ⟨⟨?_, fun h => ?_⟩, fun counts hc name => ?_⟩
  · rintro ⟨counts, hc⟩ name hr
    have hcounted := counted_of_countUses hc
    obtain ⟨body, hb⟩ := hcounted.entry name ((hcounted.pos_iff name).2 hr)
    exact Table.mem_keys_iff.2 (hb ▸ rfl)
  · by_contra hne
    obtain ⟨name, hr, hnone⟩ := countUses_eq_error fun counts hc => hne ⟨counts, hc⟩
    have := Table.mem_keys_iff.1 (h name hr)
    rw [hnone] at this
    cases this
  · have hcounted := counted_of_countUses hc
    refine ⟨?_, hcounted.pos_iff name⟩
    rw [hcounted.get_eq, usesIn_congr _ name hcounted.pos_iff]

end TextMate.Repository

namespace TextMate

/--
A shared entry that comes back to itself through two entries used once, beside an unused one with
an include of a name that has no entry.
-/
def Grammar.circular : Grammar where
  name := "Calls"
  scopeName := "source.calls"
  patterns := Rule.includingAll ["#term", "#term", "$self"]
  repository := .ofList [
    ("argument", .leaf {
      pattern := "(\\w+)"
      captures := [{ skip := 1, patterns := Rule.includingAll ["#term"] }] }),
    ("stale", Rule.alternatives ["#nowhere", "#argument"]),
    ("term", Rule.alternatives ["#wrapped"]),
    ("wrapped", .region {
      opening := "("
      closing := ")"
      patterns := Rule.includingAll ["#argument"] })]

def UseCounts.circular : UseCounts := .ofList [("argument", 1), ("term", 3), ("wrapped", 1)]

open Classical in
theorem Repository.countUses_complete_circular :
    Grammar.circular.repository.countUses Grammar.circular.patterns = .ok .circular ∧
    UseCounts.circular.get "argument" =
      (Rule.includesList Grammar.circular.patterns).count "argument" +
        Grammar.circular.repository.usesIn
          (Grammar.circular.repository.Reachable Grammar.circular.patterns) "argument" ∧
    (0 < UseCounts.circular.get "argument" ↔
      Grammar.circular.repository.Reachable Grammar.circular.patterns "argument") :=
  have h : Grammar.circular.repository.countUses Grammar.circular.patterns = .ok .circular := by cbv
  ⟨h, (Repository.countUses_complete _ _).2 _ h "argument"⟩

end TextMate
