import TextMate.Proofs.Denial

/-!
Grammars whose entries have other names. A run does not depend on the names of the entries, although
it settles the entries in name order.
-/
namespace TextMate

section Definitions

variable (f : String → String)

/-- Includes of other grammars stay as they are. -/
def Include.rename : Include → Include
  | .entry name => .entry (f name)
  | .external text => .external text

/-- All includes of entries are renamed, at any depth. -/
def Rule.rename : Rule → Rule :=
  Rule.mapIncludes fun target tag => .reference (target.rename f) tag

/-- The values under the new names, each changed by `g`. -/
def Table.rename {α β : Type} (g : α → β) (t : Table α) : Table β :=
  .ofList (t.entries.map fun e => (f e.1, g e.2))

def Repository.rename (repository : Repository) : Repository :=
  Table.rename f (Rule.rename f) repository

def Grammar.rename (g : Grammar) : Grammar :=
  { g with
    patterns := g.patterns.map (Rule.rename f)
    repository := g.repository.rename f }

def Walk.rename (w : Walk) : Walk := ⟨w.names.map f, w.missing.map f⟩

def Finding.rename (d : Finding) : Finding := { d with rule := f d.rule }

end Definitions

namespace Table

variable {α β : Type} {f : String → String} {g : α → β} {S : Set String} {t : Table α}
  {name : String}

theorem lookup_map_rename (hf : Set.InjOn f S) (hname : name ∈ S) {l : List (String × α)}
    (hl : ∀ e ∈ l, e.1 ∈ S) :
    (l.map fun e => (f e.1, g e.2)).lookup (f name) = (l.lookup name).map g := by
  induction l with
  | nil => rfl
  | cons e rest ih =>
    obtain ⟨n, v⟩ := e
    have hn : n ∈ S := hl (n, v) List.mem_cons_self
    have hiff : f name = f n ↔ name = n := hf.eq_iff hname hn
    rw [List.map_cons, lookup_cons_eq_ite, lookup_cons_eq_ite,
      ih fun e he => hl e (List.mem_cons_of_mem _ he)]
    by_cases heq : name = n
    · rw [if_pos (hiff.2 heq), if_pos heq, Option.map_some]
    · rw [if_neg (mt hiff.1 heq), if_neg heq]

section Names

variable (hf : Set.InjOn f S) (hkeys : ∀ n ∈ t.keys, n ∈ S)
include hf hkeys

theorem nodup_rename : (t.keys.map f).Nodup :=
  t.keys_nodup.map_on fun n hn m hm heq => hf (hkeys n hn) (hkeys m hm) heq

theorem get?_rename_eq_lookup (g : α → β) (name : String) :
    (t.rename f g).get? name = (t.entries.map fun e => (f e.1, g e.2)).lookup name := by
  have hnames : (t.entries.map fun e => (f e.1, g e.2)).map (·.1) = t.keys.map f := by
    simp [keys]
  have hnodup := nodup_rename hf hkeys
  rw [← hnames] at hnodup
  rw [rename, get?_ofList_of_nodup hnodup]

theorem get?_rename (g : α → β) (hname : name ∈ S) :
    (t.rename f g).get? (f name) = (t.get? name).map g := by
  rw [get?_rename_eq_lookup hf hkeys]
  exact lookup_map_rename hf hname fun e he => hkeys e.1 (List.mem_map.2 ⟨e, he, rfl⟩)

theorem mem_keys_rename (g : α → β) : name ∈ (t.rename f g).keys ↔ name ∈ t.keys.map f := by
  rw [mem_keys_iff, get?_rename_eq_lookup hf hkeys, List.lookup_isSome_iff]
  simp only [keys, List.mem_map, beq_iff_eq]
  constructor
  · rintro ⟨e', ⟨e, he, rfl⟩, rfl⟩
    exact ⟨e.1, ⟨e, he, rfl⟩, rfl⟩
  · rintro ⟨n, ⟨e, he, rfl⟩, rfl⟩
    exact ⟨(f e.1, g e.2), ⟨e, he, rfl⟩, rfl⟩

theorem size_rename (g : α → β) : (t.rename f g).size = t.size := by
  have hperm : (t.rename f g).keys.Perm (t.keys.map f) :=
    (List.perm_ext_iff_of_nodup (t.rename f g).keys_nodup (nodup_rename hf hkeys)).2
      fun _ => mem_keys_rename hf hkeys g
  have hlength := hperm.length_eq
  simpa [keys, size] using hlength

/-- A table is a renamed one if it has the same values, changed by `g`, under the new names. -/
theorem eq_rename {t' : Table β} (hentry : ∀ n ∈ S, t'.get? (f n) = (t.get? n).map g)
    (hnew : ∀ m ∈ t'.keys, ∃ n ∈ S, f n = m) : t' = t.rename f g := by
  refine ext_get? fun m => ?_
  by_cases hm : ∃ n ∈ S, f n = m
  · obtain ⟨n, hn, rfl⟩ := hm
    rw [hentry n hn, get?_rename hf hkeys g hn]
  · have hnone : ¬ (t'.get? m).isSome := fun hsome => hm (hnew m (mem_keys_iff.2 hsome))
    have hnone' : ¬ ((t.rename f g).get? m).isSome := by
      rw [← mem_keys_iff, mem_keys_rename hf hkeys g]
      intro hmem
      obtain ⟨n, hn, heq⟩ := List.mem_map.1 hmem
      exact hm ⟨n, hkeys n hn, heq⟩
    rw [Option.not_isSome_iff_eq_none] at hnone hnone'
    rw [hnone, hnone']

end Names

end Table

namespace Rule

variable {f : String → String} {r : Rule}

theorem rename_inside (href : r.reference? = none) : r.rename f = r.mapChildren (rename f) := by
  cases r with
  | reference target tag =>
    cases target with
    | entry name => cases href
    | external text => rfl
  | leaf r => exact mapIncludes_eq_mapChildren _ nofun
  | region r => exact mapIncludes_eq_mapChildren _ nofun
  | group r => exact mapIncludes_eq_mapChildren _ nofun

theorem reference?_rename (href : r.reference? = none) : (r.rename f).reference? = none := by
  rw [rename_inside href, reference?_mapChildren, href]

theorem children_rename (href : r.reference? = none) :
    (r.rename f).children = r.children.map (rename f) := by
  rw [rename_inside href, children_mapChildren]

end Rule

namespace Repository

/--
Under the new names of `S` the other repository has the renamed bodies, and from the names of `S`
the bodies lead to no other names.
-/
structure Renames (f : String → String) (S : Set String) (repository other : Repository) :
    Prop where
  injOn : Set.InjOn f S
  entry : ∀ n ∈ S, other.get? (f n) = (repository.get? n).map (Rule.rename f)
  closed : ∀ n ∈ S, ∀ body, repository.get? n = some body → ∀ m ∈ body.includes, m ∈ S

variable {f : String → String} {S : Set String} {repository other : Repository}
  {seen : List String} {pending patterns : List Rule} {counts counts' : UseCounts}

section Walk

variable {name : String}

theorem Renames.not_mem_map (h : repository.Renames f S other) (hseen : ∀ n ∈ seen, n ∈ S)
    (hname : name ∈ S) (hs : name ∉ seen) : f name ∉ seen.map f := by
  intro hmem
  obtain ⟨n, hn, heq⟩ := List.mem_map.1 hmem
  exact hs (h.injOn (hseen n hn) hname heq ▸ hn)

/-- The walk goes the same way under the new names. -/
theorem Renames.walkFrom_eq (h : repository.Renames f S other) (hseen : ∀ n ∈ seen, n ∈ S)
    (hpending : ∀ n ∈ Rule.includesList pending, n ∈ S) :
    other.walkFrom (seen.map f) (pending.map (Rule.rename f)) =
      (repository.walkFrom seen pending).rename f := by
  induction seen, pending using walkFrom_induction repository with
  | nil seen =>
    rw [List.map_nil, walkFrom, walkFrom]
    rfl
  | inside seen r pending href ih =>
    have hchildren : ∀ n ∈ Rule.includesList (r.children ++ pending), n ∈ S := by
      rwa [Rule.includesList_append, ← Rule.includes_eq_children href]
    rw [List.map_cons, walkFrom_inside (Rule.reference?_rename href), Rule.children_rename href,
      ← List.map_append, walkFrom_inside href]
    exact ih hseen hchildren
  | again seen name tag pending hs ih =>
    have hmem : f name ∈ seen.map f := List.mem_map_of_mem hs
    have hrest := ih hseen fun n hn => hpending n (List.mem_cons_of_mem _ hn)
    calc other.walkFrom (seen.map f) ((.reference (.entry name) tag :: pending).map (Rule.rename f))
        = (other.walkFrom (seen.map f) (pending.map (Rule.rename f))).meet (f name) :=
          walkFrom_seen hmem
      _ = ((repository.walkFrom seen pending).meet name).rename f := by rw [hrest]; rfl
      _ = (repository.walkFrom seen (.reference (.entry name) tag :: pending)).rename f := by
          rw [walkFrom_seen hs]
  | missing seen name tag pending hs hb =>
    have hname : name ∈ S := hpending name List.mem_cons_self
    have hb' : other.get? (f name) = none := by rw [h.entry name hname, hb]; rfl
    rw [walkFrom_missing hs hb]
    exact walkFrom_missing (h.not_mem_map hseen hname hs) hb'
  | enter seen name tag pending body hs hb ih =>
    have hname : name ∈ S := hpending name List.mem_cons_self
    have hb' : other.get? (f name) = some (body.rename f) := by rw [h.entry name hname, hb]; rfl
    have hrest := ih (List.forall_mem_cons.2 ⟨hname, hseen⟩) fun n hn => by
      rcases List.mem_append.1 hn with hn | hn
      · exact h.closed name hname body hb n hn
      · exact hpending n (List.mem_cons_of_mem _ hn)
    calc other.walkFrom (seen.map f) ((.reference (.entry name) tag :: pending).map (Rule.rename f))
        = (other.walkFrom ((name :: seen).map f) ((body :: pending).map (Rule.rename f))).meet
            (f name) := walkFrom_enter (h.not_mem_map hseen hname hs) hb'
      _ = ((repository.walkFrom (name :: seen) (body :: pending)).meet name).rename f := by
          rw [hrest]; rfl
      _ = (repository.walkFrom seen (.reference (.entry name) tag :: pending)).rename f := by
          rw [walkFrom_enter hs hb]

end Walk

section Counts

variable (h : repository.Renames f S other) (hpatterns : ∀ n ∈ Rule.includesList patterns, n ∈ S)
include h hpatterns

theorem Renames.mem_of_walk {n : String} (hn : n ∈ (repository.walk patterns).names) : n ∈ S :=
  names_walkFrom repository [] patterns hpatterns
    (fun user body hu hb => h.closed user hu body hb) n hn

theorem Renames.walk_eq :
    other.walk (patterns.map (Rule.rename f)) = (repository.walk patterns).rename f := by
  have hseen : ∀ n ∈ ([] : List String), n ∈ S := nofun
  exact h.walkFrom_eq hseen hpatterns

/-- The count fails at the name that stands for the missing one. -/
theorem Renames.countUses_error {name : String}
    (hcount : repository.countUses patterns = .error (.unresolved name)) :
    other.countUses (patterns.map (Rule.rename f)) = .error (.unresolved (f name)) := by
  unfold countUses at hcount ⊢
  rw [h.walk_eq hpatterns]
  simp only [Walk.rename] at hcount ⊢
  cases hmissing : (repository.walk patterns).missing with
  | none =>
    rw [hmissing] at hcount
    cases hcount
  | some missing =>
    rw [hmissing] at hcount
    cases hcount
    rfl

/-- A name counts as often as the one that it stands for, and no other name counts. -/
theorem Renames.countUses_ok (hcount : repository.countUses patterns = .ok counts) :
    ∃ counts', other.countUses (patterns.map (Rule.rename f)) = .ok counts' ∧
      (∀ n ∈ S, counts'.get (f n) = counts.get n) ∧
      ∀ m, 0 < counts'.get m → ∃ n ∈ S, f n = m := by
  have hmem : ∀ n ∈ (repository.walk patterns).names, n ∈ S := fun _ => h.mem_of_walk hpatterns
  refine ⟨.ofNames ((repository.walk patterns).names.map f), ?_, fun n hn => ?_, fun m hm => ?_⟩
  · unfold countUses at hcount ⊢
    rw [h.walk_eq hpatterns]
    simp only [Walk.rename] at hcount ⊢
    cases hmissing : (repository.walk patterns).missing with
    | none => rfl
    | some missing =>
      rw [hmissing] at hcount
      cases hcount
  · rw [get_of_countUses hcount, UseCounts.get_ofNames, List.count, List.count, List.countP_map]
    refine List.countP_congr fun m hm => ?_
    simpa using h.injOn.eq_iff (hmem m hm) hn
  · rw [UseCounts.get_ofNames, List.count_pos_iff] at hm
    obtain ⟨n, hn, heq⟩ := List.mem_map.1 hm
    exact ⟨n, hmem n hn, heq⟩

end Counts

section Inlining

variable {inlined inlined' : Rule → Rule}

/-- To rename the includes that are left is the same before inlining and after it. -/
theorem Renames.inlined_rename (h : repository.Renames f S other)
    (hi : repository.Inlinable counts) (hin : repository.Inlines counts inlined)
    (hin' : other.Inlines counts' inlined') (hget : ∀ n ∈ S, counts'.get (f n) = counts.get n)
    (r : Rule) (hr : ∀ n ∈ r.includes, n ∈ S) :
    inlined' (r.rename f) = (inlined r).rename f := by
  induction r using hi.induction with
  | once name tag body hone hb ih =>
    have hname : name ∈ S := hr name List.mem_cons_self
    have hone' : counts'.get (f name) = 1 := by rw [hget name hname, hone]
    have hb' : other.get? (f name) = some (body.rename f) := by rw [h.entry name hname, hb]; rfl
    calc inlined' (Rule.rename f (.reference (.entry name) tag))
        = inlined' (body.rename f) := hin'.once (f name) tag _ hone' hb'
      _ = (inlined body).rename f := ih (h.closed name hname body hb)
      _ = (inlined (.reference (.entry name) tag)).rename f := by
          rw [hin.once name tag body hone hb]
  | kept name tag hone =>
    have hname : name ∈ S := hr name List.mem_cons_self
    have hone' : counts'.get (f name) ≠ 1 := by rwa [hget name hname]
    rw [hin.kept name tag hone]
    exact hin'.kept (f name) tag hone'
  | inside r href ih =>
    have hchildren : ∀ c ∈ r.children, inlined' (c.rename f) = (inlined c).rename f :=
      fun c hc => ih c hc fun n hn => hr n (Rule.includes_subset_of_mem_children hc hn)
    have href' : (r.mapChildren inlined).reference? = none := by
      rw [Rule.reference?_mapChildren, href]
    rw [hin'.inside _ (Rule.reference?_rename href), Rule.rename_inside href,
      hin.inside r href, Rule.rename_inside href', Rule.mapChildren_mapChildren,
      Rule.mapChildren_mapChildren]
    exact Rule.mapChildren_congr hchildren

end Inlining

end Repository

/-- The reports say of the new names what they say of the old ones, in whatever order. -/
structure Report.Renamed (f : String → String) (report report' : Report) : Prop where
  findings : report'.findings.Perm (report.findings.map (Finding.rename f))
  counts : report'.counts.table = report.counts.table.rename f id
  referenced : report'.referenced = report.referenced
  entriesBefore : report'.entriesBefore = report.entriesBefore
  entriesAfter : report'.entriesAfter = report.entriesAfter
  inlined : report'.inlined.Perm (report.inlined.map f)
  shared : report'.shared.Perm (report.shared.map f)
  pruned : report'.pruned.Perm (report.pruned.map f)

/-- Both runs end with a report, both are denied, or both stop with the same error. -/
inductive Run.Renamed (f : String → String) :
    Except GrammarError Report → Except GrammarError Report → Prop
  | report {report report' : Report} (h : report.Renamed f report') :
    Renamed f (.ok report) (.ok report')
  | denied {findings findings' : List Finding}
    (h : findings'.Perm (findings.map (Finding.rename f))) :
    Renamed f (.error (.denied findings)) (.error (.denied findings'))
  | unresolved (name : String) :
    Renamed f (.error (.unresolved name)) (.error (.unresolved (f name)))
  | noPatterns : Renamed f (.error .noPatterns) (.error .noPatterns)

namespace Grammar

/-- The names of the entries and of all includes, also of those that have no entry. -/
def names (g : Grammar) : List String := g.repository.keys ++ g.repository.mentions g.patterns

variable {g : Grammar} {f : String → String} {counts counts' : UseCounts} {c c' : Compaction}
  {name : String}

theorem mem_names_of_key (h : name ∈ g.repository.keys) : name ∈ g.names :=
  List.mem_append_left _ h

theorem mem_names_of_reachable (h : g.repository.Reachable g.patterns name) : name ∈ g.names :=
  List.mem_append_right _ h.mem_mentions

theorem mem_names_of_pattern (h : name ∈ Rule.includesList g.patterns) : name ∈ g.names :=
  mem_names_of_reachable (.pattern h)

theorem mem_names_of_counts (hcounted : g.repository.Counted g.patterns counts)
    (h : 0 < counts.get name) : name ∈ g.names :=
  mem_names_of_reachable ((hcounted.pos_iff name).1 h)

theorem renames_rename (hf : Set.InjOn f {n | n ∈ g.names}) :
    g.repository.Renames f {n | n ∈ g.names} (g.rename f).repository where
  injOn := hf
  entry _ := Table.get?_rename hf (fun _ => mem_names_of_key) (Rule.rename f)
  closed user _ body hb _ hn :=
    List.mem_append_right _ (Repository.mem_mentions.2 (.inr ⟨user, body, hb, hn⟩))

/-- The patterns and the entries that compaction leaves, through the substitution it amounts to. -/
theorem exists_inlined_of_ofCounts (hcounted : g.repository.Counted g.patterns counts)
    (hc : Compaction.ofCounts counts g.patterns g.repository = .ok c) :
    ∃ inlined, g.repository.Inlines counts inlined ∧ c.patterns = g.patterns.map inlined ∧
      ∀ name, c.repository.get? name =
        if 2 ≤ counts.get name then (g.repository.get? name).map inlined else none := by
  obtain ⟨inlined, hin⟩ := hcounted.inlinable.exists_inlines
  have hg : g.Inlined counts inlined (Run.afterCount g .none counts).grammar :=
    inlined_afterCount hcounted hin
  rw [Run.afterCount, hc] at hg
  exact ⟨inlined, hin, hg.patterns, hg.repository⟩

/-- Lists of different names are renamed ones if their names are. -/
theorem perm_map_of_mem_iff {names names' : List String} (hf : Set.InjOn f {n | n ∈ g.names})
    (hnodup : names.Nodup) (hnodup' : names'.Nodup) (hnames : ∀ n ∈ names, n ∈ g.names)
    (h : ∀ n ∈ g.names, f n ∈ names' ↔ n ∈ names) (hnew : ∀ m ∈ names', ∃ n ∈ g.names, f n = m) :
    names'.Perm (names.map f) := by
  have hmap : (names.map f).Nodup :=
    hnodup.map_on fun n hn m hm heq => hf (hnames n hn) (hnames m hm) heq
  refine (List.perm_ext_iff_of_nodup hnodup' hmap).2 fun m => ?_
  constructor
  · intro hm
    obtain ⟨n, hn, rfl⟩ := hnew m hm
    exact List.mem_map_of_mem ((h n hn).1 hm)
  · intro hm
    obtain ⟨n, hn, rfl⟩ := List.mem_map.1 hm
    exact (h n (hnames n hn)).2 hn

/-- Findings about unused entries follow the names of these. -/
theorem map_unused_perm {names names' : List String} (h : names'.Perm (names.map f)) :
    (names'.map (Finding.mk .unused)).Perm
      ((names.map (Finding.mk .unused)).map (Finding.rename f)) := by
  rw [List.map_map]
  exact (h.map _).trans (.of_eq (List.map_map ..))

section Compactions

variable (hf : Set.InjOn f {n | n ∈ g.names})
include hf

theorem pruned_perm (hget : ∀ n ∈ g.names, counts'.get (f n) = counts.get n)
    (hc : Compaction.ofCounts counts g.patterns g.repository = .ok c)
    (hc' : Compaction.ofCounts counts' (g.rename f).patterns (g.rename f).repository = .ok c') :
    c'.pruned.Perm (c.pruned.map f) := by
  have hkeys : ∀ n ∈ g.repository.keys, n ∈ {n | n ∈ g.names} := fun _ => mem_names_of_key
  rw [Compaction.pruned_of_ofCounts hc, Compaction.pruned_of_ofCounts hc']
  refine perm_map_of_mem_iff hf (g.repository.keys_nodup.filter _) ((Table.keys_nodup _).filter _)
    (fun n hn => mem_names_of_key (List.mem_filter.1 hn).1) (fun n hn => ?_) fun m hm => ?_
  · rw [List.mem_filter, List.mem_filter, hget n hn, Table.mem_keys_iff, Table.mem_keys_iff,
      (renames_rename hf).entry n hn, Option.isSome_map]
  · have hm := (List.mem_filter.1 hm).1
    obtain ⟨n, hn, heq⟩ := List.mem_map.1 ((Table.mem_keys_rename hf hkeys (Rule.rename f)).1 hm)
    exact ⟨n, mem_names_of_key hn, heq⟩

variable (hcounted : g.repository.Counted g.patterns counts)
  (hget : ∀ n ∈ g.names, counts'.get (f n) = counts.get n)
  (hnew : ∀ m, 0 < counts'.get m → ∃ n ∈ g.names, f n = m)
include hcounted hget hnew

theorem table_rename : counts'.table = counts.table.rename f id := by
  have hkeys : ∀ n ∈ counts.table.keys, n ∈ {n | n ∈ g.names} := by
    intro n hn
    have hpos := Nat.pos_of_ne_zero (UseCounts.mem_keys_table.1 hn)
    exact mem_names_of_counts hcounted hpos
  refine Table.eq_rename hf hkeys (fun n hn => ?_) fun m hm => ?_
  · rw [Option.map_id_fun, id, UseCounts.get?_table, UseCounts.get?_table, hget n hn]
  · exact hnew m (Nat.pos_of_ne_zero (UseCounts.mem_keys_table.1 hm))

/-- What the counts tell of the names in use, they tell of the new names too. -/
theorem perm_map_of_counts {names names' : List String} {p : Nat → Prop} (hp : ∀ k, p k → 0 < k)
    (hnodup : names.Nodup) (hnodup' : names'.Nodup) (h : ∀ n, n ∈ names ↔ p (counts.get n))
    (h' : ∀ m, m ∈ names' ↔ p (counts'.get m)) : names'.Perm (names.map f) := by
  refine perm_map_of_mem_iff hf hnodup hnodup' (fun n hn => ?_) (fun n hn => ?_) fun m hm => ?_
  · exact mem_names_of_counts hcounted (hp _ ((h n).1 hn))
  · rw [h, h', hget n hn]
  · exact hnew m (hp _ ((h' m).1 hm))

variable (hcounted' : (g.rename f).repository.Counted (g.rename f).patterns counts')
  (hc : Compaction.ofCounts counts g.patterns g.repository = .ok c)
  (hc' : Compaction.ofCounts counts' (g.rename f).patterns (g.rename f).repository = .ok c')
include hcounted' hc hc'

theorem inlined_perm : c'.inlined.Perm (c.inlined.map f) := by
  have hnodup := (Compaction.keys_perm_of_ofCounts hc).nodup_iff.2 g.repository.keys_nodup
  have hnodup' := (Compaction.keys_perm_of_ofCounts hc').nodup_iff.2 (Table.keys_nodup _)
  exact perm_map_of_counts hf hcounted hget hnew (p := (· = 1)) (fun k hk => by omega)
    hnodup.of_append_left.of_append_left hnodup'.of_append_left.of_append_left
    (fun _ => mem_inlined_iff hcounted hc) fun _ => mem_inlined_iff hcounted' hc'

theorem kept_perm : c'.repository.keys.Perm (c.repository.keys.map f) :=
  perm_map_of_counts hf hcounted hget hnew (p := (2 ≤ ·)) (fun k hk => by omega)
    (Table.keys_nodup _) (Table.keys_nodup _) (fun _ => mem_kept_iff hcounted hc)
    fun _ => mem_kept_iff hcounted' hc'

/-- Compaction of the renamed grammar gives the renamed grammar. -/
theorem ofCounts_rename :
    c'.patterns = c.patterns.map (Rule.rename f) ∧ c'.repository = c.repository.rename f := by
  obtain ⟨inlined, hin, hpatterns, hrepository⟩ := exists_inlined_of_ofCounts hcounted hc
  obtain ⟨inlined', hin', hpatterns', hrepository'⟩ := exists_inlined_of_ofCounts hcounted' hc'
  have hrenames := renames_rename hf
  have hrule : ∀ r : Rule, (∀ n ∈ r.includes, n ∈ g.names) →
      inlined' (r.rename f) = (inlined r).rename f :=
    hrenames.inlined_rename hcounted.inlinable hin hin' hget
  constructor
  · rw [hpatterns', hpatterns, rename, List.map_map, List.map_map]
    refine List.map_congr_left fun r hr => hrule r fun n hn => mem_names_of_pattern ?_
    rw [Rule.includesList_eq_flatMap]
    exact List.mem_flatMap.2 ⟨r, hr, hn⟩
  · have hkeys : ∀ n ∈ c.repository.keys, n ∈ {n | n ∈ g.names} := by
      intro n hn
      have htwo := (mem_kept_iff hcounted hc).1 hn
      exact mem_names_of_counts hcounted (by omega)
    refine Table.eq_rename hf hkeys (fun n hn => ?_) fun m hm => ?_
    · rw [hrepository', hrepository, hget n hn, hrenames.entry n hn]
      split_ifs
      · cases hb : g.repository.get? n with
        | none => rfl
        | some body => exact congrArg some (hrule body (hrenames.closed n hn body hb))
      · rfl
    · have htwo := (mem_kept_iff hcounted' hc').1 hm
      exact hnew m (by omega)

theorem report_renamed :
    (Report.ofCompaction g counts c).Renamed f (.ofCompaction (g.rename f) counts' c') where
  findings := by
    rw [findings_ofCompaction hcounted hc, findings_ofCompaction hcounted' hc']
    exact map_unused_perm (pruned_perm hf hget hc hc')
  counts := table_rename hf hcounted hget hnew
  referenced := by
    have hinlined := (inlined_perm hf hcounted hget hnew hcounted' hc hc').length_eq
    have hkept := (kept_perm hf hcounted hget hnew hcounted' hc hc').length_eq
    show counts'.size = counts.size
    rw [size_counts hcounted hc, size_counts hcounted' hc', hinlined, hkept, List.length_map,
      List.length_map]
  entriesBefore := Table.size_rename hf (fun _ => mem_names_of_key) _
  entriesAfter := by
    have hlength := (kept_perm hf hcounted hget hnew hcounted' hc hc').length_eq
    rw [List.length_map, Table.keys, Table.keys, List.length_map, List.length_map] at hlength
    exact hlength
  inlined := inlined_perm hf hcounted hget hnew hcounted' hc hc'
  shared := by
    have hkept := kept_perm hf hcounted hget hnew hcounted' hc hc'
    rwa [shared_ofCompaction hcounted hc, shared_ofCompaction hcounted' hc']
  pruned := pruned_perm hf hget hc hc'

end Compactions

/-- The check passes for the renamed grammar if the new names of the entries can be written. -/
theorem check_rename (hf : Set.InjOn f {n | n ∈ g.names}) (hpatterns : g.patterns ≠ [])
    (hkeys : ∀ key ∈ g.repository.keys, IsWritable (f key)) : (g.rename f).check = .ok () := by
  refine check_eq_ok (mt List.map_eq_nil_iff.1 hpatterns) fun key hkey => ?_
  rw [rename, Repository.rename,
    Table.mem_keys_rename hf (fun _ => mem_names_of_key) (Rule.rename f)] at hkey
  obtain ⟨n, hn, rfl⟩ := List.mem_map.1 hkey
  exact hkeys n hn

/-- After a count that has succeeded both runs are denied, or both end with a report. -/
theorem run_rename_of_countUses (deny : FindingSet) (hf : Set.InjOn f {n | n ∈ g.names})
    (hcheck : g.check = .ok ()) (hcheck' : (g.rename f).check = .ok ())
    (hcount : g.repository.countUses g.patterns = .ok counts) :
    ((g.rename f).run deny).grammar = (g.run deny).grammar.rename f ∧
    Run.Renamed f (g.run deny).result ((g.rename f).run deny).result := by
  obtain ⟨counts', hcount', hget, hnew⟩ :=
    (renames_rename hf).countUses_ok (fun _ => mem_names_of_pattern) hcount
  have hcounted := Repository.counted_of_countUses hcount
  have hcounted' := Repository.counted_of_countUses hcount'
  obtain ⟨c, hc⟩ := exists_compaction hcount
  obtain ⟨c', hc'⟩ := exists_compaction (g := g.rename f) hcount'
  obtain ⟨hgrammar, hresult⟩ := run_of_countUses deny hcheck hcount hc
  obtain ⟨hgrammar', hresult'⟩ := run_of_countUses (g := g.rename f) deny hcheck' hcount' hc'
  constructor
  · obtain ⟨hleft, hkept⟩ := ofCounts_rename hf hcounted hget hnew hcounted' hc hc'
    rw [hgrammar, hgrammar', hleft, hkept]
    rfl
  · have hpruned := pruned_perm hf hget hc hc'
    have hnil : c'.pruned ≠ [] ↔ c.pruned ≠ [] := by
      rw [← List.length_pos_iff, hpruned.length_eq, List.length_map, List.length_pos_iff]
    rw [hresult, hresult']
    by_cases hdenied : deny.contains .unused = true ∧ c.pruned ≠ []
    · rw [if_pos hdenied, if_pos ⟨hdenied.1, hnil.2 hdenied.2⟩]
      exact .denied (map_unused_perm hpruned)
    · rw [if_neg hdenied, if_neg fun h => hdenied ⟨h.1, hnil.1 h.2⟩]
      exact .report (report_renamed hf hcounted hget hnew hcounted' hc hc')

/--
A run does not depend on what the entries are called. Different names stay different, and all
entries have names for which an include can be written, before and after. Then the grammar that is
left, with its new names, is the one that is left under the new names. The runs end alike, and so do
the counts; what is inlined, shared, pruned and found differs at most in its order.
-/
theorem run_rename (g : Grammar) (deny : FindingSet) (f : String → String)
    (hf : Set.InjOn f {n | n ∈ g.names}) (hwritable : g.Writable)
    (hkeys : ∀ key ∈ g.repository.keys, IsWritable (f key)) :
    ((g.rename f).run deny).grammar = (g.run deny).grammar.rename f ∧
    Run.Renamed f (g.run deny).result ((g.rename f).run deny).result := by
  by_cases hpatterns : g.patterns = []
  · have hpatterns' : (g.rename f).patterns = [] := List.map_eq_nil_iff.2 hpatterns
    rw [run_of_nil deny hpatterns, run_of_nil deny hpatterns']
    exact ⟨rfl, .noPatterns⟩
  have hcheck : g.check = .ok () := check_eq_ok hpatterns hwritable
  have hcheck' : (g.rename f).check = .ok () := check_rename hf hpatterns hkeys
  cases hcount : g.repository.countUses g.patterns with
  | error e =>
    obtain ⟨name, rfl, -⟩ := unresolved_of_countUses hcount
    have hcount' : (g.rename f).repository.countUses (g.rename f).patterns =
        .error (.unresolved (f name)) :=
      (renames_rename hf).countUses_error (fun _ => mem_names_of_pattern) hcount
    obtain ⟨hgrammar, hresult⟩ := run_of_countUses_error deny hcheck hcount
    obtain ⟨hgrammar', hresult'⟩ := run_of_countUses_error deny hcheck' hcount'
    rw [hgrammar, hgrammar', hresult, hresult']
    exact ⟨rfl, .unresolved name⟩
  | ok counts => exact run_rename_of_countUses deny hf hcheck hcheck' hcount

/-- With these names the entry that is used inside of the other one comes after it. -/
theorem run_rename_circular :
    (Set.InjOn (Equiv.swap "argument" "wrapped") {n | n ∈ circular.names} ∧ circular.Writable ∧
      ∀ key ∈ circular.repository.keys, IsWritable (Equiv.swap "argument" "wrapped" key)) ∧
    ((circular.rename (Equiv.swap "argument" "wrapped")).run .none).grammar =
      (circular.run .none).grammar.rename (Equiv.swap "argument" "wrapped") ∧
    Run.Renamed (Equiv.swap "argument" "wrapped") (circular.run .none).result
      ((circular.rename (Equiv.swap "argument" "wrapped")).run .none).result := by
  have hf : Set.InjOn (Equiv.swap "argument" "wrapped") {n | n ∈ circular.names} :=
    (Equiv.swap "argument" "wrapped").injective.injOn
  have hwritable : circular.Writable := by decide +kernel
  have hkeys : ∀ key ∈ circular.repository.keys,
      IsWritable (Equiv.swap "argument" "wrapped" key) := by decide +kernel
  exact ⟨⟨hf, hwritable, hkeys⟩,
    run_rename circular .none (Equiv.swap "argument" "wrapped") hf hwritable hkeys⟩

end Grammar

end TextMate
