import TextMate.Proofs.Table
import TextMate.Proofs.Text
import TextMate.Review.Config

/-!
What a configuration is read as. Only the trimmed lines that are neither blank nor comments count:
the first one without a colon is the error, and if there is none, the last one of each key is its
entry.
-/
namespace TextMate.Review.Config

/-- Neither blank nor a comment. -/
def isContent (line : List Char) : Bool := line ≠ [] ∧ line.head? ≠ some '#'

/-- The lines that must be entries, trimmed. -/
def entryLines (text : String) : List (List Char) :=
  ((Text.lines text.toList).map Text.trim).filter isContent

/-- The first colon of a line stands between its key and its value. -/
def IsEntry (line : List Char) (key value : String) : Prop :=
  ∃ before after, line = before ++ ':' :: after ∧ ':' ∉ before ∧
    key = .ofList (Text.trim before) ∧ value = .ofList (Text.trim after)

/-- No line behind the entry has the same key. -/
def IsLastEntry (lines : List (List Char)) (key value : String) : Prop :=
  ∃ before line after, lines = before ++ line :: after ∧ IsEntry line key value ∧
    ∀ other ∈ after, ∀ v, ¬ IsEntry other key v

/-- The entries of both, those of the second one where both have the key. -/
def overriddenBy (c other : Config) : Config :=
  ⟨other.toList.foldl (fun t e => t.insert e.1 e.2) c.entries⟩

section Lines

variable {line : List Char} {lines : List (List Char)} {key value : String} {t t' : Table String}

theorem entry?_eq_some_iff : entry? line = some (key, value) ↔ IsEntry line key value := by
  unfold entry?
  rw [Option.map_eq_some_iff]
  constructor
  · rintro ⟨⟨before, after⟩, hcut, heq⟩
    obtain ⟨hline, hbefore⟩ := Text.cutAt_eq_some_iff.1 hcut
    obtain ⟨hkey, hvalue⟩ := Prod.mk.inj heq
    exact ⟨before, after, hline, hbefore, hkey.symm, hvalue.symm⟩
  · rintro ⟨before, after, hline, hbefore, rfl, rfl⟩
    exact ⟨(before, after), Text.cutAt_eq_some_iff.2 ⟨hline, hbefore⟩, rfl⟩

theorem entry?_eq_none_iff : entry? line = none ↔ ':' ∉ line := by
  unfold entry?
  rw [Option.map_eq_none_iff, Text.cutAt_eq_none_iff]

theorem colon_of_entry? {e : String × String} (h : entry? line = some e) : ':' ∈ line := by
  by_contra hcolon
  rw [entry?_eq_none_iff.2 hcolon] at h
  cases h

theorem isContent_eq (line : List Char) : isContent line = !isSkipped line := by
  cases line <;> simp [isContent, isSkipped]

/-- Skipped lines have no part in the reading. -/
theorem readLines_filter (t : Table String) (lines : List (List Char)) :
    readLines t (lines.filter isContent) = readLines t lines := by
  induction lines generalizing t with
  | nil => rfl
  | cons line rest ih =>
    have hcontent := isContent_eq line
    cases hskip : isSkipped line with
    | true =>
      rw [hskip] at hcontent
      rw [List.filter_cons_of_neg (by simp [hcontent]), ih, readLines, if_pos hskip]
    | false =>
      rw [hskip] at hcontent
      rw [List.filter_cons_of_pos (by simp [hcontent])]
      simp only [readLines, hskip, ih]

/-- The first line without a colon is the error, and without one every line makes an entry. -/
theorem readLines_eq (hcontent : ∀ line ∈ lines, isContent line = true) (t : Table String) :
    readLines t lines =
      match lines.find? (':' ∉ ·) with
      | some line => .error line
      | none => .ok ((lines.filterMap entry?).foldl (fun t e => t.insert e.1 e.2) t) := by
  induction lines generalizing t with
  | nil => rfl
  | cons line rest ih =>
    obtain ⟨hline, hrest⟩ := List.forall_mem_cons.1 hcontent
    have hskip : isSkipped line = false := by
      rw [isContent_eq] at hline
      simpa using hline
    cases hentry : entry? line with
    | none =>
      have hcolon : ':' ∉ line := entry?_eq_none_iff.1 hentry
      simp [readLines, hskip, hentry, hcolon]
    | some e =>
      have hcolon : ':' ∈ line := colon_of_entry? hentry
      simp [readLines, hskip, hentry, hcolon, ih hrest]

end Lines

section Entries

variable {line : List Char} {lines : List (List Char)} {key value : String}

theorem isLastEntry_concat :
    IsLastEntry (lines ++ [line]) key value ↔
      IsEntry line key value ∨ (∀ v, ¬ IsEntry line key v) ∧ IsLastEntry lines key value := by
  constructor
  · rintro ⟨before, l, after, hsplit, hentry, hafter⟩
    rcases List.eq_nil_or_concat' after with rfl | ⟨after, b, rfl⟩
    · obtain ⟨-, hline⟩ := List.append_inj' hsplit rfl
      obtain rfl := List.singleton_inj.1 hline
      exact .inl hentry
    · rw [← List.cons_append, ← List.append_assoc] at hsplit
      obtain ⟨hlines, hline⟩ := List.append_inj' hsplit rfl
      obtain rfl := List.singleton_inj.1 hline
      refine .inr ⟨hafter line (by simp), before, l, after, hlines, hentry, fun other hother => ?_⟩
      exact hafter other (List.mem_append_left _ hother)
  · rintro (hentry | ⟨hnone, before, l, after, rfl, hentry, hafter⟩)
    · exact ⟨lines, line, [], rfl, hentry, by simp⟩
    · refine ⟨before, l, after ++ [line], by simp, hentry, fun other hother => ?_⟩
      rcases List.mem_append.1 hother with hother | hother
      · exact hafter other hother
      · exact List.mem_singleton.1 hother ▸ hnone

theorem get?_ofList_entries :
    (Table.ofList (lines.filterMap entry?)).get? key = some value ↔
      IsLastEntry lines key value := by
  rw [Table.get?_ofList]
  induction lines using List.reverseRecOn with
  | nil => simp [IsLastEntry]
  | append_singleton lines line ih =>
    rw [isLastEntry_concat, ← ih, List.filterMap_append, List.reverse_append]
    simp only [← entry?_eq_some_iff]
    cases hentry : entry? line with
    | none => simp [hentry]
    | some e =>
      obtain ⟨k, v⟩ := e
      have hpairs : List.filterMap entry? [line] = [(k, v)] := by simp [hentry]
      rw [hpairs, List.reverse_singleton, List.singleton_append, Table.lookup_cons_eq_ite]
      by_cases hkey : key = k
      · simp [hkey]
      · simp [hkey, Ne.symm hkey]

theorem mem_keys_ofList_entries :
    key ∈ (Table.ofList (lines.filterMap entry?)).keys ↔
      ∃ line ∈ lines, ∃ value, IsEntry line key value := by
  rw [Table.mem_keys_iff, Table.get?_ofList, List.lookup_isSome_iff]
  simp only [List.mem_reverse, List.mem_filterMap, entry?_eq_some_iff, Prod.exists, beq_iff_eq]
  constructor
  · rintro ⟨k, v, ⟨line, hline, hentry⟩, rfl⟩
    exact ⟨line, hline, v, hentry⟩
  · rintro ⟨line, hline, v, hentry⟩
    exact ⟨key, v, ⟨line, hline, hentry⟩, rfl⟩

end Entries

section Texts

variable {text path : String} {c : Config} {e : ConfigError}

/-- The end of a line is trimmed with it, and behind the last line there is nothing to read. -/
theorem entryLines_eq (text : String) :
    entryLines text = (Config.lines text).filter isContent := by
  obtain ⟨ended, ending, hpieces, hended, hending⟩ := Text.exists_pieces_eq text.toList
  have hempty : (ending.map Text.trim).filter isContent = [] := by
    refine List.filter_eq_nil_iff.2 fun line hline => ?_
    obtain ⟨piece, hpiece, rfl⟩ := List.mem_map.1 hline
    rw [hending piece hpiece]
    decide
  rw [entryLines, Config.lines, hpieces, List.map_append, Text.map_trim_eq hended,
    List.filter_append, hempty, List.append_nil]

theorem parse_eq (text path : String) :
    parse text path =
      match (entryLines text).find? (':' ∉ ·) with
      | some line => .error (.badLine path (.ofList line))
      | none => .ok ⟨.ofList ((entryLines text).filterMap entry?)⟩ := by
  have hcontent : ∀ line ∈ entryLines text, isContent line = true :=
    fun line hline => (List.mem_filter.1 hline).2
  rw [parse, ← readLines_filter, ← entryLines_eq, readLines_eq hcontent]
  cases (entryLines text).find? (':' ∉ ·) <;> rfl

theorem parse_eq_ok_iff :
    parse text path = .ok c ↔
      (∀ line ∈ entryLines text, ':' ∈ line) ∧
        c = ⟨.ofList ((entryLines text).filterMap entry?)⟩ := by
  rw [parse_eq]
  cases hfind : (entryLines text).find? (':' ∉ ·) with
  | none =>
    have hcolons : ∀ line ∈ entryLines text, ':' ∈ line := by simpa using hfind
    rw [and_iff_right hcolons]
    simp [eq_comm]
  | some line =>
    have hcolon : ':' ∉ line := by simpa using List.find?_some hfind
    have hnot : ¬ ∀ line ∈ entryLines text, ':' ∈ line :=
      fun h => hcolon (h line (List.mem_of_find?_eq_some hfind))
    simp [hnot]

theorem parse_eq_error_iff :
    parse text path = .error e ↔
      ∃ before line after, entryLines text = before ++ line :: after ∧
        (∀ other ∈ before, ':' ∈ other) ∧ ':' ∉ line ∧ e = .badLine path (.ofList line) := by
  have hfirst : parse text path = .error e ↔
      ∃ line, (entryLines text).find? (':' ∉ ·) = some line ∧
        e = .badLine path (.ofList line) := by
    rw [parse_eq]
    cases (entryLines text).find? (':' ∉ ·) with
    | none => simp
    | some line => simp [eq_comm]
  rw [hfirst]
  simp only [List.find?_eq_some_iff_append, decide_eq_true_eq, Bool.not_eq_true',
    decide_eq_false_iff_not, not_not]
  constructor
  · rintro ⟨line, ⟨hcolon, before, after, hsplit, hbefore⟩, he⟩
    exact ⟨before, line, after, hsplit, hbefore, hcolon, he⟩
  · rintro ⟨before, line, after, hsplit, hbefore, hcolon, he⟩
    exact ⟨line, ⟨hcolon, before, after, hsplit, hbefore⟩, he⟩

end Texts

/--
A text is read as a configuration exactly if all its entry lines have a colon. The keys are those of
the lines, the value of a key is that of its last line, and otherwise the first line without a colon
is the error.
-/
theorem parse_entries (text path : String) :
    ((∃ c, parse text path = .ok c) ↔ ∀ line ∈ entryLines text, ':' ∈ line) ∧
    (∀ c, parse text path = .ok c → ∀ key,
      (key ∈ c.entries.keys ↔ ∃ line ∈ entryLines text, ∃ value, IsEntry line key value) ∧
      ∀ value, c.get? key = some value ↔ IsLastEntry (entryLines text) key value) ∧
    ∀ e, parse text path = .error e ↔
      ∃ before line after, entryLines text = before ++ line :: after ∧
        (∀ other ∈ before, ':' ∈ other) ∧ ':' ∉ line ∧ e = .badLine path (.ofList line) := by
  refine ⟨?_, fun c h key => ?_, fun e => parse_eq_error_iff⟩
  · constructor
    · rintro ⟨c, h⟩
      exact (parse_eq_ok_iff.1 h).1
    · intro hcolons
      exact ⟨_, parse_eq_ok_iff.2 ⟨hcolons, rfl⟩⟩
  · obtain ⟨-, rfl⟩ := parse_eq_ok_iff.1 h
    exact ⟨mem_keys_ofList_entries, fun value => get?_ofList_entries⟩

/-- Blank lines, a comment, a key that is given twice, and a carriage return inside a value. -/
theorem parse_entries_settings :
    parse "# settings\r\n\n a : 1\nb:x:\ry#\n\u3000a: 2" "codereview.cfg" =
        .ok ⟨.ofList [("a", "2"), ("b", "x:\ry#")]⟩ ∧
      IsLastEntry (entryLines "# settings\r\n\n a : 1\nb:x:\ry#\n\u3000a: 2") "a" "2" := by
  have h : parse "# settings\r\n\n a : 1\nb:x:\ry#\n\u3000a: 2" "codereview.cfg" =
      .ok ⟨.ofList [("a", "2"), ("b", "x:\ry#")]⟩ := rfl
  obtain ⟨-, hentries, -⟩ := parse_entries
    "# settings\r\n\n a : 1\nb:x:\ry#\n\u3000a: 2" "codereview.cfg"
  exact ⟨h, ((hentries _ h "a").2 "2").1 rfl⟩

section Joining

theorem get?_overriddenBy (c other : Config) (key : String) :
    (c.overriddenBy other).get? key = (other.get? key).or (c.get? key) := by
  unfold get? overriddenBy toList
  rw [Table.get?_foldl_insert, Table.lookup_reverse_entries]

/-- Later pairs override earlier ones. -/
theorem ofList_append (pairs others : List (String × String)) :
    (⟨.ofList (pairs ++ others)⟩ : Config) =
      overriddenBy ⟨.ofList pairs⟩ ⟨.ofList others⟩ := by
  refine congrArg Config.mk (Table.ext_get? fun key => ?_)
  have hget := get?_overriddenBy ⟨.ofList pairs⟩ ⟨.ofList others⟩ key
  simp only [get?, Table.get?_ofList] at hget
  calc (Table.ofList (pairs ++ others)).get? key
      = (others.reverse.lookup key).or (pairs.reverse.lookup key) := by
        rw [Table.get?_ofList, List.reverse_append, List.lookup_append]
    _ = _ := hget.symm

theorem entryLines_append (first second : String) :
    entryLines (first ++ "\n" ++ second) = entryLines first ++ entryLines second := by
  have hpieces : (first ++ "\n" ++ second).toList = first.toList ++ '\n' :: second.toList := by
    simp
  simp only [entryLines_eq, Config.lines, hpieces, Text.pieces_append, List.map_append,
    List.filter_append]

theorem entryLines_withReturns (text : String) :
    entryLines (.ofList (Text.withReturns text.toList)) = entryLines text := by
  have hpieces := Text.map_trim_eq (Text.pieces_withReturns text.toList)
  rw [entryLines_eq, entryLines_eq, Config.lines, Config.lines, String.toList_ofList, hpieces]

end Joining

/--
A text of two parts with a line feed between them is read part by part. The first part that fails
decides, and the entries of the second one replace those of the first one. Whether lines end with a
carriage return as well makes no difference.
-/
theorem parse_joined :
    (∀ first second path : String,
      parse (first ++ "\n" ++ second) path = do
        let c ← parse first path
        let other ← parse second path
        return c.overriddenBy other) ∧
    (∀ (c other : Config) (key : String),
      (c.overriddenBy other).get? key = (other.get? key).or (c.get? key)) ∧
    ∀ text path : String,
      parse (.ofList (Text.withReturns text.toList)) path = parse text path := by
  refine ⟨fun first second path => ?_, get?_overriddenBy, fun text path => ?_⟩
  · simp only [parse_eq, entryLines_append, List.find?_append, List.filterMap_append]
    cases (entryLines first).find? (':' ∉ ·) with
    | some line => rfl
    | none =>
      cases (entryLines second).find? (':' ∉ ·) with
      | some line => rfl
      | none => exact congrArg Except.ok (ofList_append _ _)
  · rw [parse_eq, parse_eq, entryLines_withReturns]

end TextMate.Review.Config
