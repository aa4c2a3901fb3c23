import TextMate.Proofs.Review.Reading

/-! What a configuration can hold. Its entries, each on a line of its own, are read as it again. -/
namespace TextMate.Review.Config

/-- A key that stands in front of a colon and makes no comment of its line. -/
structure IsKey (key : String) : Prop where
  trimmed : Text.Trimmed key.toList
  colon : ':' ∉ key.toList
  feed : '\n' ∉ key.toList
  comment : key.toList.head? ≠ some '#'

structure IsValue (value : String) : Prop where
  trimmed : Text.Trimmed value.toList
  feed : '\n' ∉ value.toList

/-- An entry as it is written on a line. -/
def entryText (e : String × String) : String := e.1 ++ ": " ++ e.2

def written (entries : List (String × String)) : String :=
  .join (entries.map fun e => entryText e ++ "\n")

section Read

variable {text key value : String} {line : List Char}

/-- A line that counts is trimmed and does not go over to the next one. -/
theorem of_mem_entryLines (h : line ∈ entryLines text) :
    Text.Trimmed line ∧ '\n' ∉ line ∧ line.head? ≠ some '#' := by
  rw [entryLines_eq, List.mem_filter] at h
  obtain ⟨hline, hcontent⟩ := h
  obtain ⟨piece, hpiece, rfl⟩ := List.mem_map.1 hline
  have hfeed : '\n' ∉ piece := Text.not_mem_of_mem_pieces hpiece
  have hhead : (Text.trim piece).head? ≠ some '#' := (of_decide_eq_true hcontent).2
  exact ⟨Text.stripped_strip _ _, fun hmem => hfeed ((Text.strip_infix _ _).subset hmem), hhead⟩

theorem isKey_of_isEntry (h : line ∈ entryLines text) (hentry : IsEntry line key value) :
    IsKey key := by
  obtain ⟨htrimmed, hfeed, hcomment⟩ := of_mem_entryLines h
  obtain ⟨before, after, rfl, hcolon, rfl, rfl⟩ := hentry
  have hinside : Text.trim before ⊆ before := (Text.strip_infix _ _).subset
  have hfront : ∀ c ∈ before.head?, c ∈ (before ++ ':' :: after).head? := by
    intro c hc
    rw [List.head?_append, Option.mem_def.1 hc]
    rfl
  have hhead : (Text.trim before).head? = before.head? := by
    rw [Text.trim, Text.head?_strip,
      Text.dropWhile_eq_self fun c hc => htrimmed.head c (hfront c hc)]
  constructor
  · rw [String.toList_ofList]
    exact Text.stripped_strip _ _
  · rw [String.toList_ofList]
    exact fun hmem => hcolon (hinside hmem)
  · rw [String.toList_ofList]
    exact fun hmem => hfeed (List.mem_append_left _ (hinside hmem))
  · rw [String.toList_ofList, hhead]
    exact fun hmem => hcomment (hfront '#' hmem)

theorem isValue_of_isEntry (h : line ∈ entryLines text) (hentry : IsEntry line key value) :
    IsValue value := by
  obtain ⟨-, hfeed, -⟩ := of_mem_entryLines h
  obtain ⟨before, after, rfl, -, rfl, rfl⟩ := hentry
  constructor
  · rw [String.toList_ofList]
    exact Text.stripped_strip _ _
  · rw [String.toList_ofList]
    intro hmem
    have hafter : '\n' ∈ after := (Text.strip_infix _ _).subset hmem
    exact hfeed (List.mem_append_right before (List.mem_cons_of_mem ':' hafter))

end Read

section Written

variable {key value : String}

theorem toList_entryText (key value : String) :
    (entryText (key, value)).toList = key.toList ++ ':' :: ' ' :: value.toList := by
  simp [entryText]

/-- Without a value the blank behind the colon is trimmed as well. -/
theorem exists_trim_entryText (hkey : IsKey key) (hvalue : IsValue value) :
    ∃ rest, Text.trim (entryText (key, value)).toList = key.toList ++ ':' :: rest ∧
      Text.trim rest = value.toList := by
  have hhead : ∀ rest : List Char, ∀ c ∈ (key.toList ++ ':' :: rest).head?,
      Text.isBlank c = false := by
    intro rest c hc
    cases h : key.toList with
    | nil =>
      rw [h] at hc
      cases hc
      decide
    | cons k ks =>
      rw [h] at hc
      cases hc
      exact hkey.trimmed.head _ (by rw [h]; rfl)
  rw [toList_entryText]
  cases h : value.toList with
  | nil =>
    refine ⟨[], ?_, rfl⟩
    have hline : key.toList ++ [':', ' '] = (key.toList ++ [':']) ++ [' '] := by simp
    have hstripped : Text.Trimmed (key.toList ++ [':']) := by
      refine ⟨hhead [], fun c hc => ?_⟩
      rw [List.getLast?_concat] at hc
      cases hc
      decide
    rw [hline, Text.trim, Text.strip_concat (by decide), hstripped.strip_eq]
  | cons v vs =>
    have htrimmed := hvalue.trimmed
    rw [h] at htrimmed
    refine ⟨' ' :: v :: vs, ?_, ?_⟩
    · have hstripped : Text.Trimmed (key.toList ++ ':' :: ' ' :: v :: vs) := by
        refine ⟨hhead _, fun c hc => htrimmed.last c ?_⟩
        simpa [List.getLast?_append, List.getLast?_cons_cons] using hc
      exact hstripped.strip_eq
    · rw [Text.trim, Text.strip_cons (by decide)]
      exact htrimmed.strip_eq

theorem isContent_entryText (hkey : IsKey key) (hvalue : IsValue value) :
    isContent (Text.trim (entryText (key, value)).toList) = true := by
  obtain ⟨rest, hline, -⟩ := exists_trim_entryText hkey hvalue
  have hcomment := hkey.comment
  rw [hline]
  cases h : key.toList with
  | nil => rfl
  | cons k ks =>
    rw [h] at hcomment
    simpa [isContent] using hcomment

theorem entry?_entryText (hkey : IsKey key) (hvalue : IsValue value) :
    entry? (Text.trim (entryText (key, value)).toList) = some (key, value) := by
  obtain ⟨rest, hline, hrest⟩ := exists_trim_entryText hkey hvalue
  have htrim : Text.trim key.toList = key.toList := hkey.trimmed.strip_eq
  refine entry?_eq_some_iff.2 ⟨key.toList, rest, hline, hkey.colon, ?_, ?_⟩
  · rw [htrim, String.ofList_toList]
  · rw [hrest, String.ofList_toList]

/-- The line of an entry ends where it is written to end. -/
theorem lines_entryText (hkey : IsKey key) (hvalue : IsValue value) (rest : List Char) :
    Text.lines ((entryText (key, value)).toList ++ '\n' :: rest) =
      (entryText (key, value)).toList :: Text.lines rest := by
  rw [toList_entryText]
  refine Text.lines_append ?_ ?_ rest
  · simp [hkey.feed, hvalue.feed]
  · intro hlast
    cases h : value.toList with
    | nil => simp [h] at hlast
    | cons v vs =>
      have hreturn : '\r' ∈ value.toList.getLast? := by
        rw [h] at hlast ⊢
        simpa [List.getLast?_append, List.getLast?_cons_cons] using hlast
      have hblank := hvalue.trimmed.last '\r' hreturn
      exact absurd hblank (by decide)

end Written

section Rereading

variable {entries : List (String × String)} {text path : String} {c : Config}

theorem lines_written (h : ∀ e ∈ entries, IsKey e.1 ∧ IsValue e.2) :
    Text.lines (written entries).toList = entries.map fun e => (entryText e).toList := by
  unfold written
  induction entries with
  | nil => rfl
  | cons e rest ih =>
    obtain ⟨⟨hkey, hvalue⟩, hrest⟩ := List.forall_mem_cons.1 h
    have hline := lines_entryText hkey hvalue
    have hrest := ih hrest
    simp only [String.toList_join] at hrest ⊢
    rw [List.map_cons, List.flatMap_cons, String.toList_append, List.append_assoc]
    exact (hline _).trans (congrArg _ hrest)

theorem parse_of_lines (h : ∀ e ∈ entries, IsKey e.1 ∧ IsValue e.2)
    (hlines : Text.lines text.toList = entries.map fun e => (entryText e).toList) (path : String) :
    parse text path = .ok ⟨.ofList entries⟩ := by
  have hentryLines : entryLines text = entries.map fun e => Text.trim (entryText e).toList := by
    rw [entryLines, hlines, List.map_map]
    refine List.filter_eq_self.2 fun line hline => ?_
    obtain ⟨e, he, rfl⟩ := List.mem_map.1 hline
    exact isContent_entryText (h e he).1 (h e he).2
  have hread : ∀ e ∈ entries, entry? (Text.trim (entryText e).toList) = some e :=
    fun e he => entry?_entryText (h e he).1 (h e he).2
  have hentries : (entryLines text).filterMap entry? = entries := by
    rw [hentryLines, List.filterMap_map]
    exact (List.filterMap_congr hread).trans List.filterMap_some
  have hcolons : ∀ line ∈ entryLines text, ':' ∈ line := by
    rw [hentryLines]
    intro line hline
    obtain ⟨e, he, rfl⟩ := List.mem_map.1 hline
    exact colon_of_entry? (hread e he)
  exact parse_eq_ok_iff.2 ⟨hcolons, by rw [hentries]⟩

theorem isKey_isValue_of_parse (h : parse text path = .ok c) :
    ∀ e ∈ c.toList, IsKey e.1 ∧ IsValue e.2 := by
  intro e he
  obtain ⟨-, rfl⟩ := parse_eq_ok_iff.1 h
  have hget := Table.get?_eq_some_iff.2 he
  obtain ⟨before, line, after, hlines, hentry, -⟩ := get?_ofList_entries.1 hget
  have hline : line ∈ entryLines text := by
    rw [hlines]
    exact List.mem_append_right before List.mem_cons_self
  exact ⟨isKey_of_isEntry hline hentry, isValue_of_isEntry hline hentry⟩

end Rereading

/--
The keys and values that are read are keys and values when they are read again, so that the entries
make the same configuration, in whatever order they are written.
-/
theorem parse_canonical (text path : String) (c : Config) (h : parse text path = .ok c) :
    (∀ e ∈ c.toList, IsKey e.1 ∧ IsValue e.2) ∧
    ∀ entries : List (String × String), entries.Perm c.toList → ∀ path',
      parse (written entries) path' = .ok c ∧
      ∀ text', Text.lines text'.toList = entries.map (fun e => (entryText e).toList) →
        parse text' path' = .ok c := by
  have hread := isKey_isValue_of_parse h
  refine ⟨hread, fun entries hperm path' => ?_⟩
  have hentries : ∀ e ∈ entries, IsKey e.1 ∧ IsValue e.2 := fun e he => hread e (hperm.mem_iff.1 he)
  have htable : (⟨.ofList entries⟩ : Config) = c := congrArg Config.mk (Table.ofList_of_perm hperm)
  rw [← htable]
  exact ⟨parse_of_lines hentries (lines_written hentries) path', fun text' hlines =>
    parse_of_lines hentries hlines path'⟩

/-- An empty key, a key that ends like a comment starts, and values with a colon and a comment. -/
theorem parse_canonical_settings :
    parse " :#\ra:\u00a0\n\u2003k#: v:w\u3000\r\n" "codereview.cfg" =
        .ok ⟨.ofList [("", "#\ra:"), ("k#", "v:w")]⟩ ∧
      parse (written [("k#", "v:w"), ("", "#\ra:")]) "again.cfg" =
        .ok ⟨.ofList [("", "#\ra:"), ("k#", "v:w")]⟩ := by
  have h : parse " :#\ra:\u00a0\n\u2003k#: v:w\u3000\r\n" "codereview.cfg" =
      .ok ⟨.ofList [("", "#\ra:"), ("k#", "v:w")]⟩ := rfl
  obtain ⟨-, hwritten⟩ := parse_canonical _ _ _ h
  exact ⟨h, (hwritten [("k#", "v:w"), ("", "#\ra:")] (by decide) "again.cfg").1⟩

end TextMate.Review.Config
