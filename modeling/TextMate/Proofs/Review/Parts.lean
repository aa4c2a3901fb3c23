import TextMate.Proofs.Url.Segments
import TextMate.Review.Server

/-! The owner and the name that the path of a URL tells, and when one of them is missing. -/
namespace TextMate.Review

/-- Two parts, each behind a slash and without another one. -/
def IsPair (path owner name : List Char) : Prop :=
  path = '/' :: owner ++ '/' :: name ∧ '/' ∉ owner ∧ '/' ∉ name

section Pairs

variable {path owner name : List Char}

theorem IsPair.pieces_eq (h : IsPair path owner name) :
    Text.pieces '/' path = [[], owner, name] := by
  obtain ⟨rfl, howner, hname⟩ := h
  have hpieces : Text.pieces '/' ([] ++ [owner, name].flatMap ('/' :: ·)) = [[], owner, name] :=
    Url.Path.pieces_segments List.not_mem_nil (by simp [howner, hname])
  simpa using hpieces

theorem IsPair.owner_eq_nil_iff (h : IsPair path owner name) :
    owner = [] ↔ ['/', '/'] <+: path := by
  obtain ⟨rfl, howner, -⟩ := h
  cases owner with
  | nil => simp
  | cons c rest =>
    have hc : '/' ≠ c := fun heq => howner (heq ▸ List.mem_cons_self)
    simp [hc]

theorem IsPair.name_eq_nil_iff (h : IsPair path owner name) :
    name = [] ↔ path.getLast? = some '/' := by
  obtain ⟨rfl, -, hname⟩ := h
  rcases List.eq_nil_or_concat' name with rfl | ⟨init, c, rfl⟩
  · simp only [List.getLast?_concat]
  · have hc : c ≠ '/' := fun heq => hname (heq ▸ List.mem_concat_self)
    have hlast : ('/' :: owner ++ '/' :: (init ++ [c])).getLast? = some c := by
      rw [← List.cons_append, ← List.append_assoc, List.getLast?_concat]
    rw [hlast]
    simp [hc]

/-- A well formed path has two segments exactly if its text has two parts. -/
theorem segments_eq_iff {p : Url.Path} (h : p.WellFormed) :
    p = .segments [owner, name] ↔ IsPair p.text owner name := by
  constructor
  · rintro rfl
    refine ⟨by simp [Url.Path.text], h owner (by simp), h name (by simp)⟩
  · intro hpair
    cases p with
    | segments list =>
      have hpieces : Text.pieces '/' (Url.Path.segments list).text = [] :: list :=
        Url.Path.pieces_segments List.not_mem_nil h
      rw [hpair.pieces_eq] at hpieces
      rw [(List.cons.inj hpieces).2]
    | plain text =>
      have hhead : text.head? = some '/' := by
        have htext : text = _ := hpair.1
        rw [htext]
        rfl
      exact absurd hhead h

end Pairs

section Reading

variable {text : String} {u : Url} {owner name : List Char}

theorem gitHubRepository_of_isPair (h : Url.parse text = .ok u)
    (hpair : IsPair u.path.text owner name) :
    gitHubRepository text = .ok ⟨.ofList owner, .ofList name⟩ := by
  have hpath := (segments_eq_iff (Url.wellFormed_parse h)).2 hpair
  unfold gitHubRepository
  rw [h]
  simp only [hpath]

theorem gitHubRepository_of_not_isPair (h : Url.parse text = .ok u)
    (hnone : ¬ ∃ owner name, IsPair u.path.text owner name) :
    gitHubRepository text = .error (.unexpected text) := by
  unfold gitHubRepository
  rw [h]
  simp only
  split
  · rename_i owner name hpath
    exact absurd ⟨owner, name, (segments_eq_iff (Url.wellFormed_parse h)).1 hpath⟩ hnone
  · rfl

theorem gitHubRepository_eq_ok_iff {r : GitHubRepository} (h : Url.parse text = .ok u) :
    gitHubRepository text = .ok r ↔ IsPair u.path.text r.owner.toList r.name.toList := by
  constructor
  · intro hread
    by_cases hpair : ∃ owner name, IsPair u.path.text owner name
    · obtain ⟨owner, name, hpair⟩ := hpair
      rw [gitHubRepository_of_isPair h hpair] at hread
      cases hread
      rwa [String.toList_ofList, String.toList_ofList]
    · rw [gitHubRepository_of_not_isPair h hpair] at hread
      cases hread
  · intro hpair
    rw [gitHubRepository_of_isPair h hpair, String.ofList_toList, String.ofList_toList]

theorem gitHubRepository_eq_malformed_iff {e : Url.ParseError} :
    gitHubRepository text = .error (.malformed e) ↔ Url.parse text = .error e := by
  unfold gitHubRepository
  cases Url.parse text with
  | error e' => simp
  | ok u =>
    simp only [reduceCtorEq, iff_false]
    split <;> simp

end Reading

/--
An owner and a name are told exactly by a path of two parts, and they are these parts. The owner is
missing if the path starts with two slashes, the name if it ends with a slash, and both are there
otherwise.
-/
theorem gitHubRepository_parts (text : String) :
    (∀ e, gitHubRepository text = .error (.malformed e) ↔ Url.parse text = .error e) ∧
    ∀ u, Url.parse text = .ok u →
      (∀ r, gitHubRepository text = .ok r ↔
        IsPair u.path.text r.owner.toList r.name.toList) ∧
      (gitHubRepository text = .error (.unexpected text) ↔
        ¬ ∃ owner name, IsPair u.path.text owner name) ∧
      ∀ r, gitHubRepository text = .ok r →
        (r.owner = "" ↔ ['/', '/'] <+: u.path.text) ∧
        (r.name = "" ↔ u.path.text.getLast? = some '/') := by
  refine ⟨fun e => gitHubRepository_eq_malformed_iff, fun u h => ⟨fun r => ?_, ?_, ?_⟩⟩
  · exact gitHubRepository_eq_ok_iff h
  · constructor
    · rintro herror ⟨owner, name, hpair⟩
      rw [gitHubRepository_of_isPair h hpair] at herror
      cases herror
    · exact gitHubRepository_of_not_isPair h
  · intro r hread
    have hpair := (gitHubRepository_eq_ok_iff h).1 hread
    rw [← hpair.owner_eq_nil_iff, ← hpair.name_eq_nil_iff, String.toList_eq_nil_iff,
      String.toList_eq_nil_iff]
    exact ⟨Iff.rfl, Iff.rfl⟩

/-- The segments are those of the path that is left when its points are resolved. -/
theorem gitHubRepository_parts_points :
    gitHubRepository "https://github.com/a/%2e./cue-lang/cue?tab=/" = .ok ⟨"cue-lang", "cue"⟩ ∧
      IsPair "/cue-lang/cue".toList "cue-lang".toList "cue".toList := by
  have h : Url.parse "https://github.com/a/%2e./cue-lang/cue?tab=/" = .ok {
      scheme := "https"
      authority := some { host := .name "github.com".toList }
      path := .segments ["cue-lang".toList, "cue".toList]
      query := some "tab=/".toList
      fragment := none } := rfl
  have hread : gitHubRepository "https://github.com/a/%2e./cue-lang/cue?tab=/" =
      .ok ⟨"cue-lang", "cue"⟩ := rfl
  obtain ⟨-, hparts⟩ := gitHubRepository_parts "https://github.com/a/%2e./cue-lang/cue?tab=/"
  exact ⟨hread, ((hparts _ h).1 _).1 hread⟩

/-- The host is written in ASCII first, so that the path decides here too. -/
example : gitHubRepository "https://bücher.de/a" = .error (.unexpected "https://bücher.de/a") := by
  decide +kernel

/-- Behind the last slash there is a second segment, which is empty, and it is told as the name. -/
theorem gitHubRepository_trailing_slash :
    gitHubRepository "https://github.com/cue-lang/" = .ok ⟨"cue-lang", ""⟩ ∧
      ¬ ∀ text r, gitHubRepository text = .ok r → r.owner ≠ "" ∧ r.name ≠ "" := by
  have hread : gitHubRepository "https://github.com/cue-lang/" = .ok ⟨"cue-lang", ""⟩ := rfl
  exact ⟨hread, fun h => (h _ _ hread).2 rfl⟩

end TextMate.Review
