import TextMate.Proofs.Url.Web
import TextMate.Review.Server

/-! What is told of the URLs that are written from a scheme, an authority, a path and a tail. -/
namespace TextMate.Review

open Url (IsAuthorityText IsPathText IsTail)

/--
Owner and name are told as they were written into the path of a URL, whatever follows the path.
-/
theorem gitHubRepository_written {owner name tail : String} (howner : Url.Path.IsPlain owner.toList)
    (hname : Url.Path.IsPlain name.toList) (htail : IsTail tail.toList) :
    gitHubRepository ("https://github.com/" ++ owner ++ "/" ++ name ++ tail) =
      .ok ⟨owner, name⟩ := by
  have hplain : ∀ segment ∈ [owner.toList, name.toList], Url.Path.IsPlain segment := by
    simp [howner, hname]
  have hne : [owner.toList, name.toList] ≠ [] := List.cons_ne_nil _ _
  have hauthority : IsAuthorityText "github.com".toList := by constructor <;> simp
  have hpath := Url.Path.isPathText_text hne hplain
  have hread := Url.Path.isEdge_text hplain
  have htext : ("https://github.com/" ++ owner ++ "/" ++ name ++ tail).toList =
      "https".toList ++ "://".toList ++ "github.com".toList ++
        Url.Path.text (.segments [owner.toList, name.toList]) ++ tail.toList := by
    simp [Url.Path.text]
  have hparse := Url.parse_parts (.inr rfl) hauthority hpath htail htext
  have hserver : Url.Authority.parse "https" true (Url.withoutBreaks "github.com".toList) =
      .ok ({ host := .name "github.com".toList }, []) := rfl
  rw [hserver, Url.rdropWhile_eq_self hread, ite_self, Url.withoutBreaks_eq_self hread,
    Url.Path.resolved_text hne hplain] at hparse
  unfold gitHubRepository
  rw [hparse]
  change Except.ok (GitHubRepository.mk _ _) = _
  rw [String.ofList_toList, String.ofList_toList]

/-- A name of three points names no directory. -/
theorem gitHubRepository_written_points :
    (Url.Path.IsPlain "...".toList ∧ Url.Path.IsPlain "cue_lang-0.~".toList ∧
      IsTail "?q=//é\t#../ ".toList) ∧
    gitHubRepository ("https://github.com/" ++ "..." ++ "/" ++ "cue_lang-0.~" ++
      "?q=//é\t#../ ") = .ok ⟨"...", "cue_lang-0.~"⟩ := by
  have howner : Url.Path.IsPlain "...".toList := by constructor <;> simp [Url.isUnreserved]
  have hname : Url.Path.IsPlain "cue_lang-0.~".toList := by
    constructor <;> simp [Url.isUnreserved]
  have htail : IsTail "?q=//é\t#../ ".toList := by simp [IsTail]
  exact ⟨⟨howner, hname, htail⟩, gitHubRepository_written howner hname htail⟩

section Servers

variable {scheme authority path tail : String}

theorem toList_address (scheme authority path tail : String) :
    (scheme ++ "://" ++ authority ++ path ++ tail).toList =
      scheme.toList ++ "://".toList ++ authority.toList ++ path.toList ++ tail.toList := by
  simp only [String.toList_append]

/-- A server is told by the authority and by what follows the path. -/
theorem gerritServer_eq (hscheme : scheme = "http" ∨ scheme = "https")
    (hauthority : IsAuthorityText authority.toList) (hpath : IsPathText path.toList)
    (htail : IsTail tail.toList) :
    gerritServer (scheme ++ "://" ++ authority ++ path ++ tail) =
      match Url.Authority.parse scheme true (Url.withoutBreaks authority.toList) with
      | .error e => .error (.malformed e)
      | .ok (server, _) =>
        let url := Url.build scheme server (.segments [])
          (Url.cutTail (Url.withoutBreaks (tail.toList.rdropWhile Url.isEdge)))
        .ok (url.textBeforePath ++ url.textAfterPath) := by
  have htext := toList_address scheme authority path tail
  unfold gerritServer
  rw [Url.parse_parts hscheme hauthority hpath htail htext]
  cases Url.Authority.parse scheme true (Url.withoutBreaks authority.toList) with
  | error e => rfl
  | ok read => rfl

end Servers

/--
The path of a URL has no part in its server: whatever stands in it, what is told or refused is the
same as for any other path.
-/
theorem gerritServer_path {scheme authority path path' tail : String}
    (hscheme : scheme = "http" ∨ scheme = "https") (hauthority : IsAuthorityText authority.toList)
    (hpath : IsPathText path.toList) (hpath' : IsPathText path'.toList)
    (htail : IsTail tail.toList) :
    gerritServer (scheme ++ "://" ++ authority ++ path ++ tail) =
      gerritServer (scheme ++ "://" ++ authority ++ path' ++ tail) := by
  have hfirst := gerritServer_eq hscheme hauthority hpath htail
  have hsecond := gerritServer_eq hscheme hauthority hpath' htail
  exact hfirst.trans hsecond.symm

/-- Signs that mean something in an authority are nothing but text in a path. -/
theorem gerritServer_path_signs :
    (IsAuthorityText " a:b\t@%C3%9C.example:0443".toList ∧
      IsPathText "/x@y:80/..\\%2e/[:1]\n ".toList ∧ IsPathText "//".toList ∧
      IsTail "?x=1#/".toList) ∧
    gerritServer ("http" ++ "://" ++ " a:b\t@%C3%9C.example:0443" ++
      "/x@y:80/..\\%2e/[:1]\n " ++ "?x=1#/") =
        .ok "http://%20a:b@xn--tda.example:443?x=1#/" ∧
    gerritServer ("http" ++ "://" ++ " a:b\t@%C3%9C.example:0443" ++ "//" ++ "?x=1#/") =
      .ok "http://%20a:b@xn--tda.example:443?x=1#/" := by
  have hauthority : IsAuthorityText " a:b\t@%C3%9C.example:0443".toList := by
    constructor <;> simp
  have hpath : IsPathText "/x@y:80/..\\%2e/[:1]\n ".toList := by simp [IsPathText]
  have hpath' : IsPathText "//".toList := by simp [IsPathText]
  have htail : IsTail "?x=1#/".toList := by simp [IsTail]
  have hserver : gerritServer ("http" ++ "://" ++ " a:b\t@%C3%9C.example:0443" ++ "//" ++
      "?x=1#/") = .ok "http://%20a:b@xn--tda.example:443?x=1#/" := by decide +kernel
  refine ⟨⟨hauthority, hpath, hpath', htail⟩, ?_, hserver⟩
  rw [← hserver]
  exact gerritServer_path (.inl rfl) hauthority hpath hpath' htail

end TextMate.Review
