import TextMate.Text.Quoted
import TextMate.Url

/-! What the URLs of a review configuration tell about servers and repositories. -/
namespace TextMate.Review

inductive UrlError where
  | malformed (error : Url.ParseError)
  /-- The path does not name an owner and a repository. -/
  | unexpected (url : String)
deriving DecidableEq, Inhabited

def UrlError.message : UrlError → String
  | .malformed error => "failed to parse URL: " ++ error.message
  | .unexpected url => "unexpected URL format " ++ Text.quoted url

/-- The URL of a Gerrit project without its path. -/
def gerritServer (url : String) : Except UrlError String :=
  match Url.parse url with
  | .error e => .error (.malformed e)
  | .ok u => .ok (u.textBeforePath ++ u.textAfterPath)

structure GitHubRepository where
  owner : String
  name : String
deriving DecidableEq, Inhabited

/-- The path of the URL must have exactly two segments; each of them may be empty. -/
def gitHubRepository (url : String) : Except UrlError GitHubRepository :=
  match Url.parse url with
  | .error e => .error (.malformed e)
  | .ok u =>
    match u.path with
    | .segments [owner, name] => .ok ⟨.ofList owner, .ofList name⟩
    | _ => .error (.unexpected url)

end TextMate.Review
