/-
What stands behind the two slashes of a URL.

An authority is read from the left: credentials, a host by the rules of the scheme, and a port.
The path goes on with what is left.  This takes the reading apart into its steps
(`afterSlashes_eq_ok`).
-/
import ModuleLoader.Proofs.Url.Scheme

namespace ModuleLoader.Url
open Text

/-- The host that a scheme reads a text as. -/
def hostOf (scheme text : List Char) : Except UrlFault Host :=
  if (SchemeClass.of scheme).isSpecial then Host.parseSpecial text else Host.parseGeneric text

/-- The port that stands behind a host, and the text behind it. -/
def portOf (scheme text : List Char) : Except UrlFault (Option Nat × List Char) :=
  match text with
  | ':' :: digits => Url.port scheme digits
  | other => .ok (none, other)

/-- What the text behind two slashes is read as. -/
theorem afterSlashes_eq_ok {scheme text : List Char} {parts : Parts} {url : Url}
    (h : afterSlashes scheme parts text = .ok url) :
    ∃ authority more hostAndPort rest,
      credentials (text.takeWhile fun ch => !(SchemeClass.of scheme).separates ch) more
        = .ok (authority.user, authority.password, hostAndPort) ∧
      hostOf scheme (cutHost hostAndPort).1 = .ok authority.host ∧
      portOf scheme (cutHost hostAndPort).2 = .ok (authority.port, rest) ∧
      url = { scheme := scheme
              authority := some authority
              path := pathAfterAuthority (SchemeClass.of scheme)
                (rest ++ text.dropWhile fun ch => !(SchemeClass.of scheme).separates ch)
              query := parts.encodedQuery (SchemeClass.of scheme)
              fragment := parts.encodedFragment } := by
  simp only [afterSlashes, bind, Except.bind, pure, Except.pure, throw, throwThe,
    MonadExceptOf.throw] at h
  rcases hcredentials : credentials (text.takeWhile fun ch => !(SchemeClass.of scheme).separates ch)
    (!(text.dropWhile fun ch => !(SchemeClass.of scheme).separates ch).isEmpty ||
      parts.query.isSome || parts.fragment.isSome) with fault | ⟨user, password, hostAndPort⟩
  · rw [hcredentials] at h
    cases h
  simp only [hcredentials] at h
  repeat' split at h
  all_goals cases h
  all_goals
    exact ⟨⟨_, _, _, _⟩, _, _, _, hcredentials, by simp_all [hostOf], by simp_all [portOf], rfl⟩

end ModuleLoader.Url
