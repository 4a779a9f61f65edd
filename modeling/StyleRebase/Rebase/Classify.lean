import StyleRebase.Url.Parse
import StyleRebase.Text.CharClass

/-! # Kinds of references

A reference in a stylesheet is rebased only when it is a relative path; everything else (an
absolute path, a URL with a scheme, a fragment, nothing at all) already means the same from any
stylesheet and is left alone.

* **`UrlKind`** — the five kinds.
* **`classify`** — the kind of a reference, decided on its text with surrounding white space
  removed, in this order: empty, absolute path, URL, fragment, relative.
* **`UrlKind.isRebasable`** — only relative references are. -/

namespace StyleRebase.Rebase

/-- **The kind of a reference.** -/
inductive UrlKind where
  | empty
  | absolutePath
  | remote
  | fragment
  | relative
  deriving DecidableEq, Repr, Inhabited

/-- **Whether a reference of this kind is rebased**: only relative ones are. -/
def UrlKind.isRebasable (k : UrlKind) : Bool := k == .relative

/-- **An absolute path**: a leading slash or backslash, or a drive letter such as `C:/`. -/
def isAbsolutePath : List Char → Bool
  | '/' :: _ => true
  | '\\' :: _ => true
  | a :: ':' :: s :: _ => a.isAlpha && (s == '/' || s == '\\')
  | _ => false

/-- **The kind of a reference.** -/
def classify (raw : List Char) : UrlKind :=
  let r := trimWhite raw
  if r.isEmpty then .empty
  else if isAbsolutePath r then .absolutePath
  else if (Url.parse? r).isSome then .remote
  else if r.head? == some '#' then .fragment
  else .relative

theorem classify_isRebasable_iff (raw : List Char) :
    (classify raw).isRebasable = true ↔ classify raw = .relative := by
  simp [UrlKind.isRebasable]

end StyleRebase.Rebase
