import StyleRebase.Glob.Match
import StyleRebase.Rebase.Path

/-! # Rebase policies

Before a reference is rebased, a policy is asked what to do with it: leave it alone, write the
path it resolved to, or write another path. A policy may also fail, or crash.

* **`Request`** — what a policy is asked about: the source file, the resolved path and the
  reference as written.
* **`Verdict`**, **`Outcome`**, **`PolicyError`** — a policy's answers.
* **`Policy`** — a policy: the answer to the `n`-th request of a rebase.
* **`Rules`** — the policy given by rules: paths matching an exclusion glob are left alone (the
  query or fragment of the path is not matched), otherwise the first prefix rule whose prefix
  starts the resolved path replaces that prefix. -/

namespace StyleRebase.Rebase

/-- **What a policy is asked about.** -/
structure Request where
  source : List Char
  resolved : List Char
  raw : List Char
  deriving DecidableEq, Repr, Inhabited

/-- **What a policy decides about a reference.** -/
inductive Verdict where
  /-- Leave the reference as it is. -/
  | suppress
  /-- Write the resolved path. -/
  | keep
  /-- Write this path. -/
  | override (path : List Char)
  deriving DecidableEq, Repr, Inhabited

/-- **Why a policy gave no decision.** -/
inductive PolicyError where
  /-- The policy reported a failure. -/
  | failed (message : String)
  /-- The policy dropped the request without answering. -/
  | abandoned
  /-- An exclusion pattern is not a glob. -/
  | invalidGlob (e : Glob.Error)
  deriving DecidableEq, Repr

/-- **The message of a policy failure.** -/
def PolicyError.message : PolicyError → String
  | .failed m => "rebase policy failed: " ++ m
  | .abandoned => "rebase policy dropped its completion handle without deciding"
  | .invalidGlob e => "invalid glob pattern: " ++ e.message

/-- **A policy's answer to one request.** -/
inductive Outcome where
  | decided (v : Verdict)
  | failed (e : PolicyError)
  /-- The policy crashed before answering. -/
  | crashed
  deriving DecidableEq, Repr, Inhabited

/-- **A policy**: the answer to the `n`-th request of a rebase, counting from zero. -/
abbrev Policy := Nat → Request → Outcome

/-- **The policy that always writes the resolved path.** -/
def Policy.keepAll : Policy := fun _ _ => .decided .keep

/-- **A prefix rule**: resolved paths starting with `leading` get `replacement` in its place. -/
structure PrefixRule where
  leading : List Char
  replacement : List Char
  deriving DecidableEq, Repr, Inhabited

/-- **Rules of a rules policy.** -/
structure Rules where
  exclude : Glob.PatternSet
  prefixRules : List PrefixRule

/-- **Rules from exclusion globs and prefix rules**, or the first glob refused. -/
def Rules.build (exclude : List String) (prefixRules : List PrefixRule) :
    Except PolicyError Rules :=
  match Glob.PatternSet.build exclude with
  | .ok set => pure ⟨set, prefixRules⟩
  | .error e => throw (.invalidGlob e)

/-- **The decision of rules on a request.** -/
def Rules.verdict (r : Rules) (req : Request) : Verdict :=
  let (path, _) := Path.splitSuffix req.resolved
  if r.exclude.isMatch (String.ofList path) then .suppress
  else
    match r.prefixRules.findSome? fun rw =>
        (dropPrefix? rw.leading req.resolved).map (rw.replacement ++ ·) with
    | some p => .override p
    | none => .keep

/-- **The policy given by rules.** -/
def Rules.policy (r : Rules) : Policy := fun _ req => .decided (r.verdict req)

end StyleRebase.Rebase
