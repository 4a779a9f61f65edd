/-! # Glob patterns

The syntax of shell-style glob patterns over `/`-separated paths:

* `?` — any one byte; `*` — any run of bytes, `/` included;
* `**` as a whole path component — any run of components: at the start (`**/x`), at the end
  (`x/**`) or in between (`x/**/y`); elsewhere it is two `*`;
* `[abc]`, `[a-z]`, `[!a]` or `[^a]` — one byte of a class (a `]` or `-` right after the
  opening bracket is itself a member, a `-` at the end too);
* `{a,b}` — alternatives, possibly nested;
* `\c` — the character `c` itself.

* **`Glob.Token`** — the pieces of a pattern.
* **`Glob.ErrorKind`**, **`Glob.Error`** — why a pattern is refused, and the message.
* **`Glob.parse`** — the tokens of a pattern. -/

namespace StyleRebase.Glob

/-- **A piece of a glob pattern.** -/
inductive Token where
  /-- The character itself. -/
  | literal (c : Char)
  /-- Any one byte. -/
  | any
  /-- Any run of bytes. -/
  | zeroOrMore
  /-- `**/` at the start: nothing, a `/`, or anything ending in `/`. -/
  | recursivePrefix
  /-- `/**` at the end: a `/` and anything after it. -/
  | recursiveSuffix
  /-- `/**/` in between: a `/`, or a `/`, anything and a `/`. -/
  | recursiveZeroOrMore
  /-- One byte of a class given by character ranges. -/
  | charClass (negated : Bool) (ranges : List (Char × Char))
  /-- Any of the alternatives. -/
  | alternates (branches : List (List Token))
  deriving Repr, Inhabited

/-- **Why a pattern is refused.** -/
inductive ErrorKind where
  | unclosedClass
  | invalidRange (lo hi : Char)
  | unopenedAlternates
  | unclosedAlternates
  | danglingEscape
  deriving DecidableEq, Repr

/-- **The description of a refusal.** -/
def ErrorKind.message : ErrorKind → String
  | .unclosedClass => "unclosed character class; missing ']'"
  | .invalidRange lo hi => "invalid range; '" ++ String.singleton lo ++ "' > '" ++
      String.singleton hi ++ "'"
  | .unopenedAlternates => "unopened alternate group; missing '\x7b' (maybe escape '\x7d' with '[\x7d]'?)"
  | .unclosedAlternates => "unclosed alternate group; missing '\x7d' (maybe escape '\x7b' with '[\x7b]'?)"
  | .danglingEscape => "dangling '\\'"

/-- **A refused pattern**, with the pattern's text. -/
structure Error where
  glob : String
  kind : ErrorKind
  deriving DecidableEq, Repr

/-- **The message of a refused pattern.** -/
def Error.message (e : Error) : String :=
  "error parsing glob '" ++ e.glob ++ "': " ++ e.kind.message

/-- **An alternation group being read**: the branches finished so far (last first) and the
branch it interrupts (tokens last first). -/
structure Group where
  done : List (List Token)
  outer : List Token

/-- **Reading state**: the branch being read (tokens last first) and the open groups, innermost
first. -/
structure State where
  current : List Token := []
  groups : List Group := []

namespace State

/-- **Add a token** to the branch being read. -/
def push (st : State) (t : Token) : State := { st with current := t :: st.current }

/-- **Open an alternation group.** -/
def openGroup (st : State) : State :=
  { current := [], groups := ⟨[], st.current⟩ :: st.groups }

/-- **Start the next branch** of the innermost group; a `,` outside groups is itself. -/
def nextBranch (st : State) : State :=
  match st.groups with
  | [] => st.push (.literal ',')
  | g :: gs => { current := [], groups := { g with done := st.current.reverse :: g.done } :: gs }

/-- **Close the innermost group**, adding its alternatives to the branch it interrupted. -/
def closeGroup (st : State) : Except ErrorKind State :=
  match st.groups with
  | [] => throw .unopenedAlternates
  | g :: gs =>
    pure { current := .alternates (st.current.reverse :: g.done).reverse :: g.outer, groups := gs }

end State

/-- **Whether a character separates path components.** -/
def isSeparator (c : Char) : Bool := c == '/'

/-- **Read `**` or `*`** after a `*` (`prev` is the character before it, `rest` what follows
it). A `**` that is not a whole path component is two `*`. -/
def readStar (prev : Option Char) (rest : List Char) (st : State) : State × List Char :=
  match rest with
  | '*' :: rest1 =>
    let twice := ((st.push .zeroOrMore).push .zeroOrMore, rest1)
    if st.current.isEmpty then
      match rest1 with
      | [] => (st.push .recursivePrefix, [])
      | c :: rest2 => if isSeparator c then (st.push .recursivePrefix, rest2) else twice
    else if !(prev.map isSeparator).getD false &&
        (st.groups.isEmpty || (prev != some ',' && prev != some '\x7b')) then twice
    else
      let suffix? : Option (Bool × List Char) :=
        match rest1 with
        | [] => some (true, [])
        | c :: rest2 =>
          if (c == ',' || c == '\x7d') && !st.groups.isEmpty then some (true, rest1)
          else if isSeparator c then some (false, rest2)
          else none
      match suffix? with
      | none => twice
      | some (isSuffix, rest') =>
        match st.current with
        | .recursivePrefix :: _ | .recursiveSuffix :: _ => (st, rest')
        | _ :: ts =>
          ({ st with current := (if isSuffix then .recursiveSuffix else .recursiveZeroOrMore) :: ts },
            rest')
        | [] => (st, rest')
  | _ => (st.push .zeroOrMore, rest)

/-- **Extend the last range of a class** to `c`, refusing a range that runs backwards. -/
def extendRange (ranges : List (Char × Char)) (c : Char) : Except ErrorKind (List (Char × Char)) :=
  match ranges with
  | (lo, _) :: rs => if c < lo then throw (.invalidRange lo c) else pure ((lo, c) :: rs)
  | [] => pure [(c, c)]

/-- **The members of a class** up to its closing `]` (ranges last first); `first` holds for the
first member, where `]` and `-` stand for themselves, and `inRange` after a `-` that awaits the
end of a range. -/
def readClassBody : List Char → Bool → Bool → List (Char × Char) →
    Except ErrorKind (List (Char × Char) × List Char)
  | [], _, _, _ => throw .unclosedClass
  | c :: rest, first, inRange, ranges =>
    if c == ']' then
      if first then readClassBody rest false inRange ((']', ']') :: ranges)
      else pure ((if inRange then ('-', '-') :: ranges else ranges).reverse, rest)
    else if c == '-' then
      if first then readClassBody rest false inRange (('-', '-') :: ranges)
      else if inRange then do
        let rs ← extendRange ranges '-'
        readClassBody rest false false rs
      else readClassBody rest false true ranges
    else if inRange then do
      let rs ← extendRange ranges c
      readClassBody rest false false rs
    else readClassBody rest false false ((c, c) :: ranges)

/-- **A class** after its `[`, and the characters after its `]`. -/
def readClass (rest : List Char) : Except ErrorKind (Token × List Char) := do
  let (negated, body) := match rest with
    | '!' :: r => (true, r)
    | '^' :: r => (true, r)
    | r => (false, r)
  let (ranges, after) ← readClassBody body true false []
  pure (.charClass negated ranges, after)

/-- **Read the characters of a pattern** into the state; `prev` is the character before them.
Each step takes at least one character. -/
def readAll (prev : Option Char) : List Char → State → Except ErrorKind State
  | [], st => pure st
  | c :: rest, st => do
    let (st', rest') ←
      if c == '?' then pure (st.push .any, rest)
      else if c == '*' then pure (readStar prev rest st)
      else if c == '[' then do
        let (t, r) ← readClass rest
        pure (st.push t, r)
      else if c == '\x7b' then pure (st.openGroup, rest)
      else if c == '\x7d' then do
        let st' ← st.closeGroup
        pure (st', rest)
      else if c == ',' then pure (st.nextBranch, rest)
      else if c == '\\' then
        match rest with
        | e :: r => pure (st.push (.literal e), r)
        | [] => throw .danglingEscape
      else pure (st.push (.literal c), rest)
    let prev' := (c :: rest).take ((c :: rest).length - rest'.length) |>.getLast?
    if _h : rest'.length < (c :: rest).length then readAll prev' rest' st' else pure st'
termination_by cs => cs.length
decreasing_by
  all_goals simp_wf
  all_goals ((try simp only [List.length_cons] at *); omega)

/-- **The tokens of a glob pattern.** -/
def parse (glob : String) : Except Error (List Token) :=
  match readAll none glob.toList {} with
  | .error kind => throw ⟨glob, kind⟩
  | .ok st =>
    if st.groups.isEmpty then pure st.current.reverse
    else throw ⟨glob, .unclosedAlternates⟩

end StyleRebase.Glob
