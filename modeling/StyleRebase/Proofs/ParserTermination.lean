import StyleRebase.Proofs.MalformedTokens

/-! # The parser terminates

`Css.parse` is a well-founded definition, so it has an answer for every text; but two of its
loops carry a guard the parser's own loops do not have. The rule loops of a stylesheet and of a
block go on after a qualified rule only when the rule took a token, and stop otherwise. A
parser written without that guard would run forever if a qualified rule could take nothing.

This module runs the parser as its loops are written, with no such guard, on two budgets: one
bounds every chain of calls (a loop's next round is a call on the tokens left), the other the
nesting of blocks, functions and bracketed blocks. A run that would go past either budget gives
`none`. On every token list the budgets `3 * n + 4` and `n`, for `n` tokens, suffice, and the
answer is the parser's. So every round of every loop takes a token or leaves the loop, a
qualified rule started by a rule loop always takes a token, and no construct nests deeper than
there are tokens. The look-ahead that tells a declaration from a nested rule,
`Parser.startsDeclaration`, recurses on the tokens left and needs no budget.

* **`Parser.Budgeted`** — the parser's functions on the two budgets.
* **`Parser.Budgeted.Covers`** — at a budget of calls, every function gives the parser's answer
  on the token lists the budgets cover; **`Parser.Budgeted.covers`** proves it for every budget,
  one step of the induction per function.
* **`Parser.Budgeted.parse_finishes`** — every text is parsed within the budgets, to `parse`. -/

namespace StyleRebase.Css.Parser.Budgeted

/-- **One level deeper**, when a level is left. -/
def descend : Nat → Option Nat
  | 0 => none
  | depth + 1 => some depth

mutual

/-- **One component value** starting with token `t`, on a budget of `calls` and `depth`. -/
def componentValue (size : Nat) :
    Nat → Nat → Token → List Token → Option (Option ComponentValue × List Token × List ParseError)
  | 0, _, _, _ => none
  | calls + 1, depth, t, ts =>
    match t.kind with
    | .url => some (some (.url (unquotedUrl t)), ts, [])
    | .function => do
      let inner ← descend depth
      let (args, stop, rest, errs) ← nested size calls inner .rparen ')' ts
      pure (some (functionValue t.text.dropLast args ⟨t.span.start, stop⟩), rest, errs)
    | .lparen | .lbracket | .lbrace => do
      let inner ← descend depth
      let (vals, stop, rest, errs) ←
        nested size calls inner (closerOf t.kind).1 (closerOf t.kind).2 ts
      pure (some (.block (openerOf t.kind) vals ⟨t.span.start, stop⟩), rest, errs)
    | .rparen | .rbracket | .rbrace =>
      some (none, ts, [⟨.unexpectedToken "value" t.kind.describe, t.span⟩])
    | .badString => some (none, ts, [⟨.unterminatedString, t.span⟩])
    | .badUrl => some (none, ts, [⟨.badUrl ("`" ++ String.ofList t.text ++ "`"), t.span⟩])
    | .error =>
      some (none, ts, [⟨.syntaxError ("invalid token `" ++ String.ofList t.text ++ "`"), t.span⟩])
    | _ => some (some (.token t), ts, [])

/-- **Values up to the closing bracket `close`**, on a budget. -/
def nested (size : Nat) : Nat → Nat → TokenKind → Char → List Token →
    Option (List ComponentValue × Nat × List Token × List ParseError)
  | 0, _, _, _, _ => none
  | _ + 1, _, close, _, [] => some ([], size, [], [⟨.unexpectedEof close.describe, Span.empty size⟩])
  | calls + 1, depth, close, closeChar, t :: rest =>
    if t.kind == close then some ([], t.span.stop, rest, [])
    else if t.kind.isClosing then
      some ([], t.span.start, t :: rest,
        [⟨.mismatchedBracket closeChar (t.text.headD closeChar), t.span⟩])
    else do
      let (v, r, errs) ← componentValue size calls depth t rest
      let (vs, stop, r', errs') ← nested size calls depth close closeChar r
      pure (v.toList ++ vs, stop, r', errs ++ errs')

end

/-- **Values up to a stop token**, on a budget. -/
def values (size : Nat) : Nat → Nat → (TokenKind → Bool) → List Token →
    Option (List ComponentValue × List Token × List ParseError)
  | 0, _, _, _ => none
  | _ + 1, _, _, [] => some ([], [], [])
  | calls + 1, depth, stop, t :: rest =>
    if stop t.kind then some ([], t :: rest, [])
    else do
      let (v, r, errs) ← componentValue size calls depth t rest
      let (vs, r', errs') ← values size calls depth stop r
      pure (v.toList ++ vs, r', errs ++ errs')

/-- **A declaration** starting with the identifier `t`, on a budget. -/
def declaration (size : Nat) :
    Nat → Nat → Token → List Token → Option (Option Declaration × List Token × List ParseError)
  | 0, _, _, _ => none
  | _ + 1, _, _, [] => some (none, [], [unexpected size (TokenKind.colon.describe) []])
  | calls + 1, depth, t, c :: rest =>
    if c.kind == .colon then do
      let (vals, r, errs) ← values size calls depth declarationStop rest
      let stop := match vals.getLast? with
        | some v => v.span.stop
        | none => max t.span.stop c.span.stop
      let (vals', important) := stripImportant vals
      pure (some { name := t.text, value := vals', important, span := ⟨t.span.start, stop⟩ }, r,
        errs)
    else do
      let err := unexpected size (TokenKind.colon.describe) (c :: rest)
      let (_, r, errs) ← values size calls depth declarationStop (c :: rest)
      pure (none, r, err :: errs)

mutual

/-- **An at-rule** starting with the at-keyword `t`, on a budget. -/
def atRule (size : Nat) : Nat → Nat → Token → List Token → Option (Rule × List Token × List ParseError)
  | 0, _, _, _ => none
  | calls + 1, depth, t, ts => do
    let name := t.text.drop 1
    let (prelude, r1, e1) ← values size calls depth atPreludeStop ts
    let stop := match prelude.getLast? with
      | some v => v.span.stop
      | none => t.span.stop
    match r1 with
    | s :: r2 =>
      if s.kind == .semicolon then
        pure (.atRule name prelude none ⟨t.span.start, s.span.stop⟩, r2, e1)
      else if s.kind == .lbrace then do
        let (b, r3, e2) ← block size calls depth s r2
        pure (.atRule name prelude (some b) ⟨t.span.start, b.span.stop⟩, r3, e1 ++ e2)
      else pure (.atRule name prelude none ⟨t.span.start, stop⟩, s :: r2, e1)
    | [] => pure (.atRule name prelude none ⟨t.span.start, stop⟩, [], e1)

/-- **A qualified rule**, on a budget. -/
def qualifiedRule (size : Nat) :
    Nat → Nat → List Token → Option (Option Rule × List Token × List ParseError)
  | 0, _, _ => none
  | calls + 1, depth, ts => do
    let start := match ts with
      | t :: _ => t.span.start
      | [] => size
    let (prelude, r1, e1) ← values size calls depth qualifiedPreludeStop ts
    match r1 with
    | s :: r2 =>
      if s.kind == .lbrace then do
        let (b, r3, e2) ← block size calls depth s r2
        pure (some (.qualified prelude b ⟨start, b.span.stop⟩), r3, e1 ++ e2)
      else
        let err := unexpected size (TokenKind.lbrace.describe) (s :: r2)
        if s.kind == .semicolon then pure (none, r2, e1 ++ [err])
        else pure (none, s :: r2, e1 ++ [err])
    | [] => pure (none, [], e1 ++ [unexpected size (TokenKind.lbrace.describe) []])

/-- **A block** starting with the `{` token `t`, one level deeper, on a budget. -/
def block (size : Nat) : Nat → Nat → Token → List Token → Option (Block × List Token × List ParseError)
  | 0, _, _, _ => none
  | calls + 1, depth, t, ts => do
    let inner ← descend depth
    let (items, stop, r, errs) ← blockItems size calls inner ts
    pure (.mk items ⟨t.span.start, stop⟩, r, errs)

/-- **The items of a block**, on a budget: after a nested qualified rule the loop goes on with
whatever the rule left, as the source's loop does. -/
def blockItems (size : Nat) :
    Nat → Nat → List Token → Option (List BlockItem × Nat × List Token × List ParseError)
  | 0, _, _ => none
  | _ + 1, _, [] => some ([], size, [], [unexpected size (TokenKind.rbrace.describe) []])
  | calls + 1, depth, t :: rest =>
    match t.kind with
    | .rbrace => some ([], t.span.stop, rest, [])
    | .semicolon => blockItems size calls depth rest
    | .atKeyword => do
      let (rule, r, e1) ← atRule size calls depth t rest
      let (items, stop, r', e2) ← blockItems size calls depth r
      pure (.rule rule :: items, stop, r', e1 ++ e2)
    | kind =>
      if kind == .ident && startsDeclaration t rest then do
        let (d, r, e1) ← declaration size calls depth t rest
        let (items, stop, r', e2) ← blockItems size calls depth r
        pure ((d.map .declaration).toList ++ items, stop, r', e1 ++ e2)
      else do
        let (rule, r, e1) ← qualifiedRule size calls depth (t :: rest)
        let (items, stop, r', e2) ← blockItems size calls depth r
        pure ((rule.map .rule).toList ++ items, stop, r', e1 ++ e2)

end

/-- **The top-level rules**, on a budget: after a qualified rule the loop goes on with whatever
the rule left. -/
def rules (size : Nat) : Nat → Nat → List Token → Option (List Rule × List ParseError)
  | 0, _, _ => none
  | _ + 1, _, [] => some ([], [])
  | calls + 1, depth, t :: rest =>
    match t.kind with
    | .atKeyword => do
      let (rule, r, e1) ← atRule size calls depth t rest
      let (rs, e2) ← rules size calls depth r
      pure (rule :: rs, e1 ++ e2)
    | .rbrace | .semicolon => do
      let (rs, e2) ← rules size calls depth rest
      pure (rs, ⟨.unexpectedToken "rule" t.kind.describe, t.span⟩ :: e2)
    | _ => do
      let (rule, r, e1) ← qualifiedRule size calls depth (t :: rest)
      let (rs, e2) ← rules size calls depth r
      pure (rule.toList ++ rs, e1 ++ e2)

/-- **Parse a stylesheet on a budget**: comments and lexing errors as `Css.parse` collects
them, and the rules of the significant tokens on the budgets `calls` and `depth`. -/
def parse (calls depth : Nat) (s : String) : Option ParseResult := do
  let size := s.utf8ByteSize
  let toks := tokenize s
  let comments := toks.filterMap fun t =>
    match t.kind with
    | .comment | .unterminatedComment => some ⟨t.span, t.text⟩
    | _ => none
  let lexErrors := toks.filterMap fun t =>
    if t.kind == .unterminatedComment then some ⟨.unterminatedComment, t.span⟩ else none
  let (rs, errs) ← rules size calls depth (toks.filter Token.isSignificant)
  pure { stylesheet := { rules := rs, comments, span := ⟨0, size⟩ }, errors := lexErrors ++ errs }

/-! ## (1) What the budgets cover -/

/-- **An answer with the tokens left as a plain list.** -/
def plain {α β : Type} {P : List Token → Prop} (x : α × Subtype P × β) : α × List Token × β :=
  (x.1, x.2.1.1, x.2.2)

variable (size : Nat)

/-- **The budgets cover the parser at `calls` calls**: each function gives the parser's answer on
every token list whose length the call budget exceeds three times over, plus a rank that grows
from callee to caller, and that the nesting budget reaches. -/
structure Covers (calls : Nat) : Prop where
  componentValue : ∀ depth t ts, 3 * ts.length + 2 < calls → ts.length + 1 ≤ depth →
    componentValue size calls depth t ts = some (plain (Parser.componentValue size t ts))
  nested : ∀ depth close closeChar ts, 3 * ts.length + 1 < calls → ts.length ≤ depth →
    nested size calls depth close closeChar ts =
      some ((Parser.nested size close closeChar ts).1, plain (Parser.nested size close closeChar ts).2)
  values : ∀ depth stop ts, 3 * ts.length + 1 < calls → ts.length ≤ depth →
    values size calls depth stop ts = some (plain (Parser.values size stop ts))
  declaration : ∀ depth t ts, 3 * ts.length + 2 < calls → ts.length + 1 ≤ depth →
    declaration size calls depth t ts = some (plain (Parser.declaration size t ts))
  atRule : ∀ depth t ts, 3 * ts.length + 2 < calls → ts.length + 1 ≤ depth →
    atRule size calls depth t ts = some (plain (Parser.atRule size t ts))
  qualifiedRule : ∀ depth ts, 3 * ts.length + 2 < calls → ts.length ≤ depth →
    qualifiedRule size calls depth ts = some (plain (Parser.qualifiedRule size ts))
  block : ∀ depth t ts, 3 * ts.length + 4 < calls → ts.length + 1 ≤ depth →
    block size calls depth t ts = some (plain (Parser.block size t ts))
  blockItems : ∀ depth ts, 3 * ts.length + 3 < calls → ts.length ≤ depth →
    blockItems size calls depth ts =
      some ((Parser.blockItems size ts).1, plain (Parser.blockItems size ts).2)
  rules : ∀ depth ts, 3 * ts.length + 3 < calls → ts.length ≤ depth →
    rules size calls depth ts = some (Parser.rules size ts)

/-- With no calls there is nothing to cover: every bound asks for more. -/
theorem covers_zero : Covers size 0 where
  componentValue _ _ _ h := absurd h (Nat.not_lt_zero _)
  nested _ _ _ _ h := absurd h (Nat.not_lt_zero _)
  values _ _ _ h := absurd h (Nat.not_lt_zero _)
  declaration _ _ _ h := absurd h (Nat.not_lt_zero _)
  atRule _ _ _ h := absurd h (Nat.not_lt_zero _)
  qualifiedRule _ _ h := absurd h (Nat.not_lt_zero _)
  block _ _ _ h := absurd h (Nat.not_lt_zero _)
  blockItems _ _ h := absurd h (Nat.not_lt_zero _)
  rules _ _ h := absurd h (Nat.not_lt_zero _)

/-! ## (2) One more call covers one more round

Each function, given one call more than the budget that covers its callees, makes its calls on
token lists that budget covers: a loop's next round runs on fewer tokens than the round before,
and a nested function, bracketed block or block runs on the tokens after its opening token, one
level deeper. -/

section Steps

variable {size} {calls : Nat} (ih : Covers size calls)
include ih

/-- Values: the first value, then the values after it, each a call deeper. -/
theorem values_step (depth : Nat) (stop : TokenKind → Bool) (ts : List Token)
    (hcalls : 3 * ts.length + 1 < calls + 1) (hdepth : ts.length ≤ depth) :
    values size (calls + 1) depth stop ts = some (plain (Parser.values size stop ts)) := by
  cases ts with
  | nil =>
    rw [values, Parser.values]
    rfl
  | cons t rest =>
    simp only [List.length_cons] at hcalls hdepth
    rw [values, Parser.values]
    cases hstop : stop t.kind
    · simp only [Bool.false_eq_true, if_false]
      rcases hcv : Parser.componentValue size t rest with ⟨v, r, errs⟩
      have h₁ := ih.componentValue depth t rest (by omega) (by omega)
      rw [hcv] at h₁
      have hr := r.2
      simp only [List.length_cons] at hr
      rcases hvs : Parser.values size stop r.1 with ⟨vs, r', errs'⟩
      have h₂ := ih.values depth stop r.1 (by omega) (by omega)
      rw [hvs] at h₂
      rw [h₁]
      simp only [plain, Option.bind_eq_bind, Option.bind_some]
      rw [h₂]
      rfl
    · rfl

/-- Values nested up to a closing bracket: the first value, then the values after it. -/
theorem nested_step (depth : Nat) (close : TokenKind) (closeChar : Char) (ts : List Token)
    (hcalls : 3 * ts.length + 1 < calls + 1) (hdepth : ts.length ≤ depth) :
    nested size (calls + 1) depth close closeChar ts =
      some ((Parser.nested size close closeChar ts).1,
        plain (Parser.nested size close closeChar ts).2) := by
  cases ts with
  | nil =>
    rw [nested, Parser.nested]
    rfl
  | cons t rest =>
    simp only [List.length_cons] at hcalls hdepth
    rw [nested, Parser.nested]
    by_cases hc : (t.kind == close) = true
    · simp only [hc, if_true]
      rfl
    by_cases hcl : t.kind.isClosing = true
    · simp only [hc, hcl, if_true, if_false, Bool.false_eq_true]
      rfl
    simp only [hc, hcl, if_false, Bool.false_eq_true]
    rcases hcv : Parser.componentValue size t rest with ⟨v, r, errs⟩
    have h₁ := ih.componentValue depth t rest (by omega) (by omega)
    rw [hcv] at h₁
    have hr := r.2
    simp only [List.length_cons] at hr
    rcases hn : Parser.nested size close closeChar r.1 with ⟨vs, stop, r', errs'⟩
    have h₂ := ih.nested depth close closeChar r.1 (by omega) (by omega)
    rw [hn] at h₂
    rw [h₁]
    simp only [plain, Option.bind_eq_bind, Option.bind_some]
    rw [h₂]
    rfl

/-- A component value: a function or a bracketed block takes its values one level deeper. -/
theorem componentValue_step (depth : Nat) (t : Token) (ts : List Token)
    (hcalls : 3 * ts.length + 2 < calls + 1) (hdepth : ts.length + 1 ≤ depth) :
    componentValue size (calls + 1) depth t ts = some (plain (Parser.componentValue size t ts)) := by
  obtain ⟨inner, rfl⟩ : ∃ inner, depth = inner + 1 := ⟨depth - 1, by omega⟩
  have hnested := fun close closeChar => ih.nested inner close closeChar ts (by omega) (by omega)
  rw [componentValue, Parser.componentValue]
  cases hk : t.kind
  case function =>
    rcases hn : Parser.nested size .rparen ')' ts with ⟨args, stop, rest, errs⟩
    have h := hnested .rparen ')'
    rw [hn] at h
    simp only [descend, Option.bind_eq_bind, Option.bind_some]
    rw [h]
    rfl
  case lparen | lbracket | lbrace =>
    rcases hn : Parser.nested size (closerOf t.kind).1 (closerOf t.kind).2 ts with
      ⟨vals, stop, rest, errs⟩
    have h := hnested (closerOf t.kind).1 (closerOf t.kind).2
    rw [hn, hk] at h
    rw [hk] at hn
    simp only [descend, Option.bind_eq_bind, Option.bind_some]
    rw [h, hn]
    rfl
  all_goals rfl

/-- A declaration: its value, or the value skipped when the colon is missing. -/
theorem declaration_step (depth : Nat) (t : Token) (ts : List Token)
    (hcalls : 3 * ts.length + 2 < calls + 1) (hdepth : ts.length + 1 ≤ depth) :
    declaration size (calls + 1) depth t ts = some (plain (Parser.declaration size t ts)) := by
  cases ts with
  | nil =>
    rw [declaration, Parser.declaration]
    rfl
  | cons c rest =>
    simp only [List.length_cons] at hcalls hdepth
    rw [declaration, Parser.declaration]
    by_cases hc : (c.kind == .colon) = true
    · -- the value after the colon
      simp only [hc, if_true]
      rcases hv : Parser.values size declarationStop rest with ⟨vals, r, errs⟩
      have h := ih.values depth declarationStop rest (by omega) (by omega)
      rw [hv] at h
      simp only [Option.bind_eq_bind]
      rw [h]
      rfl
    · -- no colon: the value is skipped
      simp only [hc, if_false, Bool.false_eq_true]
      rcases hv : Parser.values size declarationStop (c :: rest) with ⟨vals, r, errs⟩
      have h := ih.values depth declarationStop (c :: rest) (by simp only [List.length_cons]; omega)
        (by simp only [List.length_cons]; omega)
      rw [hv] at h
      simp only [Option.bind_eq_bind]
      rw [h]
      rfl

/-- A block: its items, one level deeper. -/
theorem block_step (depth : Nat) (t : Token) (ts : List Token)
    (hcalls : 3 * ts.length + 4 < calls + 1) (hdepth : ts.length + 1 ≤ depth) :
    block size (calls + 1) depth t ts = some (plain (Parser.block size t ts)) := by
  obtain ⟨inner, rfl⟩ : ∃ inner, depth = inner + 1 := ⟨depth - 1, by omega⟩
  rw [block, Parser.block]
  rcases hbi : Parser.blockItems size ts with ⟨items, stop, r, errs⟩
  have h := ih.blockItems inner ts (by omega) (by omega)
  rw [hbi] at h
  simp only [descend, Option.bind_eq_bind, Option.bind_some]
  rw [h]
  rfl

/-- An at-rule: its prelude, then a `;`, a block or nothing. -/
theorem atRule_step (depth : Nat) (t : Token) (ts : List Token)
    (hcalls : 3 * ts.length + 2 < calls + 1) (hdepth : ts.length + 1 ≤ depth) :
    atRule size (calls + 1) depth t ts = some (plain (Parser.atRule size t ts)) := by
  rw [atRule, Parser.atRule]
  rcases hv : Parser.values size atPreludeStop ts with ⟨prelude, ⟨r1, hr1⟩, e1⟩
  have h := ih.values depth atPreludeStop ts (by omega) (by omega)
  rw [hv] at h
  simp only [Option.bind_eq_bind]
  rw [h]
  simp only [plain, Option.bind_some]
  cases r1 with
  | nil => rfl
  | cons s r2 =>
    simp only [List.length_cons] at hr1
    by_cases hsemi : (s.kind == .semicolon) = true
    · simp only [hsemi, if_true]
      rfl
    simp only [hsemi, if_false, Bool.false_eq_true]
    by_cases hb : (s.kind == .lbrace) = true
    · -- the block, on the tokens after its `{`
      simp only [hb, if_true]
      rcases hblk : Parser.block size s r2 with ⟨b, r3, e2⟩
      have hb' := ih.block depth s r2 (by omega) (by omega)
      rw [hblk] at hb'
      rw [hb']
      rfl
    · simp only [hb, if_false, Bool.false_eq_true]
      rfl

/-- A qualified rule: its prelude, then its block, or the error when no `{` follows. -/
theorem qualifiedRule_step (depth : Nat) (ts : List Token)
    (hcalls : 3 * ts.length + 2 < calls + 1) (hdepth : ts.length ≤ depth) :
    qualifiedRule size (calls + 1) depth ts = some (plain (Parser.qualifiedRule size ts)) := by
  -- the equations of both split on the first token; unfold them at once instead
  rw [qualifiedRule.eq_def, Parser.qualifiedRule.eq_def]
  dsimp only
  rcases hv : Parser.values size qualifiedPreludeStop ts with ⟨prelude, ⟨r1, hr1⟩, e1⟩
  have h := ih.values depth qualifiedPreludeStop ts (by omega) (by omega)
  rw [hv] at h
  simp only [Option.bind_eq_bind]
  rw [h]
  simp only [plain, Option.bind_some]
  cases r1 with
  | nil => rfl
  | cons s r2 =>
    simp only [List.length_cons] at hr1
    by_cases hb : (s.kind == .lbrace) = true
    · -- the block, on the tokens after its `{`
      simp only [hb, if_true]
      rcases hblk : Parser.block size s r2 with ⟨b, r3, e2⟩
      have hb' := ih.block depth s r2 (by omega) (by omega)
      rw [hblk] at hb'
      rw [hb']
      rfl
    · simp only [hb, if_false, Bool.false_eq_true]
      by_cases hsemi : (s.kind == .semicolon) = true
      · simp only [hsemi, if_true]
        rfl
      · simp only [hsemi, if_false, Bool.false_eq_true]
        rfl

/-- The items of a block: `}` ends them, a stray `;` is skipped, and an at-rule, a declaration
or a nested qualified rule comes before the other items. -/
theorem blockItems_step (depth : Nat) (ts : List Token)
    (hcalls : 3 * ts.length + 3 < calls + 1) (hdepth : ts.length ≤ depth) :
    blockItems size (calls + 1) depth ts =
      some ((Parser.blockItems size ts).1, plain (Parser.blockItems size ts).2) := by
  cases ts with
  | nil =>
    rw [blockItems, Parser.blockItems]
    rfl
  | cons t rest =>
    simp only [List.length_cons] at hcalls hdepth
    -- the budgeted loop is split on the kind; the parser's side of each branch is its equation
    rw [blockItems]
    split
    · -- the closing brace
      rename_i hk
      rw [Parser.blockItems_rbrace hk]
      rfl
    · -- a stray `;`
      rename_i hk
      rcases hbi : Parser.blockItems size rest with ⟨items, stop, r, errs⟩
      have h := ih.blockItems depth rest (by omega) (by omega)
      rw [hbi] at h
      rw [Parser.blockItems_semicolon hk hbi, h]
      rfl
    · -- a nested at-rule, then the other items
      rename_i hk
      rcases hat : Parser.atRule size t rest with ⟨rule, r, e1⟩
      have h₁ := ih.atRule depth t rest (by omega) (by omega)
      rw [hat] at h₁
      have hr := r.2
      simp only [List.length_cons] at hr
      rcases hbi : Parser.blockItems size r.1 with ⟨items, stop, r', e2⟩
      have h₂ := ih.blockItems depth r.1 (by omega) (by omega)
      rw [hbi] at h₂
      rw [Parser.blockItems_atRule hk hat hbi]
      simp only [Option.bind_eq_bind]
      rw [h₁]
      simp only [plain, Option.bind_some]
      rw [h₂]
      rfl
    · rename_i hk₁ hk₂ hk₃
      by_cases hdecl : (t.kind == .ident && startsDeclaration t rest) = true
      · -- a declaration, then the other items
        rw [if_pos hdecl]
        rcases hd : Parser.declaration size t rest with ⟨d, r, e1⟩
        have h₁ := ih.declaration depth t rest (by omega) (by omega)
        rw [hd] at h₁
        have hr := r.2
        simp only [List.length_cons] at hr
        rcases hbi : Parser.blockItems size r.1 with ⟨items, stop, r', e2⟩
        have h₂ := ih.blockItems depth r.1 (by omega) (by omega)
        rw [hbi] at h₂
        rw [Parser.blockItems_declaration hk₁ hk₂ hk₃ hdecl hd hbi]
        simp only [Option.bind_eq_bind]
        rw [h₁]
        simp only [plain, Option.bind_some]
        rw [h₂]
        rfl
      · -- a nested qualified rule: it takes a token, so the guard of the items loop holds
        rw [if_neg hdecl]
        have hshrink : (Parser.qualifiedRule size (t :: rest)).2.1.1.length < (t :: rest).length :=
          qualifiedRule_shrinks size hk₁ hk₂
        rcases hq : Parser.qualifiedRule size (t :: rest) with ⟨rule, r, e1⟩
        rw [hq] at hshrink
        have h₁ := ih.qualifiedRule depth (t :: rest) (by simp only [List.length_cons]; omega)
          (by simp only [List.length_cons]; omega)
        rw [hq] at h₁
        rcases hbi : Parser.blockItems size r.1 with ⟨items, stop, r', e2⟩
        rw [Parser.blockItems_qualified hk₁ hk₂ hk₃ hdecl hq hshrink hbi]
        simp only [List.length_cons] at hshrink
        have h₂ := ih.blockItems depth r.1 (by omega) (by omega)
        rw [hbi] at h₂
        simp only [Option.bind_eq_bind]
        rw [h₁]
        simp only [plain, Option.bind_some]
        rw [h₂]
        rfl

/-- The top-level rules: an at-rule or a qualified rule comes before the other rules, and a
stray `}` or `;` is recorded and skipped. -/
theorem rules_step (depth : Nat) (ts : List Token)
    (hcalls : 3 * ts.length + 3 < calls + 1) (hdepth : ts.length ≤ depth) :
    rules size (calls + 1) depth ts = some (Parser.rules size ts) := by
  cases ts with
  | nil =>
    rw [rules, Parser.rules]
  | cons t rest =>
    simp only [List.length_cons] at hcalls hdepth
    rw [rules]
    split
    case h_1 =>
      -- an at-rule, then the other rules
      rename_i hk
      rcases hat : Parser.atRule size t rest with ⟨rule, r, e1⟩
      have h₁ := ih.atRule depth t rest (by omega) (by omega)
      rw [hat] at h₁
      have hr := r.2
      simp only [List.length_cons] at hr
      rcases hrs : Parser.rules size r.1 with ⟨rs, e2⟩
      have h₂ := ih.rules depth r.1 (by omega) (by omega)
      rw [hrs] at h₂
      rw [Parser.rules_atRule hk hat hrs]
      simp only [Option.bind_eq_bind]
      rw [h₁]
      simp only [plain, Option.bind_some]
      rw [h₂]
      rfl
    case h_2 | h_3 =>
      -- a stray `}` or `;`, recorded and skipped
      rename_i hk
      rcases hrs : Parser.rules size rest with ⟨rs, e2⟩
      have h := ih.rules depth rest (by omega) (by omega)
      rw [hrs] at h
      rw [Parser.rules_stray (by simp only [hk, true_or, or_true]) hrs]
      simp only [Option.bind_eq_bind]
      rw [h]
      rfl
    case h_4 =>
      -- a qualified rule: it takes a token, so the guard of the rule loop holds
      rename_i hk₁ hk₂ hk₃
      have hshrink : (Parser.qualifiedRule size (t :: rest)).2.1.1.length < (t :: rest).length :=
        qualifiedRule_shrinks size hk₂ hk₃
      rcases hq : Parser.qualifiedRule size (t :: rest) with ⟨rule, r, e1⟩
      rw [hq] at hshrink
      simp only [List.length_cons] at hshrink
      rcases hrs : Parser.rules size r.1 with ⟨rs, e2⟩
      rw [rules_qualified hk₁ hk₂ hk₃ hq hshrink hrs]
      have h₁ := ih.qualifiedRule depth (t :: rest) (by simp only [List.length_cons]; omega)
        (by simp only [List.length_cons]; omega)
      rw [hq] at h₁
      have h₂ := ih.rules depth r.1 (by omega) (by omega)
      rw [hrs] at h₂
      simp only [Option.bind_eq_bind]
      rw [h₁]
      simp only [plain, Option.bind_some]
      rw [h₂]
      rfl

end Steps

/-! ## (3) Every text is parsed within the budgets -/

/-- **One more call covers one more round** of every function. -/
theorem Covers.succ {calls : Nat} (ih : Covers size calls) : Covers size (calls + 1) where
  componentValue := componentValue_step ih
  nested := nested_step ih
  values := values_step ih
  declaration := declaration_step ih
  atRule := atRule_step ih
  qualifiedRule := qualifiedRule_step ih
  block := block_step ih
  blockItems := blockItems_step ih
  rules := rules_step ih

/-- **Every budget of calls covers the parser.** -/
theorem covers (calls : Nat) : Covers size calls := by
  induction calls with
  | zero => exact covers_zero size
  | succ calls ih => exact ih.succ

/-- **The rule loop finishes** on `n` tokens within `3 * n + 4` calls and `n` levels. -/
theorem rules_finishes (ts : List Token) :
    rules size (3 * ts.length + 4) ts.length ts = some (Parser.rules size ts) :=
  (covers size _).rules ts.length ts (by omega) (Nat.le_refl _)

/-- **The parser terminates.** For every text with `n` significant tokens, the parser run as
its loops are written, with no progress guard, finishes within `3 * n + 4` calls along every
chain of calls, a loop's next round counted as a call, and within `n` levels of nested blocks,
functions and bracketed blocks; and what it gives is `parse`. -/
theorem parse_finishes (s : String) :
    parse (3 * ((tokenize s).filter Token.isSignificant).length + 4)
      ((tokenize s).filter Token.isSignificant).length s = some (Css.parse s) := by
  rw [parse, rules_finishes]
  rfl

/-- Two opening brackets nest two levels deep: two levels suffice and one does not. -/
example : (parse 100 2 "((").isSome = true ∧ (parse 100 1 "((").isNone = true := by
  decide +kernel

end StyleRebase.Css.Parser.Budgeted
