import StyleRebase.Css.Parser

/-! # The parser, branch by branch

A component value looks at its first token; nested values and the values of a prelude read one
value after another up to a closing or a stop token; an at-rule and a qualified rule read a
prelude and then decide on the token that stopped it; a block reads its items one after another;
the top level reads rules. For every branch of these functions that calls another, the lemmas
here say what the function returns in terms of what the functions it calls returned. Their
hypotheses are the ones the parser's own induction principles (`Parser.componentValue.mutual_induct`,
`Parser.values.induct`, `Parser.atRule.mutual_induct`, `Parser.rules.induct`) hand to each case,
so a proof by those inductions rewrites each case with one of them and never unfolds the parser
itself.

* **`Parser.componentValue_url`**, **`Parser.componentValue_function`**,
  **`Parser.componentValue_block`**, **`Parser.componentValue_other`** — a value of one token or
  of a bracketed run.
* **`Parser.nested_close`**, **`Parser.nested_mismatched`**, **`Parser.nested_value`**,
  **`Parser.values_stop`**, **`Parser.values_value`** — runs of values.
* **`Parser.atRule_semicolon`**, **`Parser.atRule_block`**, **`Parser.atRule_left`**,
  **`Parser.atRule_end`** — an at-rule's prelude stopped by `;`, by `{`, by another token (left
  in place) and by the end of the text.
* **`Parser.qualifiedRule_block`**, **`Parser.qualifiedRule_semicolon`**,
  **`Parser.qualifiedRule_left`**, **`Parser.qualifiedRule_end`** — a qualified rule's prelude
  stopped likewise; without a block there is no rule and an error.
* **`Parser.block_eq`**, **`Parser.blockItems_rbrace`** … **`Parser.blockItems_qualified_stuck`**
  — a block and its items.
* **`Parser.rules_atRule`** … **`Parser.rules_qualified_stuck`** — the top level. -/

namespace StyleRebase.Css.Parser

/-! ## (1) What a prelude leaves -/

section Rest

variable {ts : List Token} {r : Rest ts} {s : Token} {r2 : List Token}

/-- The token that stopped a prelude and the tokens after it are no more than the prelude's. -/
theorem Rest.cons_le (hr : r.1 = s :: r2) : (s :: r2).length ≤ ts.length := hr ▸ r.2

theorem Rest.tail_le (hr : r.1 = s :: r2) : r2.length ≤ ts.length :=
  Nat.le_of_succ_le (Rest.cons_le hr)

/-- What a function called on the tokens after the stop token leaves is shorter still. -/
theorem Rest.inner_le {l : List Token} (hr : r.1 = s :: r2) (h : l.length < (s :: r2).length) :
    l.length ≤ ts.length :=
  Nat.le_of_lt (Nat.lt_of_lt_of_le h (Rest.cons_le hr))

end Rest

/-! ## (2) Values -/

section Values

variable {size : Nat} {t : Token} {ts tail : List Token}

/-- **An unquoted reference token** is a reference value. -/
theorem componentValue_url (ht : t.kind = .url) :
    componentValue size t ts = (some (.url (unquotedUrl t)), ⟨ts, Nat.lt_succ_self _⟩, []) := by
  rw [componentValue]
  simp only [ht]

/-- **A function** takes its arguments up to the `)` that closes it. -/
theorem componentValue_function (ht : t.kind = .function) {args : List ComponentValue}
    {stop : Nat} {rest : Rest ts} {errs : List ParseError}
    (hn : nested size .rparen ')' ts = (args, stop, rest, errs)) :
    componentValue size t ts = (some (functionValue t.text.dropLast args ⟨t.span.start, stop⟩),
      ⟨rest.1, Nat.lt_succ_of_le rest.2⟩, errs) := by
  rw [componentValue]
  simp only [ht, hn]

/-- **A bracketed block** takes its values up to the bracket that closes it. -/
theorem componentValue_block (ht : t.kind = .lparen ∨ t.kind = .lbracket ∨ t.kind = .lbrace)
    {close : TokenKind} {closeChar : Char} (hcl : closerOf t.kind = (close, closeChar))
    {vals : List ComponentValue} {stop : Nat} {rest : Rest ts} {errs : List ParseError}
    (hn : nested size close closeChar ts = (vals, stop, rest, errs)) :
    componentValue size t ts = (some (.block (openerOf t.kind) vals ⟨t.span.start, stop⟩),
      ⟨rest.1, Nat.lt_succ_of_le rest.2⟩, errs) := by
  rw [componentValue]
  rcases ht with ht | ht | ht <;> rw [ht] at hcl <;> simp only [ht, hcl, hn]

/-- **A token of a kind with no rule of its own** is a value of its own. -/
theorem componentValue_other (h1 : t.kind ≠ .url) (h2 : t.kind ≠ .function)
    (h3 : t.kind ≠ .lparen) (h4 : t.kind ≠ .lbracket) (h5 : t.kind ≠ .lbrace)
    (h6 : t.kind ≠ .rparen) (h7 : t.kind ≠ .rbracket) (h8 : t.kind ≠ .rbrace)
    (h9 : t.kind ≠ .badString) (h10 : t.kind ≠ .badUrl) (h11 : t.kind ≠ .error) :
    componentValue size t ts = (some (.token t), ⟨ts, Nat.lt_succ_self _⟩, []) := by
  rw [componentValue]
  split
  case h_12 => rfl
  all_goals contradiction

variable {close : TokenKind} {closeChar : Char}

/-- **The closing bracket** ends the nested values and is consumed. -/
theorem nested_close (hc : (t.kind == close) = true) :
    nested size close closeChar (t :: tail) = ([], t.span.stop, ⟨tail, Nat.le_succ _⟩, []) := by
  rw [nested]
  simp only [hc, if_true]

/-- **A different closing bracket** ends the nested values with an error and is left for the
enclosing construct. -/
theorem nested_mismatched (hc : ¬(t.kind == close) = true) (hcl : t.kind.isClosing = true) :
    nested size close closeChar (t :: tail) = ([], t.span.start, ⟨t :: tail, Nat.le_refl _⟩,
      [⟨.mismatchedBracket closeChar (t.text.headD closeChar), t.span⟩]) := by
  rw [nested]
  simp only [hc, hcl, if_true, if_false, Bool.false_eq_true]

/-- **One nested value**, then the others. -/
theorem nested_value (hc : ¬(t.kind == close) = true) (hcl : ¬t.kind.isClosing = true)
    {v : Option ComponentValue} {r : { r : List Token // r.length < (t :: tail).length }}
    {errs : List ParseError} (hcv : componentValue size t tail = (v, r, errs))
    {vs : List ComponentValue} {stop : Nat} {r' : Rest r.1} {errs' : List ParseError}
    (hn : nested size close closeChar r.1 = (vs, stop, r', errs')) :
    nested size close closeChar (t :: tail) = (v.toList ++ vs, stop,
      ⟨r'.1, Nat.le_of_lt (Nat.lt_of_le_of_lt r'.2 r.2)⟩, errs ++ errs') := by
  rw [nested]
  simp only [hc, hcl, if_false, Bool.false_eq_true]
  rw [hcv]
  dsimp only
  rw [hn]

variable {stop : TokenKind → Bool}

/-- **A stop token** ends the values and is left in place. -/
theorem values_stop (h : stop t.kind = true) :
    values size stop (t :: tail) = ([], ⟨t :: tail, Nat.le_refl _⟩, []) := by
  rw [values]
  simp only [h, if_true]

/-- **One value**, then the others up to the stop token. -/
theorem values_value (h : ¬stop t.kind = true) {v : Option ComponentValue}
    {r : { r : List Token // r.length < (t :: tail).length }} {errs : List ParseError}
    (hcv : componentValue size t tail = (v, r, errs)) {vs : List ComponentValue}
    {r' : Rest r.1} {errs' : List ParseError} (hvs : values size stop r.1 = (vs, r', errs')) :
    values size stop (t :: tail) = (v.toList ++ vs,
      ⟨r'.1, Nat.le_of_lt (Nat.lt_of_le_of_lt r'.2 r.2)⟩, errs ++ errs') := by
  rw [values]
  simp only [h, if_false, Bool.false_eq_true]
  rw [hcv]
  dsimp only
  rw [hvs]

end Values

/-! ## (3) At-rules and qualified rules -/

section Rules

variable {size : Nat} {t s : Token} {ts r2 : List Token} {vals : List ComponentValue}
  {r : Rest ts} {errs : List ParseError}

/-- **An at-rule ended by `;`** consumes the `;`. -/
theorem atRule_semicolon (hv : values size atPreludeStop ts = (vals, r, errs))
    (hr : r.1 = s :: r2) (hs : (s.kind == .semicolon) = true) :
    atRule size t ts = (.atRule (t.text.drop 1) vals none ⟨t.span.start, s.span.stop⟩,
      ⟨r2, Nat.lt_succ_of_le (Rest.tail_le hr)⟩, errs) := by
  rw [atRule, hv]
  obtain ⟨rv, hrv⟩ := r
  dsimp only at hr ⊢
  subst hr
  simp only [hs, if_true]

/-- **An at-rule with a block** ends where its block ends. -/
theorem atRule_block (hv : values size atPreludeStop ts = (vals, r, errs))
    (hr : r.1 = s :: r2) (hs : ¬(s.kind == .semicolon) = true) (hb : (s.kind == .lbrace) = true)
    {b : Block} {r3 : { r : List Token // r.length < (s :: r2).length }} {e2 : List ParseError}
    (hblk : block size s r2 = (b, r3, e2)) :
    atRule size t ts = (.atRule (t.text.drop 1) vals (some b) ⟨t.span.start, b.span.stop⟩,
      ⟨r3.1, Nat.lt_succ_of_le (Rest.inner_le hr r3.2)⟩, errs ++ e2) := by
  rw [atRule, hv]
  obtain ⟨rv, hrv⟩ := r
  dsimp only at hr ⊢
  subst hr
  simp only [hs, hb, if_true, if_false, Bool.false_eq_true]
  rw [hblk]

/-- **An at-rule ended by another token** (a `}`) leaves it in place and ends with its prelude,
or with its keyword when the prelude is empty. -/
theorem atRule_left (hv : values size atPreludeStop ts = (vals, r, errs))
    (hr : r.1 = s :: r2) (hs : ¬(s.kind == .semicolon) = true)
    (hb : ¬(s.kind == .lbrace) = true) :
    atRule size t ts = (.atRule (t.text.drop 1) vals none
        ⟨t.span.start, vals.getLast?.elim t.span.stop fun v => v.span.stop⟩,
      ⟨s :: r2, Nat.lt_succ_of_le (Rest.cons_le hr)⟩, errs) := by
  rw [atRule, hv]
  obtain ⟨rv, hrv⟩ := r
  dsimp only at hr ⊢
  subst hr
  simp only [hs, hb, if_false, Bool.false_eq_true]
  cases vals.getLast? <;> rfl

/-- **An at-rule at the end of the text** ends with its prelude. -/
theorem atRule_end (hv : values size atPreludeStop ts = (vals, r, errs)) (hr : r.1 = []) :
    atRule size t ts = (.atRule (t.text.drop 1) vals none
        ⟨t.span.start, vals.getLast?.elim t.span.stop fun v => v.span.stop⟩,
      ⟨[], Nat.zero_lt_succ _⟩, errs) := by
  rw [atRule, hv]
  obtain ⟨rv, hrv⟩ := r
  dsimp only at hr ⊢
  subst hr
  cases vals.getLast? <;> rfl

/-- **A qualified rule with its block**, from the front of its tokens to the end of the block. -/
theorem qualifiedRule_block (hv : values size qualifiedPreludeStop ts = (vals, r, errs))
    (hr : r.1 = s :: r2) (hb : (s.kind == .lbrace) = true)
    {b : Block} {r3 : { r : List Token // r.length < (s :: r2).length }} {e2 : List ParseError}
    (hblk : block size s r2 = (b, r3, e2)) :
    qualifiedRule size ts = (some (.qualified vals b ⟨(ts.head?.map fun t => t.span.start).getD size,
        b.span.stop⟩), ⟨r3.1, Rest.inner_le hr r3.2⟩, errs ++ e2) := by
  rw [qualifiedRule.eq_def, hv]
  obtain ⟨rv, hrv⟩ := r
  dsimp only at hr ⊢
  subst hr
  simp only [hb, if_true]
  rw [hblk]
  cases ts <;> rfl

/-- **A qualified rule whose prelude a `;` ends** is no rule: the missing `{` is recorded and the
`;` skipped. -/
theorem qualifiedRule_semicolon (hv : values size qualifiedPreludeStop ts = (vals, r, errs))
    (hr : r.1 = s :: r2) (hb : ¬(s.kind == .lbrace) = true) (hs : (s.kind == .semicolon) = true) :
    qualifiedRule size ts = (none, ⟨r2, Rest.tail_le hr⟩,
      errs ++ [unexpected size (TokenKind.lbrace.describe) (s :: r2)]) := by
  rw [qualifiedRule.eq_def, hv]
  obtain ⟨rv, hrv⟩ := r
  dsimp only at hr ⊢
  subst hr
  simp only [hb, hs, if_true, if_false, Bool.false_eq_true]

/-- **A qualified rule whose prelude another token ends** is no rule: the missing `{` is recorded
and the token left in place. -/
theorem qualifiedRule_left (hv : values size qualifiedPreludeStop ts = (vals, r, errs))
    (hr : r.1 = s :: r2) (hb : ¬(s.kind == .lbrace) = true) (hs : ¬(s.kind == .semicolon) = true) :
    qualifiedRule size ts = (none, ⟨s :: r2, Rest.cons_le hr⟩,
      errs ++ [unexpected size (TokenKind.lbrace.describe) (s :: r2)]) := by
  rw [qualifiedRule.eq_def, hv]
  obtain ⟨rv, hrv⟩ := r
  dsimp only at hr ⊢
  subst hr
  simp only [hb, hs, if_false, Bool.false_eq_true]

/-- **A qualified rule at the end of the text** is no rule: the missing `{` is recorded. -/
theorem qualifiedRule_end (hv : values size qualifiedPreludeStop ts = (vals, r, errs))
    (hr : r.1 = []) :
    qualifiedRule size ts = (none, ⟨[], Nat.zero_le _⟩,
      errs ++ [unexpected size (TokenKind.lbrace.describe) []]) := by
  rw [qualifiedRule.eq_def, hv]
  obtain ⟨rv, hrv⟩ := r
  dsimp only at hr ⊢
  subst hr
  rfl

end Rules

/-! ## (4) Blocks and their items -/

section Items

variable {size : Nat} {t : Token} {tail : List Token} {items : List BlockItem} {stop : Nat}
  {e1 e2 : List ParseError}

/-- **A block** is its items, from its `{` to where they end. -/
theorem block_eq {ts : List Token} {r : Rest ts} {errs : List ParseError}
    (hbi : blockItems size ts = (items, stop, r, errs)) :
    block size t ts = (.mk items ⟨t.span.start, stop⟩, ⟨r.1, Nat.lt_succ_of_le r.2⟩, errs) := by
  rw [block, hbi]

/-- **The closing brace** ends the items and is consumed. -/
theorem blockItems_rbrace (hk : t.kind = .rbrace) :
    blockItems size (t :: tail) = ([], t.span.stop, ⟨tail, Nat.le_succ _⟩, []) := by
  rw [blockItems]
  simp only [hk]

/-- **A stray `;`** between items is skipped. -/
theorem blockItems_semicolon (hk : t.kind = .semicolon) {r : Rest tail} {errs : List ParseError}
    (hbi : blockItems size tail = (items, stop, r, errs)) :
    blockItems size (t :: tail) = (items, stop, ⟨r.1, Nat.le_succ_of_le r.2⟩, errs) := by
  rw [blockItems]
  simp only [hk]
  rw [hbi]

/-- **A nested at-rule**, then the other items. -/
theorem blockItems_atRule (hk : t.kind = .atKeyword) {rule : Rule}
    {r : { r : List Token // r.length < (t :: tail).length }} {r' : Rest r.1}
    (hat : atRule size t tail = (rule, r, e1)) (hbi : blockItems size r.1 = (items, stop, r', e2)) :
    blockItems size (t :: tail) = (.rule rule :: items, stop,
      ⟨r'.1, Nat.le_of_lt (Nat.lt_of_le_of_lt r'.2 r.2)⟩, e1 ++ e2) := by
  rw [blockItems]
  simp only [hk]
  rw [hat]
  dsimp only
  rw [hbi]

/-- **A declaration**, then the other items. -/
theorem blockItems_declaration (h₁ : t.kind ≠ .rbrace) (h₂ : t.kind ≠ .semicolon)
    (h₃ : t.kind ≠ .atKeyword) (hdecl : (t.kind == .ident && startsDeclaration t tail) = true)
    {d : Option Declaration} {r : { r : List Token // r.length < (t :: tail).length }}
    {r' : Rest r.1} (hd : declaration size t tail = (d, r, e1))
    (hbi : blockItems size r.1 = (items, stop, r', e2)) :
    blockItems size (t :: tail) = ((d.map .declaration).toList ++ items, stop,
      ⟨r'.1, Nat.le_of_lt (Nat.lt_of_le_of_lt r'.2 r.2)⟩, e1 ++ e2) := by
  rw [blockItems]
  split
  case h_4 =>
    rw [if_pos hdecl, hd]
    dsimp only
    rw [hbi]
  all_goals contradiction

/-- **A nested qualified rule**, then the other items. -/
theorem blockItems_qualified (h₁ : t.kind ≠ .rbrace) (h₂ : t.kind ≠ .semicolon)
    (h₃ : t.kind ≠ .atKeyword) (hdecl : ¬(t.kind == .ident && startsDeclaration t tail) = true)
    {rule : Option Rule} {r : Rest (t :: tail)} {r' : Rest r.1}
    (hq : qualifiedRule size (t :: tail) = (rule, r, e1)) (hlt : r.1.length < (t :: tail).length)
    (hbi : blockItems size r.1 = (items, stop, r', e2)) :
    blockItems size (t :: tail) = ((rule.map .rule).toList ++ items, stop,
      ⟨r'.1, Nat.le_trans r'.2 r.2⟩, e1 ++ e2) := by
  rw [blockItems]
  split
  case h_4 =>
    rw [if_neg hdecl, hq]
    dsimp only
    rw [dif_pos hlt, hbi]
  all_goals contradiction

/-- A nested qualified rule that took nothing ends the items. -/
theorem blockItems_qualified_stuck (h₁ : t.kind ≠ .rbrace) (h₂ : t.kind ≠ .semicolon)
    (h₃ : t.kind ≠ .atKeyword) (hdecl : ¬(t.kind == .ident && startsDeclaration t tail) = true)
    {rule : Option Rule} {r : Rest (t :: tail)}
    (hq : qualifiedRule size (t :: tail) = (rule, r, e1)) (hlt : ¬r.1.length < (t :: tail).length) :
    blockItems size (t :: tail) = ((rule.map .rule).toList, size, r, e1) := by
  rw [blockItems]
  split
  case h_4 =>
    rw [if_neg hdecl, hq]
    dsimp only
    rw [dif_neg hlt]
  all_goals contradiction

end Items

/-! ## (5) The top level -/

section TopLevel

variable {size : Nat} {t : Token} {tail : List Token} {rs : List Rule} {e1 e2 : List ParseError}

/-- **A top-level at-rule**, then the other rules. -/
theorem rules_atRule (hk : t.kind = .atKeyword) {rule : Rule}
    {r : { r : List Token // r.length < (t :: tail).length }}
    (hat : atRule size t tail = (rule, r, e1)) (hrs : rules size r.1 = (rs, e2)) :
    rules size (t :: tail) = (rule :: rs, e1 ++ e2) := by
  rw [rules]
  simp only [hk]
  rw [hat]
  dsimp only
  rw [hrs]

/-- **A stray `}` or `;` at the top level** is recorded and skipped. -/
theorem rules_stray (hk : t.kind = .rbrace ∨ t.kind = .semicolon)
    (hrs : rules size tail = (rs, e2)) :
    rules size (t :: tail) = (rs, ⟨.unexpectedToken "rule" t.kind.describe, t.span⟩ :: e2) := by
  rw [rules]
  rcases hk with hk | hk <;> simp only [hk] <;> rw [hrs]

/-- **A top-level qualified rule**, then the other rules. -/
theorem rules_qualified (h₁ : t.kind ≠ .atKeyword) (h₂ : t.kind ≠ .rbrace)
    (h₃ : t.kind ≠ .semicolon) {rule : Option Rule} {r : Rest (t :: tail)}
    (hq : qualifiedRule size (t :: tail) = (rule, r, e1)) (hlt : r.1.length < (t :: tail).length)
    (hrs : rules size r.1 = (rs, e2)) :
    rules size (t :: tail) = (rule.toList ++ rs, e1 ++ e2) := by
  rw [rules]
  split
  case h_4 =>
    rw [hq]
    dsimp only
    rw [dif_pos hlt, hrs]
  all_goals contradiction

/-- A top-level qualified rule that took nothing ends the rules. -/
theorem rules_qualified_stuck (h₁ : t.kind ≠ .atKeyword) (h₂ : t.kind ≠ .rbrace)
    (h₃ : t.kind ≠ .semicolon) {rule : Option Rule} {r : Rest (t :: tail)}
    (hq : qualifiedRule size (t :: tail) = (rule, r, e1)) (hlt : ¬r.1.length < (t :: tail).length) :
    rules size (t :: tail) = (rule.toList, e1) := by
  rw [rules]
  split
  case h_4 =>
    rw [hq]
    dsimp only
    rw [dif_neg hlt]
  all_goals contradiction

end TopLevel

end StyleRebase.Css.Parser
