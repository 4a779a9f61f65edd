import StyleRebase.Proofs.ParserCongruence

/-! # Every malformed token is an error

The scanner gives text it cannot read one of three kinds: an unterminated string, a malformed
reference or an invalid token. The parser lets none of them pass silently: each reaches
`Parser.componentValue`, which records it. So a text has at least as many errors as malformed
tokens, and a text that parses without errors has none.

* **`Parser.Recorded`** — a run took a stretch of its tokens and recorded an error for each
  malformed token of it.
* **`Parser.qualifiedRule_shrinks`** — a qualified rule takes a token whenever one may start it.
* **`Parser.componentValue_recorded`**, **`Parser.atRule_recorded`**, **`Parser.rules_recorded`**
  — the parsing functions record what they take.
* **`malformed_le_errors`** — a text has at least as many errors as malformed tokens. -/

namespace StyleRebase.Css

/-- **Kinds of text the scanner could not read**: an unterminated string, a malformed reference
and an invalid token. -/
def TokenKind.isMalformed : TokenKind → Bool
  | .badString | .badUrl | .error => true
  | _ => false

theorem TokenKind.isMalformed_eq_false {k : TokenKind} (h₁ : k ≠ .badString) (h₂ : k ≠ .badUrl)
    (h₃ : k ≠ .error) : k.isMalformed = false := by
  cases k <;> simp_all [TokenKind.isMalformed]

/-- The closing bracket of a block is well formed. -/
theorem closerOf_isMalformed (k : TokenKind) : (Parser.closerOf k).1.isMalformed = false := by
  cases k <;> rfl

/-! ## (1) Runs that record what they take -/

namespace Parser

/-- **What a run took and recorded**: the tokens `ts` are a stretch followed by the tokens left
over, `rest`, and the errors `errs` are at least as many as the malformed tokens of the
stretch. -/
def Recorded (ts rest : List Token) (errs : List ParseError) : Prop :=
  ∃ pre, ts = pre ++ rest ∧ pre.countP (·.kind.isMalformed) ≤ errs.length

namespace Recorded

theorem refl (ts : List Token) (errs : List ParseError) : Recorded ts ts errs :=
  ⟨[], rfl, Nat.zero_le _⟩

theorem trans {ts r r' : List Token} {e₁ e₂ : List ParseError} (h₁ : Recorded ts r e₁)
    (h₂ : Recorded r r' e₂) : Recorded ts r' (e₁ ++ e₂) := by
  obtain ⟨p₁, rfl, hp₁⟩ := h₁
  obtain ⟨p₂, rfl, hp₂⟩ := h₂
  refine ⟨p₁ ++ p₂, (List.append_assoc _ _ _).symm, ?_⟩
  rw [List.countP_append, List.length_append]
  omega

/-- A well-formed token taken first. -/
theorem cons {ts r : List Token} {e : List ParseError} {t : Token}
    (ht : t.kind.isMalformed = false) (h : Recorded ts r e) : Recorded (t :: ts) r e := by
  obtain ⟨pre, rfl, hp⟩ := h
  refine ⟨t :: pre, rfl, ?_⟩
  rw [List.countP_cons_of_neg (by simp [ht])]
  exact hp

/-- A well-formed token taken last. -/
theorem snoc {ts r : List Token} {e : List ParseError} {s : Token} (h : Recorded ts (s :: r) e)
    (hs : s.kind.isMalformed = false) : Recorded ts r e := by
  obtain ⟨pre, rfl, hp⟩ := h
  refine ⟨pre ++ [s], by rw [List.append_assoc, List.singleton_append], ?_⟩
  rw [List.countP_append, List.countP_singleton]
  simp [hs, hp]

/-- A token taken and recorded as an error. -/
theorem error (t : Token) (ts : List Token) (err : ParseError) : Recorded (t :: ts) ts [err] := by
  refine ⟨[t], rfl, ?_⟩
  rw [List.length_singleton]
  exact List.countP_le_length

/-- More errors record as much. -/
theorem mono {ts r : List Token} {e e' : List ParseError} (h : Recorded ts r e)
    (he : e.length ≤ e'.length) : Recorded ts r e' := by
  obtain ⟨pre, hts, hp⟩ := h
  exact ⟨pre, hts, Nat.le_trans hp he⟩

/-- The malformed tokens of a run's tokens are recorded, or left over. -/
theorem countP_le {ts r : List Token} {e : List ParseError} (h : Recorded ts r e) :
    ts.countP (·.kind.isMalformed) ≤ e.length + r.countP (·.kind.isMalformed) := by
  obtain ⟨pre, rfl, hp⟩ := h
  rw [List.countP_append]
  omega

end Recorded

/-! ## (2) Values record their malformed tokens -/

variable (size : Nat)

/-- **A component value records what it takes**, and nested values do too when their closing
bracket is well formed. Malformed tokens are exactly those `componentValue` turns into errors; the
induction follows the parser's mutual recursion. -/
theorem componentValue_recorded :
    (∀ t ts, Recorded (t :: ts) (componentValue size t ts).2.1.1 (componentValue size t ts).2.2) ∧
    (∀ close closeChar ts, close.isMalformed = false →
      Recorded ts (nested size close closeChar ts).2.2.1.1 (nested size close closeChar ts).2.2.2) := by
  apply componentValue.mutual_induct size
    (fun t ts => Recorded (t :: ts) (componentValue size t ts).2.1.1 (componentValue size t ts).2.2)
    (fun close closeChar ts => close.isMalformed = false →
      Recorded ts (nested size close closeChar ts).2.2.1.1 (nested size close closeChar ts).2.2.2)
  case _ => -- an unquoted reference
    intro t ts ht
    rw [componentValue_url ht]
    exact (Recorded.refl ts []).cons (by rw [ht]; rfl)
  case _ => -- a function
    intro t ts ht args stop rest errs hn ih
    rw [hn] at ih
    rw [componentValue_function ht hn]
    exact (ih rfl).cons (by rw [ht]; rfl)
  case _ | _ | _ => -- a block
    intro t ts ht close closeChar hcl vals stop rest errs hn ih
    have hclose : close.isMalformed = false := by
      rw [← closerOf_isMalformed t.kind, hcl]
    rw [hn] at ih
    rw [componentValue_block (by simp only [ht, true_or, or_true]) hcl hn]
    exact (ih hclose).cons (by rw [ht]; rfl)
  case _ | _ | _ | _ | _ | _ => -- a token recorded as an error
    intro t ts ht
    rw [componentValue]
    simp only [ht]
    exact .error t ts _
  case _ => -- any other token is a value of its own, and well formed
    intro t ts h1 h2 h3 h4 h5 h6 h7 h8 h9 h10 h11
    rw [componentValue_other h1 h2 h3 h4 h5 h6 h7 h8 h9 h10 h11]
    exact (Recorded.refl ts []).cons (TokenKind.isMalformed_eq_false h9 h10 h11)
  case _ => -- no tokens left
    intro close closeChar _
    rw [nested]
    exact .refl [] _
  case _ => -- the closing bracket
    intro close closeChar t tail hc hclose
    rw [nested_close hc]
    have hk : t.kind = close := by simpa using hc
    exact (Recorded.refl tail []).cons (by rw [hk]; exact hclose)
  case _ => -- a different closing bracket, left in place
    intro close closeChar t tail hc hcl _
    rw [nested_mismatched hc hcl]
    exact .refl _ _
  case _ => -- one value, then the rest
    intro close closeChar t tail hc hcl v r errs hcv vs stop r' errs' hn ih₁ ih₂ hclose
    rw [hcv] at ih₁
    rw [hn] at ih₂
    rw [nested_value hc hcl hcv hn]
    exact ih₁.trans (ih₂ hclose)

/-- **Values up to a stop token record what they take.** -/
theorem values_recorded (stop : TokenKind → Bool) (ts : List Token) :
    Recorded ts (values size stop ts).2.1.1 (values size stop ts).2.2 := by
  induction ts using values.induct size stop with
  | case1 =>
    rw [values]
    exact .refl [] []
  | case2 t tail hstop =>
    rw [values_stop hstop]
    exact .refl _ []
  | case3 t tail hstop v r errs hcv vs r' errs' hvs ih =>
    rw [hvs] at ih
    have hv := (componentValue_recorded size).1 t tail
    rw [hcv] at hv
    rw [values_value hstop hcv hvs]
    exact hv.trans ih

theorem values_recorded_of_eq {stop : TokenKind → Bool} {ts : List Token}
    {vals : List ComponentValue} {r : Rest ts} {errs : List ParseError}
    (hv : values size stop ts = (vals, r, errs)) : Recorded ts r.1 errs := by
  have h := values_recorded size stop ts
  rwa [hv] at h

/-- **A declaration records what it takes**, its name being well formed. -/
theorem declaration_recorded {t : Token} (ht : t.kind.isMalformed = false) (ts : List Token) :
    Recorded (t :: ts) (declaration size t ts).2.1.1 (declaration size t ts).2.2 := by
  cases ts with
  | nil =>
    simp only [declaration]
    exact .error t [] _
  | cons c rest =>
    simp only [declaration]
    split
    · rename_i hc
      exact ((values_recorded size declarationStop rest).cons (by rw [eq_of_beq hc]; rfl)).cons ht
    · exact ((values_recorded size declarationStop (c :: rest)).mono (by simp)).cons ht

/-! ## (3) Rules record their malformed tokens -/

/-- **Rules record what they take**: an at-rule and a block from their well-formed first token
on, block items and a qualified rule from wherever they start. -/
theorem atRule_recorded :
    (∀ t ts, t.kind.isMalformed = false →
      Recorded (t :: ts) (atRule size t ts).2.1.1 (atRule size t ts).2.2) ∧
    (∀ t ts, t.kind.isMalformed = false →
      Recorded (t :: ts) (block size t ts).2.1.1 (block size t ts).2.2) ∧
    (∀ ts, Recorded ts (blockItems size ts).2.2.1.1 (blockItems size ts).2.2.2) ∧
    (∀ ts, Recorded ts (qualifiedRule size ts).2.1.1 (qualifiedRule size ts).2.2) := by
  apply atRule.mutual_induct size
    (fun t ts => t.kind.isMalformed = false →
      Recorded (t :: ts) (atRule size t ts).2.1.1 (atRule size t ts).2.2)
    (fun t ts => t.kind.isMalformed = false →
      Recorded (t :: ts) (block size t ts).2.1.1 (block size t ts).2.2)
    (fun ts => Recorded ts (blockItems size ts).2.2.1.1 (blockItems size ts).2.2.2)
    (fun ts => Recorded ts (qualifiedRule size ts).2.1.1 (qualifiedRule size ts).2.2)
  case _ => -- an at-rule ending with `;`
    intro t ts vals r errs hv s r2 hr hs ht
    have hp := values_recorded_of_eq size hv
    rw [hr] at hp
    rw [atRule_semicolon hv hr hs]
    exact (hp.snoc (by rw [eq_of_beq hs]; rfl)).cons ht
  case _ => -- an at-rule with a block
    intro t ts vals r errs hv s r2 hr hs hb b r3 e2 hblk ih ht
    rw [hblk] at ih
    have hp := values_recorded_of_eq size hv
    rw [hr] at hp
    rw [atRule_block hv hr hs hb hblk]
    exact (hp.trans (ih (by rw [eq_of_beq hb]; rfl))).cons ht
  case _ => -- an at-rule ended by another token, left in place
    intro t ts vals r errs hv s r2 hr hs hb ht
    have hp := values_recorded_of_eq size hv
    rw [hr] at hp
    rw [atRule_left hv hr hs hb]
    exact hp.cons ht
  case _ => -- an at-rule at the end of the text
    intro t ts vals r errs hv hr ht
    have hp := values_recorded_of_eq size hv
    rw [hr] at hp
    rw [atRule_end hv hr]
    exact hp.cons ht
  case _ => -- a block
    intro t ts items stop r errs hbi ih ht
    rw [hbi] at ih
    rw [block_eq hbi]
    exact ih.cons ht
  case _ => -- no items left
    rw [blockItems]
    exact .refl [] _
  case _ => -- the closing brace
    intro t tail hk
    rw [blockItems_rbrace hk]
    exact (Recorded.refl tail []).cons (by rw [hk]; rfl)
  case _ => -- a stray semicolon
    intro t tail hk items stop r errs hbi ih
    rw [hbi] at ih
    rw [blockItems_semicolon hk hbi]
    exact ih.cons (by rw [hk]; rfl)
  case _ => -- a nested at-rule, then the other items
    intro t tail hk rule r e1 hat items stop r' e2 hbi ih₁ ih₃
    rw [hat] at ih₁
    rw [hbi] at ih₃
    rw [blockItems_atRule hk hat hbi]
    exact (ih₁ (by rw [hk]; rfl)).trans ih₃
  case _ => -- a declaration, then the other items
    intro t tail d r e1 hd items stop r' e2 hbi h₁ h₂ h₃ hdecl ih₃
    rw [hbi] at ih₃
    have hident : t.kind = .ident := by
      simp only [Bool.and_eq_true, beq_iff_eq] at hdecl
      exact hdecl.1
    have ih₁ := declaration_recorded size (by rw [hident]; rfl) tail
    rw [hd] at ih₁
    rw [blockItems_declaration h₁ h₂ h₃ hdecl hd hbi]
    exact ih₁.trans ih₃
  case _ => -- a nested qualified rule, then the other items
    intro t tail rule r e1 hq hlt items stop r' e2 hbi h₁ h₂ h₃ hdecl ih₄ ih₃
    rw [hq] at ih₄
    rw [hbi] at ih₃
    rw [blockItems_qualified h₁ h₂ h₃ hdecl hq hlt hbi]
    exact ih₄.trans ih₃
  case _ => -- a nested qualified rule that took nothing
    intro t tail rule r e1 hq hlt h₁ h₂ h₃ hdecl ih₄
    rw [hq] at ih₄
    rw [blockItems_qualified_stuck h₁ h₂ h₃ hdecl hq hlt]
    exact ih₄
  case _ => -- a qualified rule with its block
    intro ts vals r errs hv s r2 hr hb b r3 e2 hblk ih
    rw [hblk] at ih
    have hp := values_recorded_of_eq size hv
    rw [hr] at hp
    rw [qualifiedRule_block hv hr hb hblk]
    exact hp.trans (ih (by rw [eq_of_beq hb]; rfl))
  case _ => -- a prelude ended by a semicolon, which is skipped and recorded
    intro ts vals r errs hv s r2 hr hb hs
    have hp := values_recorded_of_eq size hv
    rw [hr] at hp
    rw [qualifiedRule_semicolon hv hr hb hs]
    exact hp.trans (.error s r2 _)
  case _ => -- a prelude ended by another token, left in place
    intro ts vals r errs hv s r2 hr hb hs
    have hp := values_recorded_of_eq size hv
    rw [hr] at hp
    rw [qualifiedRule_left hv hr hb hs]
    exact hp.mono (by simp)
  case _ => -- a prelude at the end of the text
    intro ts vals r errs hv hr
    have hp := values_recorded_of_eq size hv
    rw [hr] at hp
    rw [qualifiedRule_end hv hr]
    exact hp.mono (by simp)

/-! ## (4) The top level -/

/-- Values take the first token unless it stops them. -/
theorem values_shrinks {stop : TokenKind → Bool} {t : Token} {tail : List Token}
    (h : stop t.kind = false) : (values size stop (t :: tail)).2.1.1.length < (t :: tail).length := by
  rw [values]
  simp only [h, Bool.false_eq_true, if_false]
  rcases hcv : componentValue size t tail with ⟨v, r, errs⟩
  rcases hvs : values size stop r.1 with ⟨vs, r', errs'⟩
  dsimp only
  exact Nat.lt_of_le_of_lt r'.2 r.2

/-- **A qualified rule takes a token whenever one may start it**: a first token other than `}`
and `;` is either the `{` of its block or the start of its prelude. So the branch of the rule
loops for a qualified rule that took nothing is never taken. -/
theorem qualifiedRule_shrinks {t : Token} {tail : List Token} (h₂ : t.kind ≠ .rbrace)
    (h₃ : t.kind ≠ .semicolon) :
    (qualifiedRule size (t :: tail)).2.1.1.length < (t :: tail).length := by
  rw [qualifiedRule.eq_def]
  by_cases hb : t.kind = .lbrace
  · -- the prelude is empty and `t` opens the block
    have hv : values size qualifiedPreludeStop (t :: tail) = ([], ⟨t :: tail, Nat.le_refl _⟩, []) := by
      rw [values]
      simp [qualifiedPreludeStop, hb]
    rw [hv]
    dsimp only
    simp only [hb, beq_self_eq_true, if_true]
    exact (block size t tail).2.1.2
  · -- the prelude takes `t`, and the rule takes no less than its prelude
    have hstop : qualifiedPreludeStop t.kind = false := by
      simp [qualifiedPreludeStop, hb, h₂, h₃]
    have hlt : (values size qualifiedPreludeStop (t :: tail)).2.1.1.length < (t :: tail).length :=
      values_shrinks size hstop
    rcases hv : values size qualifiedPreludeStop (t :: tail) with ⟨vals, ⟨rv, hrv⟩, errs⟩
    rw [hv] at hlt
    dsimp only at hlt ⊢
    split
    · rename_i s r2
      split
      · dsimp only
        exact Nat.lt_trans (block size s r2).2.1.2 hlt
      · split
        · simp only [List.length_cons] at hlt ⊢
          omega
        · exact hlt
    · exact hlt

/-- **The top-level rules record every malformed token**: they take all their tokens, so the
malformed ones are at most as many as the errors. -/
theorem rules_recorded (ts : List Token) :
    ts.countP (·.kind.isMalformed) ≤ (rules size ts).2.length := by
  induction ts using rules.induct size with
  | case1 =>
    rw [rules]
    exact Nat.le_refl 0
  | case2 t tail hk rule r e1 hat rs e2 hrs ih =>
    have h := (atRule_recorded size).1 t tail (by rw [hk]; rfl)
    rw [hat] at h
    rw [hrs] at ih
    rw [rules_atRule hk hat hrs, List.length_append]
    have := h.countP_le
    dsimp only at this ih
    omega
  | case3 t tail hk rs e2 hrs ih | case4 t tail hk rs e2 hrs ih =>
    -- a stray `}` or `;`, well formed and recorded anyway
    rw [hrs] at ih
    dsimp only at ih
    rw [rules_stray (by simp only [hk, true_or, or_true]) hrs,
      List.countP_cons_of_neg (by simp [hk, TokenKind.isMalformed]), List.length_cons]
    omega
  | case5 t tail rule r e1 hq hlt rs e2 hrs h₁ h₂ h₃ ih =>
    have h := (atRule_recorded size).2.2.2 (t :: tail)
    rw [hq] at h
    rw [hrs] at ih
    rw [rules_qualified h₁ h₂ h₃ hq hlt hrs, List.length_append]
    have := h.countP_le
    dsimp only at this ih
    omega
  | case6 t tail rule r e1 hq hlt h₁ h₂ h₃ =>
    -- a qualified rule that took nothing: there is none
    have : (qualifiedRule size (t :: tail)).2.1.1.length < (t :: tail).length :=
      qualifiedRule_shrinks size h₂ h₃
    rw [hq] at this
    exact absurd this hlt

end Parser

/-- Malformed tokens take part in parsing. -/
theorem Token.isSignificant_of_isMalformed {t : Token} (h : t.kind.isMalformed = true) :
    t.isSignificant = true := by
  unfold Token.isSignificant
  split <;> simp_all [TokenKind.isMalformed]

/-- **A text has at least as many errors as malformed tokens.** Each unterminated string,
malformed reference and invalid token is recorded as an error of its own. -/
theorem malformed_le_errors (s : String) :
    (tokenize s).countP (·.kind.isMalformed) ≤ (parse s).errors.length := by
  have hsig : (tokenize s).countP (·.kind.isMalformed) =
      ((tokenize s).filter Token.isSignificant).countP (·.kind.isMalformed) := by
    rw [List.countP_filter]
    congr 1
    funext t
    cases h : t.kind.isMalformed
    · rfl
    · simp [Token.isSignificant_of_isMalformed h]
  have := Parser.rules_recorded s.utf8ByteSize ((tokenize s).filter Token.isSignificant)
  simp only [parse, List.length_append]
  omega

/-- **A text that parses without errors has no malformed reference.** -/
theorem not_badUrl_of_errors_nil {s : String} (h : (parse s).errors = []) :
    ∀ t ∈ tokenize s, t.kind ≠ .badUrl := by
  intro t ht hbad
  have hcount := malformed_le_errors s
  rw [h, List.length_nil, Nat.le_zero, List.countP_eq_zero] at hcount
  exact absurd (by rw [hbad]; rfl) (hcount t ht)

end StyleRebase.Css
