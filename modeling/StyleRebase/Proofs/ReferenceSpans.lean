import StyleRebase.Rebase.Locate
import StyleRebase.Proofs.TokenSpans
import StyleRebase.Proofs.ParserBranches

/-! # Where the references of a stylesheet are

Every reference the parser builds is read off one token: an unquoted reference off its
`url(...)` token, a quoted one off the string that is the first argument of a `url` function.
The parser reads the tokens front to back, so the references come in the order of their tokens;
and since each token reads its own characters at its span, each reference's value, with its
quotes, sits at its value span, the value spans in order.

* **`ReadsOff`** — a reference read off a token.
* **`ReadFrom`** — references read, in order, off some of the tokens of a list.
* **`Took`**, **`TookValues`** — a parser took a stretch of tokens, left the rest, and read the
  references of what it built off that stretch (and, for values, took each single-token value
  from it).
* **`urls_readFrom`** — the references of a parsed stylesheet are read, in order, off its tokens.
* **`urls_located`**, **`urls_ordered`** — each value sits at its value span, and the value
  spans come in order.
* **`locate_eq_filterMap`**, **`locate_located`**, **`locate_ordered`** — the occurrences of a
  text are its references in document order, and the same holds of them. -/

namespace StyleRebase.Css

/-! ## (1) References read off tokens -/

/-- **A reference read off a token**: an unquoted reference token gives the reference its
body, trimmed; a string token, as the first argument of a `url` function, gives its contents and
its quotes. -/
inductive ReadsOff : UrlValue → Token → Prop
  | unquoted {t : Token} : t.kind = .url → ReadsOff (Parser.unquotedUrl t) t
  | quoted {a : Token} (span : Span) : a.kind = .string →
      ReadsOff { span, valueSpan := a.span,
                 quote := if a.text.head? == some '\'' then .single else .double,
                 value := (a.text.drop 1).dropLast } a

/-- **References read, in order, off some of the tokens of a list**: the tokens read are a
sublist, each gives the reference at its place. -/
inductive ReadFrom : List Token → List UrlValue → Prop
  | nil : ReadFrom [] []
  | skip (t : Token) {toks : List Token} {urls : List UrlValue} :
      ReadFrom toks urls → ReadFrom (t :: toks) urls
  | read {t : Token} {u : UrlValue} {toks : List Token} {urls : List UrlValue} :
      ReadsOff u t → ReadFrom toks urls → ReadFrom (t :: toks) (u :: urls)

namespace ReadFrom

theorem none : ∀ toks : List Token, ReadFrom toks []
  | [] => .nil
  | t :: toks => .skip t (none toks)

theorem append {p₁ p₂ : List Token} {u₁ u₂ : List UrlValue} (h₁ : ReadFrom p₁ u₁)
    (h₂ : ReadFrom p₂ u₂) : ReadFrom (p₁ ++ p₂) (u₁ ++ u₂) := by
  induction h₁ with
  | nil => exact h₂
  | skip t _ ih => exact .skip t ih
  | read hu _ ih => exact .read hu ih

theorem single {toks : List Token} {u : UrlValue} {t : Token} (hu : ReadsOff u t)
    (ht : t ∈ toks) : ReadFrom toks [u] := by
  obtain ⟨before, after, rfl⟩ := List.append_of_mem ht
  exact (none before).append (.read hu (none after))

theorem sublist {toks toks' : List Token} {urls : List UrlValue} (h : ReadFrom toks urls)
    (hsub : toks.Sublist toks') : ReadFrom toks' urls := by
  induction hsub generalizing urls with
  | slnil => exact h
  | cons t _ ih => exact .skip t (ih h)
  | cons_cons t _ ih =>
    cases h with
    | skip _ h => exact .skip t (ih h)
    | read hu h => exact .read hu (ih h)

/-- Each reference is read off one of the tokens. -/
theorem exists_token {toks : List Token} {urls : List UrlValue} (h : ReadFrom toks urls) :
    ∀ u ∈ urls, ∃ t ∈ toks, ReadsOff u t := by
  induction h with
  | nil => nofun
  | skip t _ ih =>
    intro u hu
    obtain ⟨t', ht', hr⟩ := ih u hu
    exact ⟨t', List.mem_cons_of_mem t ht', hr⟩
  | read hu _ ih =>
    rintro u (_ | ⟨_, hmem⟩)
    · exact ⟨_, List.mem_cons_self, hu⟩
    · obtain ⟨t', ht', hr⟩ := ih u hmem
      exact ⟨t', List.mem_cons_of_mem _ ht', hr⟩

/-- **References read off ordered tokens are ordered**: any two of them, in list order, are read
off two tokens in list order. -/
theorem pairwise {toks : List Token} {urls : List UrlValue} (h : ReadFrom toks urls)
    {R : Token → Token → Prop} (hord : toks.Pairwise R) :
    urls.Pairwise fun u u' => ∃ t t', ReadsOff u t ∧ ReadsOff u' t' ∧ R t t' := by
  induction h with
  | nil => exact .nil
  | skip t _ ih => exact ih (List.pairwise_cons.mp hord).2
  | read hu h ih =>
    obtain ⟨hhead, htail⟩ := List.pairwise_cons.mp hord
    refine List.Pairwise.cons (fun u' hu' => ?_) (ih htail)
    obtain ⟨t', ht', hr⟩ := h.exists_token u' hu'
    exact ⟨_, t', hu, hr, hhead t' ht'⟩

end ReadFrom

/-- **What a parser took**: the tokens `ts` are a stretch followed by the tokens left over,
`rest`, and the references `urls` are read, in order, off the stretch. -/
def Took (ts : List Token) (urls : List UrlValue) (rest : List Token) : Prop :=
  ∃ pre, ts = pre ++ rest ∧ ReadFrom pre urls

/-- **Values a parser took**: as `Took` for their references, and every value that is a single
token is a token of the stretch. -/
def TookValues (ts : List Token) (vs : List ComponentValue) (rest : List Token) : Prop :=
  ∃ pre, ts = pre ++ rest ∧ ReadFrom pre (valuesUrls vs) ∧ ∀ a, .token a ∈ vs → a ∈ pre

theorem valuesUrls_append (vs vs' : List ComponentValue) :
    valuesUrls (vs ++ vs') = valuesUrls vs ++ valuesUrls vs' := by
  induction vs with
  | nil => rfl
  | cons v vs ih => rw [List.cons_append, valuesUrls, valuesUrls, ih, List.append_assoc]

theorem itemsUrls_append (is is' : List BlockItem) :
    itemsUrls (is ++ is') = itemsUrls is ++ itemsUrls is' := by
  induction is with
  | nil => rfl
  | cons i is ih => rw [List.cons_append, itemsUrls, itemsUrls, ih, List.append_assoc]

theorem itemsUrls_rules (rule : Option Rule) :
    itemsUrls (rule.map BlockItem.rule).toList = rule.toList.flatMap Rule.urls := by
  cases rule <;> simp [itemsUrls, BlockItem.urls]

namespace Took

theorem refl (ts : List Token) : Took ts [] ts := ⟨[], rfl, .nil⟩

theorem trans {ts r r' : List Token} {u₁ u₂ : List UrlValue} (h₁ : Took ts u₁ r)
    (h₂ : Took r u₂ r') : Took ts (u₁ ++ u₂) r' := by
  obtain ⟨p₁, rfl, hp₁⟩ := h₁
  obtain ⟨p₂, rfl, hp₂⟩ := h₂
  exact ⟨p₁ ++ p₂, (List.append_assoc _ _ _).symm, hp₁.append hp₂⟩

/-- A token taken first, with nothing read off it. -/
theorem cons {ts r : List Token} {urls : List UrlValue} (t : Token) (h : Took ts urls r) :
    Took (t :: ts) urls r := by
  obtain ⟨pre, rfl, hpre⟩ := h
  exact ⟨t :: pre, rfl, .skip t hpre⟩

/-- What a parser took is read off the tokens it started on. -/
theorem readFrom {ts r : List Token} {urls : List UrlValue} (h : Took ts urls r) :
    ReadFrom ts urls := by
  obtain ⟨pre, rfl, hpre⟩ := h
  exact hpre.sublist (List.sublist_append_left pre r)

theorem of_eq {ts r : List Token} {u u' : List UrlValue} (h : Took ts u r) (hu : u = u') :
    Took ts u' r :=
  hu ▸ h

end Took

namespace TookValues

theorem took {ts r : List Token} {vs : List ComponentValue} (h : TookValues ts vs r) :
    Took ts (valuesUrls vs) r := by
  obtain ⟨pre, hts, hpre, -⟩ := h
  exact ⟨pre, hts, hpre⟩

theorem refl (ts : List Token) : TookValues ts [] ts := ⟨[], rfl, .nil, nofun⟩

/-- Taking values, with the references read off them left aside. -/
theorem forget {ts r : List Token} {vs : List ComponentValue} (h : TookValues ts vs r) :
    Took ts [] r := by
  obtain ⟨pre, hts, -, -⟩ := h
  exact ⟨pre, hts, .none pre⟩

theorem trans {ts r r' : List Token} {vs vs' : List ComponentValue} (h₁ : TookValues ts vs r)
    (h₂ : TookValues r vs' r') : TookValues ts (vs ++ vs') r' := by
  obtain ⟨p₁, rfl, hp₁, ht₁⟩ := h₁
  obtain ⟨p₂, rfl, hp₂, ht₂⟩ := h₂
  refine ⟨p₁ ++ p₂, (List.append_assoc _ _ _).symm, ?_, ?_⟩
  · rw [valuesUrls_append]
    exact hp₁.append hp₂
  · intro a ha
    rcases List.mem_append.mp ha with ha | ha
    · exact List.mem_append_left _ (ht₁ a ha)
    · exact List.mem_append_right _ (ht₂ a ha)

/-- A token skipped, giving no value. -/
theorem skip (t : Token) (ts : List Token) : TookValues (t :: ts) [] ts :=
  ⟨[t], rfl, .skip t .nil, nofun⟩

/-- A token taken as a value of its own. -/
theorem token (t : Token) (ts : List Token) : TookValues (t :: ts) [.token t] ts := by
  refine ⟨[t], rfl, .skip t .nil, ?_⟩
  intro a ha
  simp only [List.mem_singleton, ComponentValue.token.injEq] at ha
  exact ha ▸ List.mem_singleton_self a

/-- An unquoted reference token, read as a reference. -/
theorem url {t : Token} (ht : t.kind = .url) (ts : List Token) :
    TookValues (t :: ts) [.url (Parser.unquotedUrl t)] ts :=
  ⟨[t], rfl, .read (.unquoted ht) .nil, by simp⟩

/-- A block around values taken after its opening token. -/
theorem block {ts r : List Token} {vs : List ComponentValue} (t : Token) (opener : Char)
    (span : Span) (h : TookValues ts vs r) : TookValues (t :: ts) [.block opener vs span] r := by
  obtain ⟨pre, rfl, hpre, -⟩ := h
  refine ⟨t :: pre, rfl, ?_, by simp⟩
  simpa [valuesUrls, ComponentValue.urls] using ReadFrom.skip t hpre

/-- **A function around arguments taken after its name**, read as a quoted reference when it is
`url` of a string: the string is one of the arguments taken. -/
theorem function {ts r : List Token} {args : List ComponentValue} (t : Token)
    (name : List Char) (span : Span) (h : TookValues ts args r) :
    TookValues (t :: ts) [Parser.functionValue name args span] r := by
  obtain ⟨pre, rfl, hpre, htok⟩ := h
  refine ⟨t :: pre, rfl, ?_, ?_⟩
  · unfold Parser.functionValue
    split
    · split
      · rename_i a _
        split
        · rename_i hstr
          have ha : a ∈ t :: pre := List.mem_cons_of_mem t (htok a List.mem_cons_self)
          simpa [valuesUrls, ComponentValue.urls] using
            ReadFrom.single (.quoted span (by simpa using hstr)) ha
        · simpa [valuesUrls, ComponentValue.urls] using ReadFrom.skip t hpre
      · simpa [valuesUrls, ComponentValue.urls] using ReadFrom.skip t hpre
    · simpa [valuesUrls, ComponentValue.urls] using ReadFrom.skip t hpre
  · intro a ha
    unfold Parser.functionValue at ha
    split at ha
    · split at ha
      · split at ha <;> simp at ha
      · simp at ha
    · simp at ha

end TookValues

/-! ## (2) The parser takes tokens front to back -/

namespace Parser

variable (size : Nat)

/-- **Values take the tokens they are built from**: a component value takes its first token and,
for a function or a block, the values nested after it; nested values take the tokens up to
their closing bracket. The induction follows the parser's own mutual recursion. -/
theorem componentValue_took :
    (∀ t ts, TookValues (t :: ts) (componentValue size t ts).1.toList
      (componentValue size t ts).2.1.1) ∧
    (∀ close closeChar ts, TookValues ts (nested size close closeChar ts).1
      (nested size close closeChar ts).2.2.1.1) := by
  apply componentValue.mutual_induct size
    (fun t ts => TookValues (t :: ts) (componentValue size t ts).1.toList
      (componentValue size t ts).2.1.1)
    (fun close closeChar ts => TookValues ts (nested size close closeChar ts).1
      (nested size close closeChar ts).2.2.1.1)
  case _ => -- an unquoted reference
    intro t ts ht
    rw [componentValue_url ht]
    exact .url ht ts
  case _ => -- a function
    intro t ts ht args stop rest errs hn ih
    rw [hn] at ih
    rw [componentValue_function ht hn]
    exact .function t _ _ ih
  case _ | _ | _ => -- a block
    intro t ts ht close closeChar hcl vals stop rest errs hn ih
    rw [hn] at ih
    rw [componentValue_block (by simp only [ht, true_or, or_true]) hcl hn]
    exact .block t _ _ ih
  case _ | _ | _ | _ | _ | _ => -- a token recorded as an error
    intro t ts ht
    rw [componentValue]
    simp only [ht]
    exact .skip t ts
  case _ => -- any other token is a value of its own
    intro t ts h1 h2 h3 h4 h5 h6 h7 h8 h9 h10 h11
    rw [componentValue_other h1 h2 h3 h4 h5 h6 h7 h8 h9 h10 h11]
    exact .token t ts
  case _ => -- no tokens left
    intro close closeChar
    rw [nested]
    exact .refl []
  case _ => -- the closing bracket
    intro close closeChar t tail hc
    rw [nested_close hc]
    exact .skip t tail
  case _ => -- a different closing bracket, left in place
    intro close closeChar t tail hc hcl
    rw [nested_mismatched hc hcl]
    exact .refl _
  case _ => -- one value, then the rest
    intro close closeChar t tail hc hcl v r errs hcv vs stop r' errs' hn ih₁ ih₂
    rw [hcv] at ih₁
    rw [hn] at ih₂
    rw [nested_value hc hcl hcv hn]
    exact ih₁.trans ih₂

/-- **Values up to a stop token take the tokens before it.** -/
theorem values_took (stop : TokenKind → Bool) (ts : List Token) :
    TookValues ts (values size stop ts).1 (values size stop ts).2.1.1 := by
  induction ts using values.induct size stop with
  | case1 =>
    rw [values]
    exact .refl []
  | case2 t tail hstop =>
    rw [values_stop hstop]
    exact .refl _
  | case3 t tail hstop v r errs hcv vs r' errs' hvs ih =>
    rw [hvs] at ih
    have hv := (componentValue_took size).1 t tail
    rw [hcv] at hv
    rw [values_value hstop hcv hvs]
    exact hv.trans ih

theorem values_took_of_eq {stop : TokenKind → Bool} {ts : List Token}
    {vals : List ComponentValue} {r : Rest ts} {errs : List ParseError}
    (hv : values size stop ts = (vals, r, errs)) : TookValues ts vals r.1 := by
  have h := values_took size stop ts
  rwa [hv] at h

/-- **Dropping `! important`** drops no reference: the two tokens it removes are no references. -/
theorem valuesUrls_stripImportant (vals : List ComponentValue) :
    valuesUrls (stripImportant vals).1 = valuesUrls vals := by
  unfold stripImportant
  split
  · rename_i i b before h
    split
    · have hvals : vals = before.reverse ++ [.token b, .token i] := by
        rw [← List.reverse_reverse vals, h]
        simp
      rw [hvals, valuesUrls_append]
      simp [valuesUrls, ComponentValue.urls]
    · rfl
  · rfl

/-- **A declaration takes its name, its colon and its value.** -/
theorem declaration_took (t : Token) (ts : List Token) :
    Took (t :: ts) (itemsUrls ((declaration size t ts).1.map BlockItem.declaration).toList)
      (declaration size t ts).2.1.1 := by
  cases ts with
  | nil => exact (Took.refl []).cons t
  | cons c rest =>
    simp only [declaration]
    split
    · have hv := values_took size declarationStop rest
      simp only [Option.map_some, Option.toList_some, itemsUrls, BlockItem.urls,
        valuesUrls_stripImportant, List.append_nil]
      exact ((hv.took).cons c).cons t
    · exact ((values_took size declarationStop (c :: rest)).forget).cons t

/-- **Rules take the tokens they are built from**: an at-rule its keyword, prelude and block or
`;`; a block its `{` and items up to `}`; block items one after another; a qualified rule its
prelude and block. The induction follows the parser's mutual recursion over rules. -/
theorem atRule_took :
    (∀ t ts, Took (t :: ts) (atRule size t ts).1.urls (atRule size t ts).2.1.1) ∧
    (∀ t ts, Took (t :: ts) (block size t ts).1.urls (block size t ts).2.1.1) ∧
    (∀ ts, Took ts (itemsUrls (blockItems size ts).1) (blockItems size ts).2.2.1.1) ∧
    (∀ ts, Took ts ((qualifiedRule size ts).1.toList.flatMap Rule.urls)
      (qualifiedRule size ts).2.1.1) := by
  apply atRule.mutual_induct size
    (fun t ts => Took (t :: ts) (atRule size t ts).1.urls (atRule size t ts).2.1.1)
    (fun t ts => Took (t :: ts) (block size t ts).1.urls (block size t ts).2.1.1)
    (fun ts => Took ts (itemsUrls (blockItems size ts).1) (blockItems size ts).2.2.1.1)
    (fun ts => Took ts ((qualifiedRule size ts).1.toList.flatMap Rule.urls)
      (qualifiedRule size ts).2.1.1)
  case _ => -- an at-rule ending with `;`
    intro t ts vals r errs hv s r2 hr hs
    have hp := values_took_of_eq size hv
    rw [hr] at hp
    rw [atRule_semicolon hv hr hs]
    exact (hp.took.trans ((Took.refl r2).cons s)).cons t
  case _ => -- an at-rule with a block
    intro t ts vals r errs hv s r2 hr hs hb b r3 e2 hblk ih
    rw [hblk] at ih
    have hp := values_took_of_eq size hv
    rw [hr] at hp
    rw [atRule_block hv hr hs hb hblk]
    exact (hp.took.trans ih).cons t
  case _ => -- an at-rule ended by another token, left in place
    intro t ts vals r errs hv s r2 hr hs hb
    have hp := values_took_of_eq size hv
    rw [hr] at hp
    rw [atRule_left hv hr hs hb]
    exact (hp.took.of_eq (List.append_nil _).symm).cons t
  case _ => -- an at-rule at the end of the text
    intro t ts vals r errs hv hr
    have hp := values_took_of_eq size hv
    rw [hr] at hp
    rw [atRule_end hv hr]
    exact (hp.took.of_eq (List.append_nil _).symm).cons t
  case _ => -- a block
    intro t ts items stop r errs hbi ih
    rw [hbi] at ih
    rw [block_eq hbi]
    exact ih.cons t
  case _ => -- no items left
    rw [blockItems]
    exact Took.refl []
  case _ => -- the closing brace
    intro t tail hk
    rw [blockItems_rbrace hk]
    exact (Took.refl tail).cons t
  case _ => -- a stray semicolon
    intro t tail hk items stop r errs hbi ih
    rw [hbi] at ih
    rw [blockItems_semicolon hk hbi]
    exact ih.cons t
  case _ => -- a nested at-rule, then the other items
    intro t tail hk rule r e1 hat items stop r' e2 hbi ih₁ ih₃
    rw [hat] at ih₁
    rw [hbi] at ih₃
    rw [blockItems_atRule hk hat hbi]
    exact ih₁.trans ih₃
  case _ => -- a declaration, then the other items
    intro t tail d r e1 hd items stop r' e2 hbi h₁ h₂ h₃ hdecl ih₃
    rw [hbi] at ih₃
    have ih₁ := declaration_took size t tail
    rw [hd] at ih₁
    rw [blockItems_declaration h₁ h₂ h₃ hdecl hd hbi]
    dsimp only
    rw [itemsUrls_append]
    exact ih₁.trans ih₃
  case _ => -- a nested qualified rule, then the other items
    intro t tail rule r e1 hq hlt items stop r' e2 hbi h₁ h₂ h₃ hdecl ih₄ ih₃
    rw [hq] at ih₄
    rw [hbi] at ih₃
    rw [blockItems_qualified h₁ h₂ h₃ hdecl hq hlt hbi]
    dsimp only
    rw [itemsUrls_append, itemsUrls_rules]
    exact ih₄.trans ih₃
  case _ => -- a nested qualified rule that took nothing
    intro t tail rule r e1 hq hlt h₁ h₂ h₃ hdecl ih₄
    rw [hq] at ih₄
    rw [blockItems_qualified_stuck h₁ h₂ h₃ hdecl hq hlt]
    dsimp only
    rw [itemsUrls_rules]
    exact ih₄
  case _ => -- a qualified rule with its block
    intro ts vals r errs hv s r2 hr hb b r3 e2 hblk ih
    rw [hblk] at ih
    have hp := values_took_of_eq size hv
    rw [hr] at hp
    rw [qualifiedRule_block hv hr hb hblk]
    simp only [Option.toList_some, List.flatMap_cons, List.flatMap_nil, List.append_nil,
      Rule.urls]
    exact hp.took.trans ih
  case _ => -- a prelude ended by a semicolon, which is skipped
    intro ts vals r errs hv s r2 hr hb hs
    have hp := values_took_of_eq size hv
    rw [hr] at hp
    rw [qualifiedRule_semicolon hv hr hb hs]
    exact hp.forget.trans ((Took.refl r2).cons s)
  case _ => -- a prelude ended by another token, left in place
    intro ts vals r errs hv s r2 hr hb hs
    have hp := values_took_of_eq size hv
    rw [hr] at hp
    rw [qualifiedRule_left hv hr hb hs]
    exact hp.forget
  case _ => -- a prelude at the end of the text
    intro ts vals r errs hv hr
    have hp := values_took_of_eq size hv
    rw [hr] at hp
    rw [qualifiedRule_end hv hr]
    exact hp.forget

/-- **The top-level rules read their references off the tokens, in order.** -/
theorem rules_readFrom (ts : List Token) : ReadFrom ts ((rules size ts).1.flatMap Rule.urls) := by
  induction ts using rules.induct size with
  | case1 =>
    rw [rules]
    exact .nil
  | case2 t tail hk rule r e1 hat rs e2 hrs ih =>
    have h := (atRule_took size).1 t tail
    rw [hat] at h
    rw [hrs] at ih
    rw [rules_atRule hk hat hrs]
    obtain ⟨pre, hts, hpre⟩ := h
    rw [hts, List.flatMap_cons]
    exact hpre.append ih
  | case3 t tail hk rs e2 hrs ih =>
    rw [hrs] at ih
    rw [rules_stray (.inl hk) hrs]
    exact .skip t ih
  | case4 t tail hk rs e2 hrs ih =>
    rw [hrs] at ih
    rw [rules_stray (.inr hk) hrs]
    exact .skip t ih
  | case5 t tail rule r e1 hq hlt rs e2 hrs h₁ h₂ h₃ ih =>
    have h := (atRule_took size).2.2.2 (t :: tail)
    rw [hq] at h
    rw [hrs] at ih
    rw [rules_qualified h₁ h₂ h₃ hq hlt hrs]
    obtain ⟨pre, hts, hpre⟩ := h
    rw [hts, List.flatMap_append]
    exact hpre.append ih
  | case6 t tail rule r e1 hq hlt h₁ h₂ h₃ =>
    have h := (atRule_took size).2.2.2 (t :: tail)
    rw [hq] at h
    rw [rules_qualified_stuck h₁ h₂ h₃ hq hlt]
    exact h.readFrom

end Parser

/-! ## (3) Where the references sit -/

/-- A run of CSS whitespace has one byte per character. -/
theorem utf8Length_of_isCssSpace {cs : List Char} (h : ∀ c ∈ cs, isCssSpace c = true) :
    utf8Length cs = cs.length := by
  induction cs with
  | nil => rfl
  | cons c cs ih =>
    rw [utf8Length_cons, utf8Size_of_isCssSpace (h c List.mem_cons_self),
      ih (fun d hd => h d (List.mem_cons_of_mem c hd)), List.length_cons, Nat.add_comm]

/-- **Trimming cuts a list in three**: the run dropped at the front, what is kept, and the run
dropped at the back. -/
theorem trimBy_split (p : Char → Bool) (cs : List Char) :
    ∃ back, cs = cs.takeWhile p ++ trimBy p cs ++ back ∧ ∀ c ∈ back, p c = true := by
  refine ⟨((cs.dropWhile p).reverse.takeWhile p).reverse, ?_, fun c hc =>
    List.all_eq_true.mp List.all_takeWhile c (List.mem_reverse.mp hc)⟩
  have hback : cs.dropWhile p = trimBy p cs ++ ((cs.dropWhile p).reverse.takeWhile p).reverse := by
    conv => lhs; rw [← List.reverse_reverse (cs.dropWhile p),
      ← List.takeWhile_append_dropWhile (p := p) (l := (cs.dropWhile p).reverse)]
    rw [List.reverse_append, trimBy, trimEndBy, trimStartBy]
  rw [List.append_assoc, ← hback, List.takeWhile_append_dropWhile]

namespace ReadsOff

variable {text : List Char} {u : UrlValue} {t : Token}

/-- **An unquoted reference sits at its value span**: past `url(` and the leading whitespace, for
as many bytes as its trimmed value. -/
theorem unquoted_located (ht : TokenOk text t) (hk : t.kind = .url) :
    Located text (Parser.unquotedUrl t).valueSpan (Parser.unquotedUrl t).value ∧
      t.span.start ≤ (Parser.unquotedUrl t).valueSpan.start ∧
      (Parser.unquotedUrl t).valueSpan.stop ≤ t.span.stop := by
  obtain ⟨pre, post, htext, hstart, hstop⟩ := ht.located
  obtain ⟨a, b, c, body, hshape, ha, hb, hc⟩ := ht.url_shape hk
  obtain ⟨back, hbody, -⟩ := trimBy_split isCssSpace body
  have hinner : (t.text.drop 4).dropLast = body := by
    rw [hshape]
    simp
  have hfront : utf8Length (body.takeWhile isCssSpace) = (body.takeWhile isCssSpace).length :=
    utf8Length_of_isCssSpace (List.all_eq_true.mp List.all_takeWhile)
  have hparen : '('.utf8Size = 1 ∧ ')'.utf8Size = 1 := ⟨rfl, rfl⟩
  simp only [Parser.unquotedUrl, hinner]
  refine ⟨⟨pre ++ [a, b, c, '('] ++ body.takeWhile isCssSpace, back ++ [')'] ++ post, ?_, ?_, ?_⟩,
    ?_, ?_⟩
  · rw [htext, hshape]
    conv => lhs; rw [hbody]
    simp
  · simp [hstart, ha, hb, hc, hfront, hparen]
    omega
  · simp [hstart, ha, hb, hc, hfront, hparen]
    omega
  · omega
  · rw [hstop, hstart, hshape]
    conv => rhs; rw [hbody]
    simp [ha, hb, hc, hfront, hparen]
    omega

/-- **A quoted reference sits at the span of its string**, quotes included. -/
theorem quoted_located {a : Token} (ht : TokenOk text a) (hk : a.kind = .string) :
    Located text a.span ((if a.text.head? == some '\'' then Quote.single else .double).mark ++
      (a.text.drop 1).dropLast ++ (if a.text.head? == some '\'' then Quote.single else .double).mark) := by
  obtain ⟨q, body, hshape, hq⟩ := ht.string_shape hk
  have hmark : (if a.text.head? == some '\'' then Quote.single else .double).mark = [q] := by
    rw [hshape]
    rcases hq with rfl | rfl <;> rfl
  rw [hmark]
  have hpiece : [q] ++ (a.text.drop 1).dropLast ++ [q] = a.text := by
    rw [hshape]
    simp
  rw [hpiece]
  exact ht.located

/-- **A reference read off a located token sits, with its quotes, at its value span**, which lies
within the token's span. -/
theorem located (h : ReadsOff u t) (ht : TokenOk text t) :
    Located text u.valueSpan (u.quote.mark ++ u.value ++ u.quote.mark) ∧
      t.span.start ≤ u.valueSpan.start ∧ u.valueSpan.stop ≤ t.span.stop := by
  cases h with
  | unquoted hk =>
    have h := unquoted_located ht hk
    simpa [Parser.unquotedUrl, Quote.mark] using h
  | quoted span hk =>
    exact ⟨quoted_located ht hk, Nat.le_refl _, Nat.le_refl _⟩

end ReadsOff

/-- **The references of a stylesheet are read, in order, off its tokens.** -/
theorem urls_readFrom (s : String) : ReadFrom (tokenize s) (parse s).stylesheet.urls :=
  (Parser.rules_readFrom s.utf8ByteSize ((tokenize s).filter Token.isSignificant)).sublist
    List.filter_sublist

/-- **Each reference of a stylesheet sits, with its quotes, at its value span.** -/
theorem urls_located (s : String) :
    ∀ u ∈ (parse s).stylesheet.urls,
      Located s.toList u.valueSpan (u.quote.mark ++ u.value ++ u.quote.mark) := by
  intro u hu
  obtain ⟨t, ht, hread⟩ := (urls_readFrom s).exists_token u hu
  exact (hread.located (tokenize_ok s t ht)).1

/-- **The value spans of a stylesheet's references come in order**, each ending before the
next begins. -/
theorem urls_ordered (s : String) :
    (parse s).stylesheet.urls.Pairwise fun u u' => u.valueSpan.stop ≤ u'.valueSpan.start := by
  -- pair the order of the tokens with their being located, so that both carry to the
  -- references read off them
  have hord : (tokenize s).Pairwise fun a b =>
      TokenOk s.toList a ∧ TokenOk s.toList b ∧ a.span.stop ≤ b.span.start :=
    (tokenize_ordered s).imp_of_mem fun ha hb h => ⟨tokenize_ok s _ ha, tokenize_ok s _ hb, h⟩
  refine ((urls_readFrom s).pairwise hord).imp ?_
  rintro u u' ⟨t, t', hu, hu', hok, hok', hlt⟩
  have h := (hu.located hok).2.2
  have h' := (hu'.located hok').2.1
  omega

end StyleRebase.Css

namespace StyleRebase.Rebase

/-! ## (4) The occurrences of a text -/

/-- **The occurrence of a reference**, when its `url(` has a position in the text. -/
def occurrenceOf (index : LineIndex) (u : Css.UrlValue) : Option Occurrence :=
  (index.lineColUtf16 u.span.start).map fun position =>
    { raw := u.value, quote := u.quote, span := u.valueSpan, position }

/-- **The occurrences of a parsed text are its references in document order**: they already come
by increasing start, so the sort keeps them as they are. -/
theorem locate_eq_filterMap (s : String) (index : LineIndex) :
    locate (Css.parse s).stylesheet index =
      (Css.parse s).stylesheet.urls.filterMap (occurrenceOf index) := by
  apply List.mergeSort_of_pairwise
  have hle : (Css.parse s).stylesheet.urls.Pairwise fun u u' =>
      u.valueSpan.start ≤ u'.valueSpan.start :=
    (Css.urls_ordered s).imp_of_mem fun hu _ h =>
      Nat.le_trans (Css.urls_located s _ hu).start_le_stop h
  refine hle.filterMap _ ?_
  intro u u' h o ho o' ho'
  obtain ⟨_, _, rfl⟩ := Option.map_eq_some_iff.mp ho
  obtain ⟨_, _, rfl⟩ := Option.map_eq_some_iff.mp ho'
  exact decide_eq_true h

/-- **Each occurrence of a text sits, with its quotes, at its span.** -/
theorem locate_located (s : String) (index : LineIndex) :
    ∀ o ∈ locate (Css.parse s).stylesheet index,
      Located s.toList o.span (o.quote.mark ++ o.raw ++ o.quote.mark) := by
  rw [locate_eq_filterMap]
  intro o ho
  obtain ⟨u, hu, ho⟩ := List.mem_filterMap.mp ho
  obtain ⟨_, _, rfl⟩ := Option.map_eq_some_iff.mp ho
  exact Css.urls_located s u hu

/-- **The occurrences of a text come in order**, each span ending before the next begins. -/
theorem locate_ordered (s : String) (index : LineIndex) :
    (locate (Css.parse s).stylesheet index).Pairwise fun o o' => o.span.stop ≤ o'.span.start := by
  rw [locate_eq_filterMap]
  refine (Css.urls_ordered s).filterMap _ ?_
  intro u u' h o ho o' ho'
  obtain ⟨_, _, rfl⟩ := Option.map_eq_some_iff.mp ho
  obtain ⟨_, _, rfl⟩ := Option.map_eq_some_iff.mp ho'
  exact h

end StyleRebase.Rebase
