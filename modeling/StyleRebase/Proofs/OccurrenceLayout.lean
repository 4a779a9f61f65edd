import StyleRebase.Proofs.SafeCuts
import StyleRebase.Proofs.ReadBack
import StyleRebase.Proofs.EmbeddedMaps

/-! # How the occurrences of a text lie in it

Whatever the text, with or without syntax errors, the occurrences that locating finds lie in it
one after another: their spans start in strictly increasing order and each ends before the next
begins; each span reads the occurrence's value in its quotes; and the position of an occurrence
is the line and UTF-16 column of the `url(` that opens the reference around it.

The last fact rests on where the parser puts a reference: it builds one only from a reference
token or from a function token named `url` in some ASCII case, and the reference starts where
that token does.

* **`OpensWith`**, **`OpenIn`** — the token a reference opens with; references that open with
  tokens of a list.
* **`Parser.componentValue_opened`**, **`Parser.atRule_opened`**, **`Parser.rules_opened`** —
  what the parser builds opens with tokens it read.
* **`UrlOpensAt`** — the text reads `url(`, in some ASCII case, at an offset.
* **`Rebase.locate_occurrences_layout`** — the layout of the occurrences of every text. -/

namespace StyleRebase.Css

/-! ## (1) The token a reference opens with -/

/-- **The token a reference opens with**: a reference token, or a function token named `url` in
some ASCII case; the reference starts where the token does. -/
def OpensWith (u : UrlValue) (f : Token) : Prop :=
  u.span.start = f.span.start ∧
    (f.kind = .url ∨ f.kind = .function ∧ eqIgnoreAsciiCase f.text.dropLast "url".toList = true)

/-- **References that open with tokens of a list.** -/
def OpenIn (ts : List Token) (urls : List UrlValue) : Prop := ∀ u ∈ urls, ∃ f ∈ ts, OpensWith u f

namespace OpenIn

theorem nil (ts : List Token) : OpenIn ts [] := nofun

theorem append {ts : List Token} {u₁ u₂ : List UrlValue} (h₁ : OpenIn ts u₁) (h₂ : OpenIn ts u₂) :
    OpenIn ts (u₁ ++ u₂) := by
  intro u hu
  rcases List.mem_append.mp hu with hu | hu
  · exact h₁ u hu
  · exact h₂ u hu

theorem mono {ts ts' : List Token} {urls : List UrlValue} (h : OpenIn ts urls)
    (hsub : ∀ t ∈ ts, t ∈ ts') : OpenIn ts' urls := by
  intro u hu
  obtain ⟨f, hf, hopen⟩ := h u hu
  exact ⟨f, hsub f hf, hopen⟩

/-- References opening with tokens left over open with tokens of the whole list. -/
theorem of_rest {ts rest : List Token} {urls : List UrlValue} (h : OpenIn rest urls)
    (hrest : ∃ pre, ts = pre ++ rest) : OpenIn ts urls := by
  obtain ⟨pre, rfl⟩ := hrest
  exact h.mono fun t ht => List.mem_append_right pre ht

theorem cons {ts : List Token} {urls : List UrlValue} (t : Token) (h : OpenIn ts urls) :
    OpenIn (t :: ts) urls :=
  h.mono fun _ ht => List.mem_cons_of_mem t ht

end OpenIn

/-- The tokens a parser leaves are a suffix of those it started on. -/
theorem Took.rest {ts r : List Token} {urls : List UrlValue} (h : Took ts urls r) :
    ∃ pre, ts = pre ++ r := by
  obtain ⟨pre, hpre, -⟩ := h
  exact ⟨pre, hpre⟩

namespace Parser

/-- **A function value opens with its name token**, when it is a quoted reference; otherwise its
references are those of its arguments. -/
theorem functionValue_opened {t : Token} {ts : List Token} {args : List ComponentValue}
    {stop : Nat} (ht : t.kind = .function) (h : OpenIn ts (valuesUrls args)) :
    OpenIn (t :: ts) (valuesUrls [functionValue t.text.dropLast args ⟨t.span.start, stop⟩]) := by
  unfold functionValue
  split
  · rename_i hname
    split
    · split
      · -- `url` of a string: the reference starts at the function token
        intro u hu
        simp only [valuesUrls, ComponentValue.urls, List.append_nil, List.mem_singleton] at hu
        subst hu
        exact ⟨t, List.mem_cons_self, rfl, .inr ⟨ht, hname⟩⟩
      · simpa [valuesUrls, ComponentValue.urls] using h.cons t
    · simpa [valuesUrls, ComponentValue.urls] using h.cons t
  · simpa [valuesUrls, ComponentValue.urls] using h.cons t

variable (size : Nat)

/-- **Values open their references with tokens they read.** The induction follows the parser's
mutual recursion over a value and the values nested up to a closing bracket; the tokens a value
leaves are a suffix of those it started on. -/
theorem componentValue_opened :
    (∀ t ts, OpenIn (t :: ts) (valuesUrls (componentValue size t ts).1.toList)) ∧
    (∀ close closeChar ts, OpenIn ts (valuesUrls (nested size close closeChar ts).1)) := by
  apply componentValue.mutual_induct size
    (fun t ts => OpenIn (t :: ts) (valuesUrls (componentValue size t ts).1.toList))
    (fun close closeChar ts => OpenIn ts (valuesUrls (nested size close closeChar ts).1))
  case _ => -- an unquoted reference opens with its own token
    intro t ts ht
    rw [componentValue_url ht]
    intro u hu
    simp only [Option.toList_some, valuesUrls, ComponentValue.urls, List.append_nil,
      List.mem_singleton] at hu
    subst hu
    exact ⟨t, List.mem_cons_self, rfl, .inl ht⟩
  case _ => -- a function
    intro t ts ht args stop rest errs hn ih
    rw [hn] at ih
    rw [componentValue_function ht hn]
    exact functionValue_opened ht ih
  case _ | _ | _ => -- a block
    intro t ts ht close closeChar hcl vals stop rest errs hn ih
    rw [hn] at ih
    rw [componentValue_block (by simp only [ht, true_or, or_true]) hcl hn]
    simpa [valuesUrls, ComponentValue.urls] using ih.cons t
  case _ | _ | _ | _ | _ | _ => -- a token recorded as an error
    intro t ts ht
    rw [componentValue]
    simp only [ht]
    exact OpenIn.nil _
  case _ => -- any other token is a value of its own
    intro t ts h1 h2 h3 h4 h5 h6 h7 h8 h9 h10 h11
    rw [componentValue_other h1 h2 h3 h4 h5 h6 h7 h8 h9 h10 h11]
    simpa [valuesUrls, ComponentValue.urls] using OpenIn.nil (t :: ts)
  case _ => -- no tokens left
    intro close closeChar
    rw [nested]
    exact OpenIn.nil _
  case _ => -- the closing bracket
    intro close closeChar t tail hc
    rw [nested_close hc]
    exact OpenIn.nil _
  case _ => -- a different closing bracket, left in place
    intro close closeChar t tail hc hcl
    rw [nested_mismatched hc hcl]
    exact OpenIn.nil _
  case _ => -- one value, then the rest from the tokens it left
    intro close closeChar t tail hc hcl v r errs hcv vs stop r' errs' hn ih₁ ih₂
    rw [hcv] at ih₁
    rw [hn] at ih₂
    have htook := (componentValue_took size).1 t tail
    rw [hcv] at htook
    obtain ⟨pre, hpre, -, -⟩ := htook
    rw [nested_value hc hcl hcv hn]
    dsimp only
    rw [valuesUrls_append]
    exact ih₁.append (ih₂.of_rest ⟨pre, hpre⟩)

/-- **Values up to a stop token open their references with tokens they read.** -/
theorem values_opened (stop : TokenKind → Bool) (ts : List Token) :
    OpenIn ts (valuesUrls (values size stop ts).1) := by
  induction ts using values.induct size stop with
  | case1 =>
    rw [values]
    exact OpenIn.nil _
  | case2 t tail hstop =>
    rw [values_stop hstop]
    exact OpenIn.nil _
  | case3 t tail hstop v r errs hcv vs r' errs' hvs ih =>
    rw [hvs] at ih
    have hv := (componentValue_opened size).1 t tail
    rw [hcv] at hv
    have htook := (componentValue_took size).1 t tail
    rw [hcv] at htook
    obtain ⟨pre, hpre, -, -⟩ := htook
    rw [values_value hstop hcv hvs]
    dsimp only
    rw [valuesUrls_append]
    exact hv.append (ih.of_rest ⟨pre, hpre⟩)

theorem values_opened_of_eq {stop : TokenKind → Bool} {ts : List Token}
    {vals : List ComponentValue} {r : Rest ts} {errs : List ParseError}
    (hv : values size stop ts = (vals, r, errs)) : OpenIn ts (valuesUrls vals) := by
  have h := values_opened size stop ts
  rwa [hv] at h

/-- The tokens values leave are a suffix of those they started on. -/
theorem values_rest {stop : TokenKind → Bool} {ts : List Token}
    {vals : List ComponentValue} {r : Rest ts} {errs : List ParseError}
    (hv : values size stop ts = (vals, r, errs)) : ∃ pre, ts = pre ++ r.1 := by
  obtain ⟨pre, hpre, -, -⟩ := values_took_of_eq size hv
  exact ⟨pre, hpre⟩

/-- **A declaration opens its references with tokens of its value.** -/
theorem declaration_opened (t : Token) (ts : List Token) :
    OpenIn (t :: ts) (itemsUrls ((declaration size t ts).1.map BlockItem.declaration).toList) := by
  cases ts with
  | nil => exact OpenIn.nil _
  | cons c rest =>
    simp only [declaration]
    split
    · simp only [Option.map_some, Option.toList_some, itemsUrls, BlockItem.urls,
        valuesUrls_stripImportant, List.append_nil]
      exact ((values_opened size declarationStop rest).cons c).cons t
    · exact OpenIn.nil _

/-- **Rules open their references with tokens they read.** The induction follows the parser's
mutual recursion over at-rules, blocks, block items and qualified rules, with the suffix facts of
`atRule_took` to carry what a later call reads back to the tokens of the first. -/
theorem atRule_opened :
    (∀ t ts, OpenIn (t :: ts) (atRule size t ts).1.urls) ∧
    (∀ t ts, OpenIn (t :: ts) (block size t ts).1.urls) ∧
    (∀ ts, OpenIn ts (itemsUrls (blockItems size ts).1)) ∧
    (∀ ts, OpenIn ts ((qualifiedRule size ts).1.toList.flatMap Rule.urls)) := by
  apply atRule.mutual_induct size
    (fun t ts => OpenIn (t :: ts) (atRule size t ts).1.urls)
    (fun t ts => OpenIn (t :: ts) (block size t ts).1.urls)
    (fun ts => OpenIn ts (itemsUrls (blockItems size ts).1))
    (fun ts => OpenIn ts ((qualifiedRule size ts).1.toList.flatMap Rule.urls))
  case _ => -- an at-rule ending with `;`
    intro t ts vals r errs hv s r2 hr hs
    rw [atRule_semicolon hv hr hs]
    simp only [Rule.urls, optionBlockUrls, List.append_nil]
    exact (values_opened_of_eq size hv).cons t
  case _ => -- an at-rule with a block
    intro t ts vals r errs hv s r2 hr hs hb b r3 e2 hblk ih
    rw [hblk] at ih
    have hrest := values_rest size hv
    rw [hr] at hrest
    rw [atRule_block hv hr hs hb hblk]
    simp only [Rule.urls, optionBlockUrls]
    exact ((values_opened_of_eq size hv).append (ih.of_rest hrest)).cons t
  case _ => -- an at-rule ended by another token, left in place
    intro t ts vals r errs hv s r2 hr hs hb
    rw [atRule_left hv hr hs hb]
    simp only [Rule.urls, optionBlockUrls, List.append_nil]
    exact (values_opened_of_eq size hv).cons t
  case _ => -- an at-rule at the end of the text
    intro t ts vals r errs hv hr
    rw [atRule_end hv hr]
    simp only [Rule.urls, optionBlockUrls, List.append_nil]
    exact (values_opened_of_eq size hv).cons t
  case _ => -- a block
    intro t ts items stop r errs hbi ih
    rw [hbi] at ih
    rw [block_eq hbi]
    exact ih.cons t
  case _ => -- no items left
    rw [blockItems]
    exact OpenIn.nil _
  case _ => -- the closing brace
    intro t tail hk
    rw [blockItems_rbrace hk]
    exact OpenIn.nil _
  case _ => -- a stray semicolon
    intro t tail hk items stop r errs hbi ih
    rw [hbi] at ih
    rw [blockItems_semicolon hk hbi]
    exact ih.cons t
  case _ => -- a nested at-rule, then the other items
    intro t tail hk rule r e1 hat items stop r' e2 hbi ih₁ ih₃
    rw [hat] at ih₁
    rw [hbi] at ih₃
    have htook := (atRule_took size).1 t tail
    rw [hat] at htook
    rw [blockItems_atRule hk hat hbi]
    simp only [itemsUrls, BlockItem.urls]
    exact ih₁.append (ih₃.of_rest (Took.rest htook))
  case _ => -- a declaration, then the other items
    intro t tail d r e1 hd items stop r' e2 hbi h₁ h₂ h₃ hdecl ih₃
    rw [hbi] at ih₃
    have ih₁ := declaration_opened size t tail
    rw [hd] at ih₁
    have htook := declaration_took size t tail
    rw [hd] at htook
    rw [blockItems_declaration h₁ h₂ h₃ hdecl hd hbi]
    dsimp only
    rw [itemsUrls_append]
    exact ih₁.append (ih₃.of_rest (Took.rest htook))
  case _ => -- a nested qualified rule, then the other items
    intro t tail rule r e1 hq hlt items stop r' e2 hbi h₁ h₂ h₃ hdecl ih₄ ih₃
    rw [hq] at ih₄
    rw [hbi] at ih₃
    have htook := (atRule_took size).2.2.2 (t :: tail)
    rw [hq] at htook
    rw [blockItems_qualified h₁ h₂ h₃ hdecl hq hlt hbi]
    dsimp only
    rw [itemsUrls_append, itemsUrls_rules]
    exact ih₄.append (ih₃.of_rest (Took.rest htook))
  case _ => -- a nested qualified rule that took nothing
    intro t tail rule r e1 hq hlt h₁ h₂ h₃ hdecl ih₄
    rw [hq] at ih₄
    rw [blockItems_qualified_stuck h₁ h₂ h₃ hdecl hq hlt]
    dsimp only
    rw [itemsUrls_rules]
    exact ih₄
  case _ => -- a qualified rule with its block
    intro ts vals r errs hv s r2 hr hb b r3 e2 hblk ih
    rw [hblk] at ih
    have hrest := values_rest size hv
    rw [hr] at hrest
    rw [qualifiedRule_block hv hr hb hblk]
    simp only [Option.toList_some, List.flatMap_cons, List.flatMap_nil, List.append_nil,
      Rule.urls]
    exact (values_opened_of_eq size hv).append (ih.of_rest hrest)
  case _ => -- a prelude ended by a semicolon: no rule
    intro ts vals r errs hv s r2 hr hb hs
    rw [qualifiedRule_semicolon hv hr hb hs]
    exact OpenIn.nil _
  case _ => -- a prelude ended by another token: no rule
    intro ts vals r errs hv s r2 hr hb hs
    rw [qualifiedRule_left hv hr hb hs]
    exact OpenIn.nil _
  case _ => -- a prelude at the end of the text: no rule
    intro ts vals r errs hv hr
    rw [qualifiedRule_end hv hr]
    exact OpenIn.nil _

/-- **The top-level rules open their references with tokens they read.** -/
theorem rules_opened (ts : List Token) : OpenIn ts ((rules size ts).1.flatMap Rule.urls) := by
  induction ts using rules.induct size with
  | case1 =>
    rw [rules]
    exact OpenIn.nil _
  | case2 t tail hk rule r e1 hat rs e2 hrs ih =>
    have h := (atRule_opened size).1 t tail
    rw [hat] at h
    have htook := (atRule_took size).1 t tail
    rw [hat] at htook
    rw [hrs] at ih
    rw [rules_atRule hk hat hrs, List.flatMap_cons]
    exact h.append (ih.of_rest (Took.rest htook))
  | case3 t tail hk rs e2 hrs ih =>
    rw [hrs] at ih
    rw [rules_stray (.inl hk) hrs]
    exact ih.cons t
  | case4 t tail hk rs e2 hrs ih =>
    rw [hrs] at ih
    rw [rules_stray (.inr hk) hrs]
    exact ih.cons t
  | case5 t tail rule r e1 hq hlt rs e2 hrs h₁ h₂ h₃ ih =>
    have h := (atRule_opened size).2.2.2 (t :: tail)
    rw [hq] at h
    have htook := (atRule_took size).2.2.2 (t :: tail)
    rw [hq] at htook
    rw [hrs] at ih
    rw [rules_qualified h₁ h₂ h₃ hq hlt hrs, List.flatMap_append]
    exact h.append (ih.of_rest (Took.rest htook))
  | case6 t tail rule r e1 hq hlt h₁ h₂ h₃ =>
    have h := (atRule_opened size).2.2.2 (t :: tail)
    rw [hq] at h
    rw [rules_qualified_stuck h₁ h₂ h₃ hq hlt]
    exact h

end Parser

/-- **Every reference of a parse opens with a token of the text.** -/
theorem urls_opened (s : String) : OpenIn (tokenize s) (parse s).stylesheet.urls :=
  (Parser.rules_opened s.utf8ByteSize ((tokenize s).filter Token.isSignificant)).mono
    fun _ ht => List.mem_of_mem_filter ht

/-! ## (2) `url(` in the text -/

/-- **The text reads `url(` at an offset**, in some ASCII case. -/
def UrlOpensAt (text : List Char) (o : Nat) : Prop :=
  ∃ pre a b c rest, text = pre ++ a :: b :: c :: '(' :: rest ∧ utf8Length pre = o ∧
    a.toLower = 'u' ∧ b.toLower = 'r' ∧ c.toLower = 'l'

/-- A token that is not the end of file is one of the well-formed tokens before it. -/
theorem mem_dropLast_tokenize {s : String} {t : Token} (ht : t ∈ tokenize s)
    (hk : t.kind ≠ .eof) : t ∈ (tokenize s).dropLast := by
  have hlast := (tokenize_lexed s).eof_last
  have hne : tokenize s ≠ [] := List.ne_nil_of_mem ht
  rw [← List.dropLast_append_getLast hne, List.mem_append, List.mem_singleton] at ht
  rcases ht with ht | ht
  · exact ht
  · rw [List.getLast?_eq_some_getLast hne, Option.some.injEq] at hlast
    rw [ht, hlast] at hk
    exact absurd rfl hk

/-- **A token a reference opens with reads `url(` where it starts.** -/
theorem OpensWith.urlOpensAt {s : String} {u : UrlValue} {f : Token} (hf : f ∈ tokenize s)
    (h : OpensWith u f) : UrlOpensAt s.toList u.span.start := by
  obtain ⟨pre, post, htext, hstart, -⟩ := (tokenize_ok s f hf).located
  rw [h.1, hstart]
  rcases h.2 with hk | ⟨hk, hname⟩
  · -- a reference token reads `url(` and its body
    have hwf := (tokenize_lexed s).tokens f (mem_dropLast_tokenize hf (by rw [hk]; decide))
    obtain ⟨a, b, c, body, hshape, ha, hb, hc⟩ := hwf.url hk
    exact ⟨pre, a, b, c, body ++ [')'] ++ post, by rw [htext, hshape]; simp, rfl, ha, hb, hc⟩
  · -- a function token is its name and `(`, and the name is `url` up to case
    obtain ⟨name, hname'⟩ := (tokenize_delimited s f hf).2 hk
    rw [hname', List.dropLast_concat, eqIgnoreAsciiCase_iff] at hname
    rcases name with _ | ⟨a, _ | ⟨b, _ | ⟨c, _ | ⟨d, name⟩⟩⟩⟩
    all_goals simp at hname
    obtain ⟨ha, hb, hc⟩ := hname
    exact ⟨pre, a, b, c, post, by rw [htext, hname']; simp, rfl, ha, hb, hc⟩

/-- **Every reference of a parse lies within itself**: its value span within its span. -/
theorem urls_within (s : String) :
    ∀ u ∈ (parse s).stylesheet.urls, u.valueSpan.Within u.span := by
  intro u hu
  obtain ⟨r, hr, hu⟩ := List.mem_flatMap.mp hu
  cases ((parse_rules_spans s).1 r hr).urls_url u hu with
  | url _ _ hwithin => exact hwithin

end StyleRebase.Css

namespace StyleRebase.Rebase

/-! ## (3) The layout of the occurrences -/

/-- **The value spans of the occurrences start in strictly increasing order**: they are value
spans of distinct tokens, in token order. -/
theorem locate_starts_increasing (s : String) (index : LineIndex) :
    (locate (Css.parse s).stylesheet index).Pairwise fun o o' => o.span.start < o'.span.start := by
  have h : ((Css.tokenize s).map Css.Token.valueSpan).Pairwise fun a b => a.start < b.start :=
    List.pairwise_map.mpr (Css.tokenize_valueSpan_increasing s)
  have h' := h.sublist (locate_spans_sublist s index)
  rw [List.pairwise_map] at h'
  exact h'

/-- **Occurrence invariant of locating.** For every text, with or without syntax errors, the
occurrences found have strictly increasing span starts and each span ends before the next starts;
each span reads the occurrence's value in its quotes, so it lies in the text on character
boundaries; and each occurrence's position is the line and UTF-16 column of the start of the
reference around its span, where the text reads `url(` in some ASCII case. -/
theorem locate_occurrences_layout (s : String) :
    (locate (Css.parse s).stylesheet (LineIndex.ofString s)).Pairwise
      (fun o o' => o.span.start < o'.span.start ∧ o.span.stop ≤ o'.span.start) ∧
    ∀ o ∈ locate (Css.parse s).stylesheet (LineIndex.ofString s),
      Located s.toList o.span (o.quote.mark ++ o.raw ++ o.quote.mark) ∧
      ∃ u ∈ (Css.parse s).stylesheet.urls, u.valueSpan = o.span ∧ o.span.Within u.span ∧
        Css.UrlOpensAt s.toList u.span.start ∧
        (LineIndex.ofString s).lineColUtf16 u.span.start = some o.position := by
  refine ⟨(locate_starts_increasing s _).and (locate_ordered s _), fun o ho => ?_⟩
  refine ⟨locate_located s _ o ho, ?_⟩
  rw [locate_eq_filterMap] at ho
  obtain ⟨u, hu, hocc⟩ := List.mem_filterMap.mp ho
  obtain ⟨position, hposition, rfl⟩ := Option.map_eq_some_iff.mp hocc
  obtain ⟨f, hf, hopen⟩ := Css.urls_opened s u hu
  exact ⟨u, hu, rfl, Css.urls_within s u hu, hopen.urlOpensAt hf, hposition⟩

end StyleRebase.Rebase
