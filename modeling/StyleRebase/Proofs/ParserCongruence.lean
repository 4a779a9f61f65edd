import Mathlib.Data.List.Forall2
import StyleRebase.Proofs.ReferenceSpans

/-! # Parsing alike token lists alike

The parser looks at the kinds of the tokens and at the texts of most of them; it never looks at
where a token is, nor at the value that a reference or a string holds. Two token lists that
differ only there — token for token of one kind and of one text, except that a reference or a
string may hold another value and a string keeps its opening quote — are parsed alike: with as
many errors, and with their references read, in order, off tokens at the same places of the two
lists.

* **`Alike`** — two tokens that the parser cannot tell apart.
* **`UrlAlike`**, **`TopAlike`**, **`ValuesAlike`** — references read off alike tokens; values
  that are alike at the top and hold alike references.
* **`RunAlike`** — two runs of a parsing function: alike results, alike tokens left over and as
  many errors.
* **`Parser.componentValue_congr`**, **`Parser.atRule_congr`**, **`Parser.rules_congr`** — the
  parsing functions on alike tokens.
* **`parse_congr`** — two texts whose tokens are alike parse alike. -/

namespace StyleRebase.Css

/-! ## (1) Alike tokens and values -/

/-- **Tokens the parser cannot tell apart**: one kind and one text, except that a reference or a
string may hold another value; a string keeps its opening quote. -/
structure Alike (t t' : Token) : Prop where
  kind : t'.kind = t.kind
  text : t.kind ≠ .url → t.kind ≠ .string → t'.text = t.text
  quote : t.kind = .string → t'.text.head? = t.text.head?

/-- **References read off related tokens**: each off its own token of a related pair, the whole
reference starting where a related pair of tokens starts. -/
def UrlAlike (R : Token → Token → Prop) (u u' : UrlValue) : Prop :=
  ∃ f f' t t', R f f' ∧ R t t' ∧ ReadsOff u t ∧ ReadsOff u' t' ∧
    u.span.start = f.span.start ∧ u'.span.start = f'.span.start

/-- **Values alike at the top**: related tokens kept as tokens, or two values that are no
tokens. -/
inductive TopAlike (R : Token → Token → Prop) : ComponentValue → ComponentValue → Prop
  | token {t t' : Token} : R t t' → TopAlike R (.token t) (.token t')
  | other {v v' : ComponentValue} : (∀ t, v ≠ .token t) → (∀ t', v' ≠ .token t') →
      TopAlike R v v'

/-- **Values alike**: one for one alike at the top, with their references read off related
tokens, in order. -/
def ValuesAlike (R : Token → Token → Prop) (vs vs' : List ComponentValue) : Prop :=
  List.Forall₂ (TopAlike R) vs vs' ∧ List.Forall₂ (UrlAlike R) (valuesUrls vs) (valuesUrls vs')

/-- **Two runs of a parsing function alike**: results related by `P`, related tokens left over
and as many errors. -/
structure RunAlike (R : Token → Token → Prop) {α : Type} (P : α → α → Prop) (a a' : α)
    (r r' : List Token) (e e' : List ParseError) : Prop where
  result : P a a'
  rest : List.Forall₂ R r r'
  errors : e.length = e'.length

variable {R : Token → Token → Prop}

namespace ValuesAlike

theorem nil : ValuesAlike R [] [] := ⟨.nil, .nil⟩

theorem append {vs ws vs' ws' : List ComponentValue} (h : ValuesAlike R vs vs')
    (h' : ValuesAlike R ws ws') : ValuesAlike R (vs ++ ws) (vs' ++ ws') := by
  refine ⟨List.rel_append h.1 h'.1, ?_⟩
  rw [valuesUrls_append, valuesUrls_append]
  exact List.rel_append h.2 h'.2

theorem url {u u' : UrlValue} (h : UrlAlike R u u') : ValuesAlike R [.url u] [.url u'] :=
  ⟨.cons (.other (fun _ h => by cases h) (fun _ h => by cases h)) .nil,
    by simpa [valuesUrls, ComponentValue.urls] using h⟩

theorem token {t t' : Token} (h : R t t') : ValuesAlike R [.token t] [.token t'] :=
  ⟨.cons (.token h) .nil, by simp [valuesUrls, ComponentValue.urls]⟩

theorem block {c : Char} {vs vs' : List ComponentValue} {sp sp' : Span}
    (h : ValuesAlike R vs vs') : ValuesAlike R [.block c vs sp] [.block c vs' sp'] :=
  ⟨.cons (.other (fun _ h => by cases h) (fun _ h => by cases h)) .nil,
    by simpa [valuesUrls, ComponentValue.urls] using h.2⟩

theorem function {name : List Char} {vs vs' : List ComponentValue} {sp sp' : Span}
    (h : ValuesAlike R vs vs') : ValuesAlike R [.function name vs sp] [.function name vs' sp'] :=
  ⟨.cons (.other (fun _ h => by cases h) (fun _ h => by cases h)) .nil,
    by simpa [valuesUrls, ComponentValue.urls] using h.2⟩

end ValuesAlike

/-! ## (2) What the parser reads of values and tokens -/

namespace Parser

/-- A function whose first argument is no token is a function value. -/
theorem functionValue_eq_function {name : List Char} {args : List ComponentValue} {sp : Span}
    (h : ∀ a rest, args ≠ .token a :: rest) : functionValue name args sp = .function name args sp := by
  unfold functionValue
  split
  · split
    · exact absurd rfl (h _ _)
    · rfl
  · rfl

/-- **A function of a token** is a quoted reference when its name is `url` and the token a
string. -/
theorem functionValue_token {name : List Char} {a : Token} {rest : List ComponentValue}
    {sp : Span} :
    functionValue name (.token a :: rest) sp =
      if eqIgnoreAsciiCase name "url".toList && a.kind == .string then
        .url { span := sp, valueSpan := a.span,
               quote := if a.text.head? == some '\'' then .single else .double,
               value := (a.text.drop 1).dropLast }
      else .function name (.token a :: rest) sp := by
  unfold functionValue
  by_cases hn : eqIgnoreAsciiCase name ['u', 'r', 'l'] = true <;>
    by_cases hs : (a.kind == .string) = true <;> simp [hn, hs]

/-- **Function values of alike arguments are alike**, a quoted reference starting where its name
token starts. -/
theorem functionValue_congr (hR : ∀ {t t'}, R t t' → Alike t t') {name : List Char}
    {args args' : List ComponentValue} {sp sp' : Span} {f f' : Token} (hf : R f f')
    (hsp : sp.start = f.span.start) (hsp' : sp'.start = f'.span.start)
    (h : ValuesAlike R args args') :
    ValuesAlike R [functionValue name args sp] [functionValue name args' sp'] := by
  obtain ⟨htop, hurls⟩ := h
  cases htop with
  | nil =>
    rw [functionValue_eq_function (fun _ _ h => by cases h),
      functionValue_eq_function (fun _ _ h => by cases h)]
    exact .function ⟨.nil, hurls⟩
  | cons hv hrest =>
    cases hv with
    | @token a a' ha =>
      rw [functionValue_token, functionValue_token, (hR ha).kind]
      split
      · -- `url` of a string: a quoted reference
        rename_i hc
        simp only [Bool.and_eq_true, beq_iff_eq] at hc
        exact .url ⟨f, f', a, a', hf, ha, .quoted sp hc.2, .quoted sp' ((hR ha).kind.trans hc.2),
          hsp, hsp'⟩
      · exact .function ⟨.cons (.token ha) hrest, hurls⟩
    | other hv hv' =>
      rw [functionValue_eq_function (fun a _ h => hv a (List.cons.inj h).1),
        functionValue_eq_function (fun a _ h => hv' a (List.cons.inj h).1)]
      exact .function ⟨.cons (.other hv hv') hrest, hurls⟩

/-- **The test for `! important`**, on the last two values as tokens. -/
def importantTail (b i : Token) : Bool :=
  b.kind == .delim && b.text == ['!'] && i.kind == .ident &&
    eqIgnoreAsciiCase i.text "important".toList

theorem importantTail_congr (hR : ∀ {t t'}, R t t' → Alike t t') {b b' i i' : Token}
    (hb : R b b') (hi : R i i') : importantTail b' i' = importantTail b i := by
  unfold importantTail
  rw [(hR hb).kind, (hR hi).kind]
  by_cases hbk : b.kind = .delim
  · by_cases hik : b.kind = .delim ∧ i.kind = .ident
    · rw [(hR hb).text (by rw [hbk]; decide) (by rw [hbk]; decide),
        (hR hi).text (by rw [hik.2]; decide) (by rw [hik.2]; decide)]
    · have hik' : i.kind ≠ .ident := fun h => hik ⟨hbk, h⟩
      simp only [beq_false_of_ne hik', Bool.and_false, Bool.false_and]
  · simp only [beq_false_of_ne hbk, Bool.false_and]

theorem stripImportant_eq_tail {vals before : List ComponentValue} {b i : Token}
    (h : vals.reverse = .token i :: .token b :: before) :
    stripImportant vals = if importantTail b i then (before.reverse, true) else (vals, false) := by
  unfold stripImportant importantTail
  rw [h]

theorem stripImportant_eq_self {vals : List ComponentValue}
    (h : ∀ i b before, vals.reverse ≠ .token i :: .token b :: before) :
    stripImportant vals = (vals, false) := by
  unfold stripImportant
  split
  · exact absurd ‹_› (h _ _ _)
  · rfl

/-- **Dropping `! important` from alike values** drops it from both. -/
theorem stripImportant_congr (hR : ∀ {t t'}, R t t' → Alike t t')
    {vals vals' : List ComponentValue} (h : ValuesAlike R vals vals') :
    ValuesAlike R (stripImportant vals).1 (stripImportant vals').1 ∧
      (stripImportant vals').2 = (stripImportant vals).2 := by
  have hrev := List.rel_reverse h.1
  -- both end with two tokens, or neither does
  have hself : (∀ i b before, vals.reverse ≠ .token i :: .token b :: before) →
      (∀ i b before, vals'.reverse ≠ .token i :: .token b :: before) →
      ValuesAlike R (stripImportant vals).1 (stripImportant vals').1 ∧
        (stripImportant vals').2 = (stripImportant vals).2 := fun hn hn' => by
    rw [stripImportant_eq_self hn, stripImportant_eq_self hn']
    exact ⟨h, rfl⟩
  generalize hr : vals.reverse = rv at hrev hself
  generalize hr' : vals'.reverse = rv' at hrev hself
  rcases hrev with _ | ⟨hv, hrest⟩
  · exact hself (fun _ _ _ h => by cases h) (fun _ _ _ h => by cases h)
  · rename_i v v' tail tail'
    cases hv with
    | @token i i' hi =>
      rcases hrest with _ | ⟨hw, hrest⟩
      · exact hself (fun _ _ _ h => by cases h) (fun _ _ _ h => by cases h)
      · rename_i w w' before before'
        cases hw with
        | @token b b' hb =>
          rw [stripImportant_eq_tail hr, stripImportant_eq_tail hr',
            importantTail_congr hR hb hi]
          split
          · -- the two tokens are dropped from both, and they hold no reference
            refine ⟨⟨List.rel_reverse hrest, ?_⟩, rfl⟩
            have hurls := h.2
            rw [← List.reverse_reverse vals, ← List.reverse_reverse vals', hr, hr'] at hurls
            simpa [valuesUrls_append, valuesUrls, ComponentValue.urls] using hurls
          · exact ⟨h, rfl⟩
        | other hw hw' =>
          exact hself (fun _ _ _ h => hw _ (List.cons.inj (List.cons.inj h).2).1)
            (fun _ _ _ h => hw' _ (List.cons.inj (List.cons.inj h).2).1)
    | other hv hv' =>
      exact hself (fun _ _ _ h => hv _ (List.cons.inj h).1)
        (fun _ _ _ h => hv' _ (List.cons.inj h).1)

/-- **The bracket-depth scan reads only kinds.** -/
theorem scan_congr {us us' : List Token}
    (h : List.Forall₂ (fun u u' => u'.kind = u.kind) us us') (depth : Nat) :
    startsDeclaration.scan depth us' = startsDeclaration.scan depth us := by
  induction h generalizing depth with
  | nil => rfl
  | @cons u u' us us' hk _ ih =>
    rw [startsDeclaration.scan, startsDeclaration.scan, hk]
    simp only [ih]

/-- **Whether an identifier starts a declaration** is decided alike for alike tokens. -/
theorem startsDeclaration_congr (hR : ∀ {t t'}, R t t' → Alike t t') {t t' : Token}
    {ts ts' : List Token} (ht : R t t') (hts : List.Forall₂ R ts ts') :
    (t'.kind == .ident && startsDeclaration t' ts') = (t.kind == .ident && startsDeclaration t ts) := by
  rw [(hR ht).kind]
  by_cases hk : t.kind = .ident
  · have htext := (hR ht).text (by rw [hk]; decide) (by rw [hk]; decide)
    simp only [hk, beq_self_eq_true, Bool.true_and]
    unfold startsDeclaration
    rw [htext]
    split
    · rfl
    · exact scan_congr (.cons (hR ht).kind (hts.imp fun _ _ h => (hR h).kind)) 0
  · simp only [beq_false_of_ne hk, Bool.false_and]

/-! ## (3) Values -/

section Values

variable (hR : ∀ {t t'}, R t t' → Alike t t') (size size' : Nat)
include hR

/-- **Component values of alike tokens are alike**, and so are the values nested up to a closing
bracket. The induction follows the parser's mutual recursion over values; the new side takes
the same branch, since the kinds agree. -/
theorem componentValue_congr :
    (∀ t ts t' ts', R t t' → List.Forall₂ R ts ts' →
      RunAlike R (ValuesAlike R) (componentValue size t ts).1.toList
        (componentValue size' t' ts').1.toList (componentValue size t ts).2.1.1
        (componentValue size' t' ts').2.1.1 (componentValue size t ts).2.2
        (componentValue size' t' ts').2.2) ∧
    (∀ close closeChar ts ts', List.Forall₂ R ts ts' →
      RunAlike R (ValuesAlike R) (nested size close closeChar ts).1
        (nested size' close closeChar ts').1 (nested size close closeChar ts).2.2.1.1
        (nested size' close closeChar ts').2.2.1.1 (nested size close closeChar ts).2.2.2
        (nested size' close closeChar ts').2.2.2) := by
  apply componentValue.mutual_induct size
    (fun t ts => ∀ t' ts', R t t' → List.Forall₂ R ts ts' →
      RunAlike R (ValuesAlike R) (componentValue size t ts).1.toList
        (componentValue size' t' ts').1.toList (componentValue size t ts).2.1.1
        (componentValue size' t' ts').2.1.1 (componentValue size t ts).2.2
        (componentValue size' t' ts').2.2)
    (fun close closeChar ts => ∀ ts', List.Forall₂ R ts ts' →
      RunAlike R (ValuesAlike R) (nested size close closeChar ts).1
        (nested size' close closeChar ts').1 (nested size close closeChar ts).2.2.1.1
        (nested size' close closeChar ts').2.2.1.1 (nested size close closeChar ts).2.2.2
        (nested size' close closeChar ts').2.2.2)
  case _ => -- an unquoted reference
    intro t ts ht t' ts' htt hts
    have ht' : t'.kind = .url := (hR htt).kind.trans ht
    rw [componentValue_url ht, componentValue_url ht']
    exact ⟨.url ⟨t, t', t, t', htt, htt, .unquoted ht, .unquoted ht', rfl, rfl⟩, hts, rfl⟩
  case _ => -- a function, named alike
    intro t ts ht args stop rest errs hn ih t' ts' htt hts
    have ht' : t'.kind = .function := (hR htt).kind.trans ht
    have htext : t'.text = t.text := (hR htt).text (by rw [ht]; decide) (by rw [ht]; decide)
    obtain ⟨hvals, hrest, herrs⟩ := ih ts' hts
    rcases hn' : nested size' .rparen ')' ts' with ⟨args', stop', rest', errs'⟩
    rw [hn, hn'] at hvals hrest herrs
    rw [componentValue_function ht hn, componentValue_function ht' hn', htext]
    exact ⟨functionValue_congr hR htt rfl rfl hvals, hrest, herrs⟩
  case _ | _ | _ => -- a block
    intro t ts ht close closeChar hcl vals stop rest errs hn ih t' ts' htt hts
    have hk := (hR htt).kind
    obtain ⟨hvals, hrest, herrs⟩ := ih ts' hts
    rcases hn' : nested size' close closeChar ts' with ⟨vals', stop', rest', errs'⟩
    rw [hn, hn'] at hvals hrest herrs
    rw [componentValue_block (by simp only [ht, true_or, or_true]) hcl hn,
      componentValue_block (by simp only [hk, ht, true_or, or_true]) (hk ▸ hcl) hn', hk]
    exact ⟨.block hvals, hrest, herrs⟩
  case _ | _ | _ | _ | _ | _ => -- a token recorded as an error
    intro t ts ht t' ts' htt hts
    have ht' := (hR htt).kind.trans ht
    rw [componentValue, componentValue]
    simp only [ht, ht', Option.toList_none]
    exact ⟨.nil, hts, rfl⟩
  case _ => -- any other token is a value of its own
    intro t ts h1 h2 h3 h4 h5 h6 h7 h8 h9 h10 h11 t' ts' htt hts
    have hk := (hR htt).kind
    rw [componentValue_other h1 h2 h3 h4 h5 h6 h7 h8 h9 h10 h11,
      componentValue_other (hk ▸ h1) (hk ▸ h2) (hk ▸ h3) (hk ▸ h4) (hk ▸ h5) (hk ▸ h6) (hk ▸ h7)
        (hk ▸ h8) (hk ▸ h9) (hk ▸ h10) (hk ▸ h11)]
    exact ⟨.token htt, hts, rfl⟩
  case _ => -- no tokens left
    intro close closeChar ts' hts
    cases hts
    rw [nested, nested]
    exact ⟨.nil, .nil, rfl⟩
  case _ => -- the closing bracket
    intro close closeChar t tail hc ts' hts
    rcases hts with _ | ⟨htt, htail⟩
    rename_i t' tail'
    have hc' : (t'.kind == close) = true := by rw [(hR htt).kind]; exact hc
    rw [nested_close hc, nested_close hc']
    exact ⟨.nil, htail, rfl⟩
  case _ => -- a different closing bracket, left in place
    intro close closeChar t tail hc hcl ts' hts
    rcases hts with _ | ⟨htt, htail⟩
    rename_i t' tail'
    have hc' : ¬(t'.kind == close) = true := by rw [(hR htt).kind]; exact hc
    have hcl' : t'.kind.isClosing = true := by rw [(hR htt).kind]; exact hcl
    rw [nested_mismatched hc hcl, nested_mismatched hc' hcl']
    exact ⟨.nil, .cons htt htail, rfl⟩
  case _ => -- one value, then the rest
    intro close closeChar t tail hc hcl v r errs hcv vs stop r' errs' hn ih₁ ih₂ ts' hts
    rcases hts with _ | ⟨htt, htail⟩
    rename_i t' tail'
    have hc' : ¬(t'.kind == close) = true := by rw [(hR htt).kind]; exact hc
    have hcl' : ¬t'.kind.isClosing = true := by rw [(hR htt).kind]; exact hcl
    obtain ⟨hv₁, hr₁, he₁⟩ := ih₁ t' tail' htt htail
    rcases hcv' : componentValue size' t' tail' with ⟨v', r₁, errs₁⟩
    rw [hcv, hcv'] at hv₁ hr₁ he₁
    obtain ⟨hv₂, hr₂, he₂⟩ := ih₂ r₁.1 hr₁
    rcases hn' : nested size' close closeChar r₁.1 with ⟨vs', stop', r₂, errs₂⟩
    rw [hn, hn'] at hv₂ hr₂ he₂
    rw [nested_value hc hcl hcv hn, nested_value hc' hcl' hcv' hn']
    exact ⟨hv₁.append hv₂, hr₂, by simp only [List.length_append, he₁, he₂]⟩

/-- **Values of alike tokens up to a stop token are alike.** -/
theorem values_congr (stop : TokenKind → Bool) (ts : List Token) :
    ∀ ts', List.Forall₂ R ts ts' →
      RunAlike R (ValuesAlike R) (values size stop ts).1 (values size' stop ts').1
        (values size stop ts).2.1.1 (values size' stop ts').2.1.1 (values size stop ts).2.2
        (values size' stop ts').2.2 := by
  induction ts using values.induct size stop with
  | case1 =>
    intro ts' hts
    cases hts
    rw [values, values]
    exact ⟨.nil, .nil, rfl⟩
  | case2 t tail hstop =>
    -- the stop token, left in place
    intro ts' hts
    rcases hts with _ | ⟨htt, htail⟩
    rename_i t' tail'
    have hstop' : stop t'.kind = true := by rw [(hR htt).kind]; exact hstop
    rw [values_stop hstop, values_stop hstop']
    exact ⟨.nil, .cons htt htail, rfl⟩
  | case3 t tail hstop v r errs hcv vs r' errs' hvs ih =>
    -- one value, then the rest
    intro ts' hts
    rcases hts with _ | ⟨htt, htail⟩
    rename_i t' tail'
    have hstop' : ¬stop t'.kind = true := by rw [(hR htt).kind]; exact hstop
    obtain ⟨hv₁, hr₁, he₁⟩ := (componentValue_congr hR size size').1 t tail t' tail' htt htail
    rcases hcv' : componentValue size' t' tail' with ⟨v', r₁, errs₁⟩
    rw [hcv, hcv'] at hv₁ hr₁ he₁
    obtain ⟨hv₂, hr₂, he₂⟩ := ih r₁.1 hr₁
    rcases hvs' : values size' stop r₁.1 with ⟨vs', r₂, errs₂⟩
    rw [hvs, hvs'] at hv₂ hr₂ he₂
    rw [values_value hstop hcv hvs, values_value hstop' hcv' hvs']
    exact ⟨hv₁.append hv₂, hr₂, by simp only [List.length_append, he₁, he₂]⟩

/-- **A prelude of alike tokens, as one run read it**: the other run reads alike values, leaves
alike tokens and records as many errors. -/
theorem values_congr_of_eq {stop : TokenKind → Bool} {ts ts' : List Token}
    (hts : List.Forall₂ R ts ts') {vals : List ComponentValue} {r : Rest ts}
    {errs : List ParseError} (hv : values size stop ts = (vals, r, errs)) :
    ∃ vals' r' errs', values size' stop ts' = (vals', r', errs') ∧
      RunAlike R (ValuesAlike R) vals vals' r.1 r'.1 errs errs' := by
  have h := values_congr hR size size' stop ts ts' hts
  rw [hv] at h
  exact ⟨_, _, _, rfl, h⟩

/-- **A declaration of alike tokens** holds alike references. -/
theorem declaration_congr {t t' : Token} {ts ts' : List Token}
    (hts : List.Forall₂ R ts ts') :
    RunAlike R (List.Forall₂ (UrlAlike R))
      (itemsUrls ((declaration size t ts).1.map BlockItem.declaration).toList)
      (itemsUrls ((declaration size' t' ts').1.map BlockItem.declaration).toList)
      (declaration size t ts).2.1.1 (declaration size' t' ts').2.1.1
      (declaration size t ts).2.2 (declaration size' t' ts').2.2 := by
  rcases hts with _ | ⟨hcc, hrest⟩
  · -- no colon: the end of the text
    simp only [declaration]
    exact ⟨.nil, .nil, rfl⟩
  · rename_i c c' rest rest'
    by_cases hc : (c.kind == .colon) = true
    · -- the value, without `! important`
      have hc' : (c'.kind == .colon) = true := by rw [(hR hcc).kind]; exact hc
      obtain ⟨hv, hr, he⟩ := values_congr hR size size' declarationStop rest rest' hrest
      rcases hvs : values size declarationStop rest with ⟨vals, r, errs⟩
      rcases hvs' : values size' declarationStop rest' with ⟨vals', r', errs'⟩
      rw [hvs, hvs'] at hv hr he
      simp only [declaration, hc, hc', if_true, hvs, hvs']
      refine ⟨?_, hr, he⟩
      simpa [itemsUrls, BlockItem.urls] using (stripImportant_congr hR hv).1.2
    · -- no colon: the value is skipped
      have hc' : ¬(c'.kind == .colon) = true := by rw [(hR hcc).kind]; exact hc
      obtain ⟨-, hr, he⟩ := values_congr hR size size' declarationStop (c :: rest) (c' :: rest')
        (.cons hcc hrest)
      simp only [declaration, hc, hc', if_false, Bool.false_eq_true]
      exact ⟨.nil, hr, by simp [he]⟩

end Values

/-! ## (4) Rules -/

section Rules

variable (hR : ∀ {t t'}, R t t' → Alike t t') (size size' : Nat)
include hR

theorem atRule_congr :
    (∀ t ts t' ts', R t t' → List.Forall₂ R ts ts' →
      RunAlike R (List.Forall₂ (UrlAlike R)) (atRule size t ts).1.urls
        (atRule size' t' ts').1.urls (atRule size t ts).2.1.1 (atRule size' t' ts').2.1.1
        (atRule size t ts).2.2 (atRule size' t' ts').2.2) ∧
    (∀ t ts t' ts', R t t' → List.Forall₂ R ts ts' →
      RunAlike R (List.Forall₂ (UrlAlike R)) (block size t ts).1.urls
        (block size' t' ts').1.urls (block size t ts).2.1.1 (block size' t' ts').2.1.1
        (block size t ts).2.2 (block size' t' ts').2.2) ∧
    (∀ ts ts', List.Forall₂ R ts ts' →
      RunAlike R (List.Forall₂ (UrlAlike R)) (itemsUrls (blockItems size ts).1)
        (itemsUrls (blockItems size' ts').1) (blockItems size ts).2.2.1.1
        (blockItems size' ts').2.2.1.1 (blockItems size ts).2.2.2 (blockItems size' ts').2.2.2) ∧
    (∀ ts ts', List.Forall₂ R ts ts' →
      RunAlike R (List.Forall₂ (UrlAlike R)) ((qualifiedRule size ts).1.toList.flatMap Rule.urls)
        ((qualifiedRule size' ts').1.toList.flatMap Rule.urls) (qualifiedRule size ts).2.1.1
        (qualifiedRule size' ts').2.1.1 (qualifiedRule size ts).2.2
        (qualifiedRule size' ts').2.2) := by
  apply atRule.mutual_induct size
    (fun t ts => ∀ t' ts', R t t' → List.Forall₂ R ts ts' →
      RunAlike R (List.Forall₂ (UrlAlike R)) (atRule size t ts).1.urls
        (atRule size' t' ts').1.urls (atRule size t ts).2.1.1 (atRule size' t' ts').2.1.1
        (atRule size t ts).2.2 (atRule size' t' ts').2.2)
    (fun t ts => ∀ t' ts', R t t' → List.Forall₂ R ts ts' →
      RunAlike R (List.Forall₂ (UrlAlike R)) (block size t ts).1.urls
        (block size' t' ts').1.urls (block size t ts).2.1.1 (block size' t' ts').2.1.1
        (block size t ts).2.2 (block size' t' ts').2.2)
    (fun ts => ∀ ts', List.Forall₂ R ts ts' →
      RunAlike R (List.Forall₂ (UrlAlike R)) (itemsUrls (blockItems size ts).1)
        (itemsUrls (blockItems size' ts').1) (blockItems size ts).2.2.1.1
        (blockItems size' ts').2.2.1.1 (blockItems size ts).2.2.2 (blockItems size' ts').2.2.2)
    (fun ts => ∀ ts', List.Forall₂ R ts ts' →
      RunAlike R (List.Forall₂ (UrlAlike R)) ((qualifiedRule size ts).1.toList.flatMap Rule.urls)
        ((qualifiedRule size' ts').1.toList.flatMap Rule.urls) (qualifiedRule size ts).2.1.1
        (qualifiedRule size' ts').2.1.1 (qualifiedRule size ts).2.2
        (qualifiedRule size' ts').2.2)
  case _ => -- an at-rule ending with `;`
    intro t ts vals r errs hv s r2 hr hs t' ts' htt hts
    obtain ⟨vals', r', errs', hv', hp, hrest, he⟩ := values_congr_of_eq hR size size' hts hv
    rw [hr] at hrest
    obtain ⟨s', r2', hss, hr2, hr'⟩ := List.forall₂_cons_left_iff.mp hrest
    have hs' : (s'.kind == .semicolon) = true := by rw [(hR hss).kind]; exact hs
    rw [atRule_semicolon hv hr hs, atRule_semicolon hv' hr' hs']
    simp only [Rule.urls, optionBlockUrls, List.append_nil]
    exact ⟨hp.2, hr2, he⟩
  case _ => -- an at-rule with a block
    intro t ts vals r errs hv s r2 hr hs hb b r3 e2 hblk ih t' ts' htt hts
    obtain ⟨vals', r', errs', hv', hp, hrest, he⟩ := values_congr_of_eq hR size size' hts hv
    rw [hr] at hrest
    obtain ⟨s', r2', hss, hr2, hr'⟩ := List.forall₂_cons_left_iff.mp hrest
    have hs' : ¬(s'.kind == .semicolon) = true := by rw [(hR hss).kind]; exact hs
    have hb' : (s'.kind == .lbrace) = true := by rw [(hR hss).kind]; exact hb
    obtain ⟨hbu, hbr, hbe⟩ := ih s' r2' hss hr2
    rcases hblk' : block size' s' r2' with ⟨b', r3', e2'⟩
    rw [hblk, hblk'] at hbu hbr hbe
    rw [atRule_block hv hr hs hb hblk, atRule_block hv' hr' hs' hb' hblk']
    simp only [Rule.urls, optionBlockUrls]
    exact ⟨List.rel_append hp.2 hbu, hbr, by simp only [List.length_append, he, hbe]⟩
  case _ => -- an at-rule ended by another token, left in place
    intro t ts vals r errs hv s r2 hr hs hb t' ts' htt hts
    obtain ⟨vals', r', errs', hv', hp, hrest, he⟩ := values_congr_of_eq hR size size' hts hv
    rw [hr] at hrest
    obtain ⟨s', r2', hss, hr2, hr'⟩ := List.forall₂_cons_left_iff.mp hrest
    have hs' : ¬(s'.kind == .semicolon) = true := by rw [(hR hss).kind]; exact hs
    have hb' : ¬(s'.kind == .lbrace) = true := by rw [(hR hss).kind]; exact hb
    rw [atRule_left hv hr hs hb, atRule_left hv' hr' hs' hb']
    simp only [Rule.urls, optionBlockUrls, List.append_nil]
    exact ⟨hp.2, .cons hss hr2, he⟩
  case _ => -- an at-rule at the end of the text
    intro t ts vals r errs hv hr t' ts' htt hts
    obtain ⟨vals', r', errs', hv', hp, hrest, he⟩ := values_congr_of_eq hR size size' hts hv
    rw [hr] at hrest
    rw [atRule_end hv hr, atRule_end hv' (List.forall₂_nil_left_iff.mp hrest)]
    simp only [Rule.urls, optionBlockUrls, List.append_nil]
    exact ⟨hp.2, .nil, he⟩
  case _ => -- a block
    intro t ts items stop r errs hbi ih t' ts' htt hts
    obtain ⟨hu, hr, he⟩ := ih ts' hts
    rcases hbi' : blockItems size' ts' with ⟨items', stop', r', errs'⟩
    rw [hbi, hbi'] at hu hr he
    rw [block_eq hbi, block_eq hbi']
    exact ⟨hu, hr, he⟩
  case _ => -- no items left
    intro ts' hts
    cases hts
    rw [blockItems, blockItems]
    exact ⟨.nil, .nil, rfl⟩
  case _ => -- the closing brace
    intro t tail hk ts' hts
    rcases hts with _ | ⟨htt, htail⟩
    rw [blockItems_rbrace hk, blockItems_rbrace ((hR htt).kind.trans hk)]
    exact ⟨.nil, htail, rfl⟩
  case _ => -- a stray semicolon
    intro t tail hk items stop r errs hbi ih ts' hts
    rcases hts with _ | ⟨htt, htail⟩
    rename_i t' tail'
    obtain ⟨hu, hr, he⟩ := ih tail' htail
    rcases hbi' : blockItems size' tail' with ⟨items', stop', r', errs'⟩
    rw [hbi, hbi'] at hu hr he
    rw [blockItems_semicolon hk hbi, blockItems_semicolon ((hR htt).kind.trans hk) hbi']
    exact ⟨hu, hr, he⟩
  case _ => -- a nested at-rule, then the other items
    intro t tail hk rule r e1 hat items stop r' e2 hbi ih₁ ih₃ ts' hts
    rcases hts with _ | ⟨htt, htail⟩
    rename_i t' tail'
    obtain ⟨hu₁, hr₁, he₁⟩ := ih₁ t' tail' htt htail
    rcases hat' : atRule size' t' tail' with ⟨rule', r₁, e1'⟩
    rw [hat, hat'] at hu₁ hr₁ he₁
    obtain ⟨hu₂, hr₂, he₂⟩ := ih₃ r₁.1 hr₁
    rcases hbi' : blockItems size' r₁.1 with ⟨items', stop', r₂, e2'⟩
    rw [hbi, hbi'] at hu₂ hr₂ he₂
    rw [blockItems_atRule hk hat hbi, blockItems_atRule ((hR htt).kind.trans hk) hat' hbi']
    simp only [itemsUrls, BlockItem.urls]
    exact ⟨List.rel_append hu₁ hu₂, hr₂, by simp only [List.length_append, he₁, he₂]⟩
  case _ => -- a declaration, then the other items
    intro t tail d r e1 hd items stop r' e2 hbi h₁ h₂ h₃ hdecl ih₃ ts' hts
    rcases hts with _ | ⟨htt, htail⟩
    rename_i t' tail'
    have hk := (hR htt).kind
    have hdecl' : (t'.kind == .ident && startsDeclaration t' tail') = true := by
      rw [startsDeclaration_congr hR htt htail]
      exact hdecl
    obtain ⟨hu₁, hr₁, he₁⟩ := declaration_congr hR size size' htail
    rcases hd' : declaration size' t' tail' with ⟨d', r₁, e1'⟩
    rw [hd, hd'] at hu₁ hr₁ he₁
    obtain ⟨hu₂, hr₂, he₂⟩ := ih₃ r₁.1 hr₁
    rcases hbi' : blockItems size' r₁.1 with ⟨items', stop', r₂, e2'⟩
    rw [hbi, hbi'] at hu₂ hr₂ he₂
    rw [blockItems_declaration h₁ h₂ h₃ hdecl hd hbi,
      blockItems_declaration (hk ▸ h₁) (hk ▸ h₂) (hk ▸ h₃) hdecl' hd' hbi']
    simp only [itemsUrls_append]
    exact ⟨List.rel_append hu₁ hu₂, hr₂, by simp only [List.length_append, he₁, he₂]⟩
  case _ => -- a nested qualified rule, then the other items
    intro t tail rule r e1 hq hlt items stop r' e2 hbi h₁ h₂ h₃ hdecl ih₄ ih₃ ts' hts
    rcases hts with _ | ⟨htt, htail⟩
    rename_i t' tail'
    have hk := (hR htt).kind
    have hdecl' : ¬(t'.kind == .ident && startsDeclaration t' tail') = true := by
      rw [startsDeclaration_congr hR htt htail]
      exact hdecl
    obtain ⟨hu₁, hr₁, he₁⟩ := ih₄ (t' :: tail') (.cons htt htail)
    rcases hq' : qualifiedRule size' (t' :: tail') with ⟨rule', r₁, e1'⟩
    rw [hq, hq'] at hu₁ hr₁ he₁
    have hlt' : r₁.1.length < (t' :: tail').length := by
      rw [← hr₁.length_eq, ← (List.Forall₂.cons htt htail).length_eq]
      exact hlt
    obtain ⟨hu₂, hr₂, he₂⟩ := ih₃ r₁.1 hr₁
    rcases hbi' : blockItems size' r₁.1 with ⟨items', stop', r₂, e2'⟩
    rw [hbi, hbi'] at hu₂ hr₂ he₂
    rw [blockItems_qualified h₁ h₂ h₃ hdecl hq hlt hbi,
      blockItems_qualified (hk ▸ h₁) (hk ▸ h₂) (hk ▸ h₃) hdecl' hq' hlt' hbi']
    simp only [itemsUrls_append, itemsUrls_rules]
    exact ⟨List.rel_append hu₁ hu₂, hr₂, by simp only [List.length_append, he₁, he₂]⟩
  case _ => -- a nested qualified rule that took nothing
    intro t tail rule r e1 hq hlt h₁ h₂ h₃ hdecl ih₄ ts' hts
    rcases hts with _ | ⟨htt, htail⟩
    rename_i t' tail'
    have hk := (hR htt).kind
    have hdecl' : ¬(t'.kind == .ident && startsDeclaration t' tail') = true := by
      rw [startsDeclaration_congr hR htt htail]
      exact hdecl
    obtain ⟨hu₁, hr₁, he₁⟩ := ih₄ (t' :: tail') (.cons htt htail)
    rcases hq' : qualifiedRule size' (t' :: tail') with ⟨rule', r₁, e1'⟩
    rw [hq, hq'] at hu₁ hr₁ he₁
    have hlt' : ¬r₁.1.length < (t' :: tail').length := by
      rw [← hr₁.length_eq, ← (List.Forall₂.cons htt htail).length_eq]
      exact hlt
    rw [blockItems_qualified_stuck h₁ h₂ h₃ hdecl hq hlt,
      blockItems_qualified_stuck (hk ▸ h₁) (hk ▸ h₂) (hk ▸ h₃) hdecl' hq' hlt']
    simp only [itemsUrls_rules]
    exact ⟨hu₁, hr₁, he₁⟩
  case _ => -- a qualified rule with its block
    intro ts vals r errs hv s r2 hr hb b r3 e2 hblk ih ts' hts
    obtain ⟨vals', r', errs', hv', hp, hrest, he⟩ := values_congr_of_eq hR size size' hts hv
    rw [hr] at hrest
    obtain ⟨s', r2', hss, hr2, hr'⟩ := List.forall₂_cons_left_iff.mp hrest
    have hb' : (s'.kind == .lbrace) = true := by rw [(hR hss).kind]; exact hb
    obtain ⟨hbu, hbr, hbe⟩ := ih s' r2' hss hr2
    rcases hblk' : block size' s' r2' with ⟨b', r3', e2'⟩
    rw [hblk, hblk'] at hbu hbr hbe
    rw [qualifiedRule_block hv hr hb hblk, qualifiedRule_block hv' hr' hb' hblk']
    simp only [Option.toList_some, List.flatMap_cons, List.flatMap_nil, List.append_nil,
      Rule.urls]
    exact ⟨List.rel_append hp.2 hbu, hbr, by simp only [List.length_append, he, hbe]⟩
  case _ => -- a prelude ended by a semicolon, which is skipped
    intro ts vals r errs hv s r2 hr hb hs ts' hts
    obtain ⟨vals', r', errs', hv', -, hrest, he⟩ := values_congr_of_eq hR size size' hts hv
    rw [hr] at hrest
    obtain ⟨s', r2', hss, hr2, hr'⟩ := List.forall₂_cons_left_iff.mp hrest
    have hb' : ¬(s'.kind == .lbrace) = true := by rw [(hR hss).kind]; exact hb
    have hs' : (s'.kind == .semicolon) = true := by rw [(hR hss).kind]; exact hs
    rw [qualifiedRule_semicolon hv hr hb hs, qualifiedRule_semicolon hv' hr' hb' hs']
    exact ⟨.nil, hr2, by simp only [List.length_append, List.length_singleton, he]⟩
  case _ => -- a prelude ended by another token, left in place
    intro ts vals r errs hv s r2 hr hb hs ts' hts
    obtain ⟨vals', r', errs', hv', -, hrest, he⟩ := values_congr_of_eq hR size size' hts hv
    rw [hr] at hrest
    obtain ⟨s', r2', hss, hr2, hr'⟩ := List.forall₂_cons_left_iff.mp hrest
    have hb' : ¬(s'.kind == .lbrace) = true := by rw [(hR hss).kind]; exact hb
    have hs' : ¬(s'.kind == .semicolon) = true := by rw [(hR hss).kind]; exact hs
    rw [qualifiedRule_left hv hr hb hs, qualifiedRule_left hv' hr' hb' hs']
    exact ⟨.nil, .cons hss hr2, by simp only [List.length_append, List.length_singleton, he]⟩
  case _ => -- a prelude at the end of the text
    intro ts vals r errs hv hr ts' hts
    obtain ⟨vals', r', errs', hv', -, hrest, he⟩ := values_congr_of_eq hR size size' hts hv
    rw [hr] at hrest
    rw [qualifiedRule_end hv hr, qualifiedRule_end hv' (List.forall₂_nil_left_iff.mp hrest)]
    exact ⟨.nil, .nil, by simp only [List.length_append, List.length_singleton, he]⟩

end Rules

/-- **The top-level rules of alike tokens** hold alike references and as many errors. The
induction follows the top-level loop. -/
theorem rules_congr (hR : ∀ {t t'}, R t t' → Alike t t') (size size' : Nat) (ts : List Token) :
    ∀ ts', List.Forall₂ R ts ts' →
      List.Forall₂ (UrlAlike R) ((rules size ts).1.flatMap Rule.urls)
        ((rules size' ts').1.flatMap Rule.urls) ∧
      (rules size' ts').2.length = (rules size ts).2.length := by
  induction ts using rules.induct size with
  | case1 =>
    intro ts' hts
    cases hts
    rw [rules, rules]
    exact ⟨.nil, rfl⟩
  | case2 t tail hk rule r e1 hat rs e2 hrs ih =>
    -- an at-rule, then the other rules
    intro ts' hts
    rcases hts with _ | ⟨htt, htail⟩
    rename_i t' tail'
    obtain ⟨hu₁, hr₁, he₁⟩ := (atRule_congr hR size size').1 t tail t' tail' htt htail
    rcases hat' : atRule size' t' tail' with ⟨rule', r₁, e1'⟩
    rw [hat, hat'] at hu₁ hr₁ he₁
    obtain ⟨hu₂, he₂⟩ := ih r₁.1 hr₁
    rcases hrs' : rules size' r₁.1 with ⟨rs', e2'⟩
    rw [hrs, hrs'] at hu₂ he₂
    rw [rules_atRule hk hat hrs, rules_atRule ((hR htt).kind.trans hk) hat' hrs',
      List.flatMap_cons, List.flatMap_cons]
    exact ⟨List.rel_append hu₁ hu₂, by simp only [List.length_append, he₁, he₂]⟩
  | case3 t tail hk rs e2 hrs ih | case4 t tail hk rs e2 hrs ih =>
    -- a stray `}` or `;`, recorded and skipped
    intro ts' hts
    rcases hts with _ | ⟨htt, htail⟩
    rename_i t' tail'
    have hk' := (hR htt).kind.trans hk
    obtain ⟨hu, he⟩ := ih tail' htail
    rcases hrs' : rules size' tail' with ⟨rs', e2'⟩
    rw [hrs, hrs'] at hu he
    rw [rules_stray (by simp only [hk, true_or, or_true]) hrs,
      rules_stray (by simp only [hk', true_or, or_true]) hrs']
    exact ⟨hu, by simp only [List.length_cons, he]⟩
  | case5 t tail rule r e1 hq hlt rs e2 hrs h₁ h₂ h₃ ih =>
    -- a qualified rule, then the other rules
    intro ts' hts
    rcases hts with _ | ⟨htt, htail⟩
    rename_i t' tail'
    have hk := (hR htt).kind
    obtain ⟨hu₁, hr₁, he₁⟩ := (atRule_congr hR size size').2.2.2 (t :: tail) (t' :: tail')
      (.cons htt htail)
    rcases hq' : qualifiedRule size' (t' :: tail') with ⟨rule', r₁, e1'⟩
    rw [hq, hq'] at hu₁ hr₁ he₁
    have hlt' : r₁.1.length < (t' :: tail').length := by
      rw [← hr₁.length_eq, ← (List.Forall₂.cons htt htail).length_eq]
      exact hlt
    obtain ⟨hu₂, he₂⟩ := ih r₁.1 hr₁
    rcases hrs' : rules size' r₁.1 with ⟨rs', e2'⟩
    rw [hrs, hrs'] at hu₂ he₂
    rw [rules_qualified h₁ h₂ h₃ hq hlt hrs,
      rules_qualified (hk ▸ h₁) (hk ▸ h₂) (hk ▸ h₃) hq' hlt' hrs', List.flatMap_append,
      List.flatMap_append]
    exact ⟨List.rel_append hu₁ hu₂, by simp only [List.length_append, he₁, he₂]⟩
  | case6 t tail rule r e1 hq hlt h₁ h₂ h₃ =>
    -- a qualified rule that took nothing
    intro ts' hts
    rcases hts with _ | ⟨htt, htail⟩
    rename_i t' tail'
    have hk := (hR htt).kind
    obtain ⟨hu₁, hr₁, he₁⟩ := (atRule_congr hR size size').2.2.2 (t :: tail) (t' :: tail')
      (.cons htt htail)
    rcases hq' : qualifiedRule size' (t' :: tail') with ⟨rule', r₁, e1'⟩
    rw [hq, hq'] at hu₁ hr₁ he₁
    have hlt' : ¬r₁.1.length < (t' :: tail').length := by
      rw [← hr₁.length_eq, ← (List.Forall₂.cons htt htail).length_eq]
      exact hlt
    rw [rules_qualified_stuck h₁ h₂ h₃ hq hlt,
      rules_qualified_stuck (hk ▸ h₁) (hk ▸ h₂) (hk ▸ h₃) hq' hlt']
    exact ⟨hu₁, he₁.symm⟩

end Parser

/-! ## (5) Stylesheets -/

theorem isSignificant_congr {t t' : Token} (h : t'.kind = t.kind) :
    t'.isSignificant = t.isSignificant := by
  unfold Token.isSignificant
  rw [h]

/-- **Texts whose tokens are alike parse alike**: with as many errors, and with their references
read, in order, off related tokens. -/
theorem parse_congr (hR : ∀ {t t'}, R t t' → Alike t t') {s s' : String}
    (h : List.Forall₂ R (tokenize s) (tokenize s')) :
    (parse s').errors.length = (parse s).errors.length ∧
      List.Forall₂ (UrlAlike R) (parse s).stylesheet.urls (parse s').stylesheet.urls := by
  -- the parser sees the same significant tokens, and the scanner the same unterminated comments
  have hsig : List.Forall₂ R ((tokenize s).filter Token.isSignificant)
      ((tokenize s').filter Token.isSignificant) :=
    List.rel_filter (fun _ _ hab => by simp only [isSignificant_congr (hR hab).kind]) h
  have hlex : List.Forall₂ (fun (_ _ : ParseError) => True)
      ((tokenize s).filterMap fun t =>
        if t.kind == .unterminatedComment then some ⟨.unterminatedComment, t.span⟩ else none)
      ((tokenize s').filterMap fun t =>
        if t.kind == .unterminatedComment then some ⟨.unterminatedComment, t.span⟩ else none) :=
    List.rel_filterMap (fun a b hab => by
      rw [(hR hab).kind]
      split
      · exact .some trivial
      · exact .none) h
  obtain ⟨hu, he⟩ := Parser.rules_congr hR s.utf8ByteSize s'.utf8ByteSize _ _ hsig
  simp only [parse, Stylesheet.urls, List.length_append]
  exact ⟨by rw [he, hlex.length_eq], hu⟩

end StyleRebase.Css
