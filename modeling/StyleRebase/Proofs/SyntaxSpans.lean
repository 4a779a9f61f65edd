import StyleRebase.Proofs.MalformedTokens

/-! # The spans of a syntax tree

Whatever the text, every node the parser builds has a span of the text: both ends between
characters, the start first. Each node's span holds the spans of its children, the children of
a node come in order, and so do the comments; the stylesheet spans the whole text, and every
recorded error has a span of the text too.

The parser reads the tokens front to back, so each of its functions builds what it returns out of
a stretch of tokens: everything it builds lies between the start of the first token it read and
the start of the first token it left (the end of the text when none is left).

* **`Boundary`**, **`SpanIn`** — an offset between characters; a span of the text.
* **`ValueSpans`**, **`DeclarationSpans`**, **`RuleSpans`**, **`BlockSpans`**, **`ItemSpans`** —
  the spans of a node and of everything below it.
* **`Laid`** — nodes with their spans, in order, between two offsets.
* **`Built`**, **`Closed`** — what a parser function builds out of a stretch of tokens: laid out
  up to the tokens it leaves, or up to the end of the closing token it stops at.
* **`ParseSpans`** — the spans of a parse: stylesheet, rules, comments and errors.
* **`parse_spans`** — every parse has them. -/

namespace StyleRebase

/-- **`inner` lies within `outer`.** -/
def Span.Within (inner outer : Span) : Prop := outer.start ≤ inner.start ∧ inner.stop ≤ outer.stop

namespace Css

/-! ## (1) Spans of a text -/

/-- **An offset between two characters of the text**, or at one of its ends. -/
def Boundary (text : List Char) (o : Nat) : Prop :=
  ∃ pre post, text = pre ++ post ∧ utf8Length pre = o

/-- **A span of the text**: both ends between characters, the start first. -/
structure SpanIn (text : List Char) (sp : Span) : Prop where
  start : Boundary text sp.start
  stop : Boundary text sp.stop
  le : sp.start ≤ sp.stop

/-- **Spans in order**, each ending before the next starts. -/
def InOrder (spans : List Span) : Prop := spans.Pairwise fun a b => a.stop ≤ b.start

/-- **Nodes laid out between `lo` and `hi`**: each satisfies `P`, each span lies between the two
offsets, and the spans come in order. -/
def Laid {α : Type} (P : α → Prop) (span : α → Span) (lo hi : Nat) (xs : List α) : Prop :=
  (∀ x ∈ xs, P x) ∧ (∀ x ∈ xs, lo ≤ (span x).start ∧ (span x).stop ≤ hi) ∧ InOrder (xs.map span)

theorem Boundary.le_length {text : List Char} {o : Nat} (h : Boundary text o) :
    o ≤ utf8Length text := by
  obtain ⟨pre, post, rfl, rfl⟩ := h
  simp

theorem Boundary.zero (text : List Char) : Boundary text 0 := ⟨[], text, rfl, rfl⟩

theorem Boundary.size (text : List Char) : Boundary text (utf8Length text) :=
  ⟨text, [], (List.append_nil text).symm, rfl⟩

/-- Both ends of a located piece are boundaries. -/
theorem spanIn_of_located {text piece : List Char} {sp : Span} (h : Located text sp piece) :
    SpanIn text sp := by
  obtain ⟨pre, post, htext, hstart, hstop⟩ := h
  refine ⟨⟨pre, piece ++ post, by rw [htext, List.append_assoc], hstart.symm⟩,
    ⟨pre ++ piece, post, htext, by rw [utf8Length_append, hstop]⟩, by omega⟩

theorem SpanIn.stop_le {text : List Char} {sp : Span} (h : SpanIn text sp) :
    sp.stop ≤ utf8Length text :=
  h.stop.le_length

/-- The empty span at a boundary. -/
theorem SpanIn.empty {text : List Char} {o : Nat} (h : Boundary text o) :
    SpanIn text (Span.empty o) :=
  ⟨h, h, Nat.le_refl o⟩

namespace Laid

variable {α : Type} {P : α → Prop} {span : α → Span}

theorem nil (lo hi : Nat) : Laid P span lo hi [] := ⟨by simp, by simp, List.Pairwise.nil⟩

theorem single {x : α} {lo hi : Nat} (hx : P x) (hlo : lo ≤ (span x).start)
    (hhi : (span x).stop ≤ hi) : Laid P span lo hi [x] := by
  refine ⟨?_, ?_, List.pairwise_singleton _ _⟩
  · intro y hy
    rw [List.mem_singleton.mp hy]
    exact hx
  · intro y hy
    rw [List.mem_singleton.mp hy]
    exact ⟨hlo, hhi⟩

/-- **Nodes laid out before `hi`, then spans in order that start after it**, are in order. -/
theorem inOrder_append {xs : List α} {lo hi : Nat} (h : Laid P span lo hi xs) {spans : List Span}
    (hs : InOrder spans) (hhi : ∀ sp ∈ spans, hi ≤ sp.start) : InOrder (xs.map span ++ spans) := by
  rw [InOrder, List.pairwise_append]
  refine ⟨h.2.2, hs, ?_⟩
  intro a ha b hb
  obtain ⟨x, hx, rfl⟩ := List.mem_map.mp ha
  have := (h.2.1 x hx).2
  have := hhi b hb
  omega

/-- **Nodes laid out before `mid`, then nodes laid out after it.** -/
theorem append {xs ys : List α} {lo mid hi : Nat} (h₁ : Laid P span lo mid xs)
    (h₂ : Laid P span mid hi ys) (hmid : lo ≤ mid) (hmid' : mid ≤ hi) :
    Laid P span lo hi (xs ++ ys) := by
  refine ⟨fun x hx => ?_, fun x hx => ?_, ?_⟩
  · rcases List.mem_append.mp hx with hx | hx
    · exact h₁.1 x hx
    · exact h₂.1 x hx
  · rcases List.mem_append.mp hx with hx | hx
    · have := h₁.2.1 x hx
      omega
    · have := h₂.2.1 x hx
      omega
  · rw [InOrder, List.map_append]
    refine h₁.inOrder_append h₂.2.2 fun sp hsp => ?_
    obtain ⟨y, hy, rfl⟩ := List.mem_map.mp hsp
    exact (h₂.2.1 y hy).1

/-- Nodes laid out within a span lie within it. -/
theorem within {xs : List α} {lo hi : Nat} (h : Laid P span lo hi xs) {sp : Span}
    (hlo : sp.start ≤ lo) (hhi : hi ≤ sp.stop) : ∀ x ∈ xs, (span x).Within sp := by
  intro x hx
  have := h.2.1 x hx
  exact ⟨by omega, by omega⟩

/-- **Nodes seen as nodes of another kind**, each with the same span. -/
theorem map {β : Type} {Q : β → Prop} {span' : β → Span} {f : α → β} {xs : List α} {lo hi : Nat}
    (h : Laid P span lo hi xs) (hf : ∀ x, P x → Q (f x)) (hs : ∀ x, span' (f x) = span x) :
    Laid Q span' lo hi (xs.map f) := by
  have hmap : (xs.map f).map span' = xs.map span := by
    rw [List.map_map]
    exact List.map_congr_left fun x _ => hs x
  refine ⟨fun y hy => ?_, fun y hy => ?_, ?_⟩
  · obtain ⟨x, hx, rfl⟩ := List.mem_map.mp hy
    exact hf x (h.1 x hx)
  · obtain ⟨x, hx, rfl⟩ := List.mem_map.mp hy
    rw [hs x]
    exact h.2.1 x hx
  · rw [InOrder, hmap]
    exact h.2.2

theorem mono {xs : List α} {lo hi lo' hi' : Nat} (h : Laid P span lo hi xs) (hlo : lo' ≤ lo)
    (hhi : hi ≤ hi') : Laid P span lo' hi' xs := by
  refine ⟨h.1, fun x hx => ?_, h.2.2⟩
  have := h.2.1 x hx
  omega

theorem sublist {xs ys : List α} {lo hi : Nat} (h : Laid P span lo hi ys) (hs : xs.Sublist ys) :
    Laid P span lo hi xs :=
  ⟨fun x hx => h.1 x (hs.subset hx), fun x hx => h.2.1 x (hs.subset hx),
    h.2.2.sublist (hs.map span)⟩

/-- **The last of nodes in order ends last**, when each ends after it starts. -/
theorem stop_le_last {xs : List α} {lo hi : Nat} (h : Laid P span lo hi xs)
    (hle : ∀ x ∈ xs, (span x).start ≤ (span x).stop) {last : α} (hl : xs.getLast? = some last) :
    ∀ x ∈ xs, (span x).stop ≤ (span last).stop := by
  obtain ⟨init, rfl⟩ := List.getLast?_eq_some_iff.mp hl
  intro x hx
  rcases List.mem_append.mp hx with hx | hx
  · have hord := h.2.2
    rw [InOrder, List.map_append, List.pairwise_append] at hord
    have h₁ := hord.2.2 (span x) (List.mem_map_of_mem hx) (span last) (by simp)
    have h₂ := hle last (by simp)
    omega
  · obtain rfl := List.mem_singleton.mp hx
    exact Nat.le_refl _

end Laid

/-! ## (2) The spans of a syntax tree -/

/-- **Span of a block item.** -/
def BlockItem.span : BlockItem → Span
  | .declaration d => d.span
  | .rule r => r.span

/-- **The spans of a component value and of everything in it**: a reference spans its value, a
function or a block spans its values, which come in order, and every span is one of the text. -/
inductive ValueSpans (text : List Char) : ComponentValue → Prop
  | url {u : UrlValue} : SpanIn text u.span → SpanIn text u.valueSpan →
      u.valueSpan.Within u.span → ValueSpans text (.url u)
  | function {name : List Char} {args : List ComponentValue} {sp : Span} : SpanIn text sp →
      (∀ v ∈ args, ValueSpans text v) → (∀ v ∈ args, v.span.Within sp) →
      InOrder (args.map ComponentValue.span) → ValueSpans text (.function name args sp)
  | block {opener : Char} {vals : List ComponentValue} {sp : Span} : SpanIn text sp →
      (∀ v ∈ vals, ValueSpans text v) → (∀ v ∈ vals, v.span.Within sp) →
      InOrder (vals.map ComponentValue.span) → ValueSpans text (.block opener vals sp)
  | token {t : Token} : SpanIn text t.span → ValueSpans text (.token t)

/-- **The spans of a declaration**: its values lie in its span, in order. -/
structure DeclarationSpans (text : List Char) (d : Declaration) : Prop where
  span : SpanIn text d.span
  values : ∀ v ∈ d.value, ValueSpans text v
  inside : ∀ v ∈ d.value, v.span.Within d.span
  ordered : InOrder (d.value.map ComponentValue.span)

mutual

/-- **The spans of a rule**: its prelude and its block lie in its span, in that order. -/
inductive RuleSpans (text : List Char) : Rule → Prop
  | atRule {name : List Char} {prelude : List ComponentValue} {body : Option Block} {sp : Span} :
      SpanIn text sp → (∀ v ∈ prelude, ValueSpans text v) →
      (∀ v ∈ prelude, v.span.Within sp) → (∀ b ∈ body, BlockSpans text b) →
      (∀ b ∈ body, b.span.Within sp) →
      InOrder (prelude.map ComponentValue.span ++ (body.map Block.span).toList) →
      RuleSpans text (.atRule name prelude body sp)
  | qualified {prelude : List ComponentValue} {body : Block} {sp : Span} :
      SpanIn text sp → (∀ v ∈ prelude, ValueSpans text v) →
      (∀ v ∈ prelude, v.span.Within sp) → BlockSpans text body → body.span.Within sp →
      InOrder (prelude.map ComponentValue.span ++ [body.span]) →
      RuleSpans text (.qualified prelude body sp)

/-- **The spans of a block**: its items lie in its span, in order. -/
inductive BlockSpans (text : List Char) : Block → Prop
  | mk {items : List BlockItem} {sp : Span} : SpanIn text sp →
      (∀ i ∈ items, ItemSpans text i) → (∀ i ∈ items, i.span.Within sp) →
      InOrder (items.map BlockItem.span) → BlockSpans text (.mk items sp)

/-- **The spans of a block item.** -/
inductive ItemSpans (text : List Char) : BlockItem → Prop
  | declaration {d : Declaration} : DeclarationSpans text d → ItemSpans text (.declaration d)
  | rule {r : Rule} : RuleSpans text r → ItemSpans text (.rule r)

end

/-- **The spans of a parse of `s`**: the stylesheet spans the text; its rules, with all they hold,
its comments and the errors have spans of the text; the rules and the comments come in order. -/
structure ParseSpans (s : String) (p : ParseResult) : Prop where
  sheet : p.stylesheet.span = ⟨0, s.utf8ByteSize⟩
  rules : ∀ r ∈ p.stylesheet.rules, RuleSpans s.toList r
  rules_ordered : InOrder (p.stylesheet.rules.map Rule.span)
  comments : ∀ c ∈ p.stylesheet.comments, SpanIn s.toList c.span
  comments_ordered : InOrder (p.stylesheet.comments.map Comment.span)
  errors : ∀ e ∈ p.errors, SpanIn s.toList e.span

theorem ValueSpans.spanIn {text : List Char} {v : ComponentValue} (h : ValueSpans text v) :
    SpanIn text v.span := by
  cases h with
  | url hs _ _ => exact hs
  | function hs _ _ _ => exact hs
  | block hs _ _ _ => exact hs
  | token hs => exact hs

theorem ItemSpans.spanIn {text : List Char} {i : BlockItem} (h : ItemSpans text i) :
    SpanIn text i.span := by
  cases h with
  | declaration hd => exact hd.span
  | rule hr =>
    cases hr with
    | atRule hs _ _ _ _ _ => exact hs
    | qualified hs _ _ _ _ _ => exact hs

theorem RuleSpans.spanIn {text : List Char} {r : Rule} (h : RuleSpans text r) :
    SpanIn text r.span := by
  cases h with
  | atRule hs _ _ _ _ _ => exact hs
  | qualified hs _ _ _ _ _ => exact hs

theorem BlockSpans.spanIn {text : List Char} {b : Block} (h : BlockSpans text b) :
    SpanIn text b.span := by
  cases h with
  | mk hs _ _ _ => exact hs

/-! ## (3) The tokens the parser reads -/

/-- **Tokens of the text**, in order, each reading its characters at its span. -/
structure TokensIn (text : List Char) (ts : List Token) : Prop where
  ok : ∀ t ∈ ts, TokenOk text t
  ordered : ts.Pairwise fun a b => a.span.stop ≤ b.span.start

/-- **The front of the tokens left**: where the first of them starts, or the end of the text. -/
def front (size : Nat) : List Token → Nat
  | [] => size
  | t :: _ => t.span.start

namespace TokensIn

variable {text : List Char} {ts : List Token}

theorem tail {t : Token} (h : TokensIn text (t :: ts)) : TokensIn text ts :=
  ⟨fun u hu => h.ok u (List.mem_cons_of_mem t hu), (List.pairwise_cons.mp h.ordered).2⟩

theorem suffix {pre : List Token} (h : TokensIn text (pre ++ ts)) : TokensIn text ts :=
  ⟨fun u hu => h.ok u (List.mem_append_right pre hu), (List.pairwise_append.mp h.ordered).2.1⟩

theorem head_spanIn {t : Token} (h : TokensIn text (t :: ts)) : SpanIn text t.span :=
  spanIn_of_located (h.ok t List.mem_cons_self).located

/-- The front of the tokens is between two characters. -/
theorem front_boundary (h : TokensIn text ts) : Boundary text (front (utf8Length text) ts) := by
  cases ts with
  | nil => exact Boundary.size text
  | cons t ts => exact h.head_spanIn.start

/-- **A token ends before the front of the tokens after it.** -/
theorem stop_le_front {t : Token} (h : TokensIn text (t :: ts)) :
    t.span.stop ≤ front (utf8Length text) ts := by
  cases ts with
  | nil => exact h.head_spanIn.stop_le
  | cons u ts => exact (List.pairwise_cons.mp h.ordered).1 u List.mem_cons_self

theorem front_le_tail {t : Token} (h : TokensIn text (t :: ts)) :
    front (utf8Length text) (t :: ts) ≤ front (utf8Length text) ts :=
  Nat.le_trans h.head_spanIn.le h.stop_le_front

/-- **The front only moves forward** as tokens are taken. -/
theorem front_le {pre : List Token} (h : TokensIn text (pre ++ ts)) :
    front (utf8Length text) (pre ++ ts) ≤ front (utf8Length text) ts := by
  cases pre with
  | nil => exact Nat.le_refl _
  | cons t pre => exact Nat.le_trans h.front_le_tail (front_le h.tail)

theorem front_le_size (h : TokensIn text ts) : front (utf8Length text) ts ≤ utf8Length text :=
  h.front_boundary.le_length

end TokensIn

/-- **Errors with spans of the text.** -/
def ErrorsIn (text : List Char) (errs : List ParseError) : Prop := ∀ e ∈ errs, SpanIn text e.span

/-- **What a parser built out of a stretch of tokens**: nodes laid out from the front of the
tokens it started on to the front of the tokens it left, and errors with spans of the text. -/
def Built {α : Type} (P : α → Prop) (span : α → Span) (text : List Char) (ts rest : List Token)
    (xs : List α) (errs : List ParseError) : Prop :=
  Laid P span (front (utf8Length text) ts) (front (utf8Length text) rest) xs ∧ ErrorsIn text errs

/-- **What a parser built up to a closing token** that ends at `stop`: nodes laid out from the
front of its tokens to `stop`, which lies between that front and the front of the tokens left. -/
def Closed {α : Type} (P : α → Prop) (span : α → Span) (text : List Char) (ts rest : List Token)
    (stop : Nat) (xs : List α) (errs : List ParseError) : Prop :=
  Laid P span (front (utf8Length text) ts) stop xs ∧ front (utf8Length text) ts ≤ stop ∧
    stop ≤ front (utf8Length text) rest ∧ Boundary text stop ∧ ErrorsIn text errs

theorem ErrorsIn.append {text : List Char} {e₁ e₂ : List ParseError} (h₁ : ErrorsIn text e₁)
    (h₂ : ErrorsIn text e₂) : ErrorsIn text (e₁ ++ e₂) := by
  intro e he
  rcases List.mem_append.mp he with he | he
  · exact h₁ e he
  · exact h₂ e he

theorem ErrorsIn.single {text : List Char} {e : ParseError} (h : SpanIn text e.span) :
    ErrorsIn text [e] := by
  intro e' he
  rw [List.mem_singleton.mp he]
  exact h

/-- The error for an unexpected token names a span of the text. -/
theorem TokensIn.unexpected {text : List Char} {ts : List Token} (h : TokensIn text ts)
    (expected : String) : SpanIn text (Parser.unexpected (utf8Length text) expected ts).span := by
  cases ts with
  | nil => exact SpanIn.empty (Boundary.size text)
  | cons t ts => exact h.head_spanIn

/-- **The tokens left by a parser are a suffix of those it read**, so they are tokens of the text,
and their front lies further on. -/
theorem TokensIn.of_suffix {text : List Char} {ts rest : List Token} (h : TokensIn text ts)
    (hs : ∃ pre, ts = pre ++ rest) :
    TokensIn text rest ∧ front (utf8Length text) ts ≤ front (utf8Length text) rest := by
  obtain ⟨pre, rfl⟩ := hs
  exact ⟨h.suffix, h.front_le⟩

theorem TokensIn.of_took {text : List Char} {ts rest : List Token} {urls : List UrlValue}
    (h : TokensIn text ts) (ht : Took ts urls rest) :
    TokensIn text rest ∧ front (utf8Length text) ts ≤ front (utf8Length text) rest := by
  obtain ⟨pre, hts, -⟩ := ht
  exact h.of_suffix ⟨pre, hts⟩

/-- **The tokens after a component value** are tokens of the text, further on. -/
theorem TokensIn.after_componentValue {text : List Char} {t : Token} {tail : List Token}
    (h : TokensIn text (t :: tail)) :
    TokensIn text (Parser.componentValue (utf8Length text) t tail).2.1.1 ∧
      front (utf8Length text) (t :: tail) ≤
        front (utf8Length text) (Parser.componentValue (utf8Length text) t tail).2.1.1 := by
  obtain ⟨pre, hts, -⟩ := (Parser.componentValue_took (utf8Length text)).1 t tail
  exact h.of_suffix ⟨pre, hts⟩

/-- **What is read off tokens one for one keeps their spans**: each piece has the span of a token
of the text, and the pieces come in the tokens' order. -/
theorem TokensIn.filterMap {β : Type} {text : List Char} {ts : List Token} (h : TokensIn text ts)
    {f : Token → Option β} {sp : β → Span} (hf : ∀ t b, f t = some b → sp b = t.span) :
    (∀ b ∈ ts.filterMap f, SpanIn text (sp b)) ∧ InOrder ((ts.filterMap f).map sp) := by
  constructor
  · intro b hb
    obtain ⟨t, ht, hfb⟩ := List.mem_filterMap.mp hb
    rw [hf t b hfb]
    exact spanIn_of_located (h.ok t ht).located
  · rw [InOrder, List.pairwise_map]
    refine h.ordered.filterMap f fun a a' hle b hb b' hb' => ?_
    rw [hf a b hb, hf a' b' hb']
    exact hle

section Assembly

variable {α β : Type} {P : α → Prop} {span : α → Span} {text : List Char}
  {ts r rest : List Token} {xs ys : List α} {e₁ e₂ : List ParseError}

theorem Built.map {Q : β → Prop} {span' : β → Span} {f : α → β}
    (h : Built P span text ts rest xs e₁) (hf : ∀ x, P x → Q (f x))
    (hs : ∀ x, span' (f x) = span x) : Built Q span' text ts rest (xs.map f) e₁ :=
  ⟨h.1.map hf hs, h.2⟩

/-- **What one parser built, then what the next built from the tokens left.** -/
theorem Built.append (h₁ : Built P span text ts r xs e₁) (h₂ : Built P span text r rest ys e₂)
    (hfront : front (utf8Length text) ts ≤ front (utf8Length text) r)
    (hfront' : front (utf8Length text) r ≤ front (utf8Length text) rest) :
    Built P span text ts rest (xs ++ ys) (e₁ ++ e₂) :=
  ⟨h₁.1.append h₂.1 hfront hfront', h₁.2.append h₂.2⟩

/-- **What one parser built, then what the next built up to a closing token.** -/
theorem Closed.after {stop : Nat} (h₁ : Built P span text ts r xs e₁)
    (h₂ : Closed P span text r rest stop ys e₂)
    (hfront : front (utf8Length text) ts ≤ front (utf8Length text) r) :
    Closed P span text ts rest stop (xs ++ ys) (e₁ ++ e₂) := by
  obtain ⟨hlaid, hlo, hhi, hstop, herrs⟩ := h₂
  exact ⟨h₁.1.append hlaid hfront hlo, Nat.le_trans hfront hlo, hhi, hstop, h₁.2.append herrs⟩

end Assembly

/-! ## (4) Values -/

namespace Parser

variable (text : List Char)

/-- **An unquoted reference spans its value.** -/
theorem valueSpans_unquotedUrl {t : Token} (ht : TokenOk text t) (hk : t.kind = .url) :
    ValueSpans text (.url (unquotedUrl t)) := by
  obtain ⟨hloc, hstart, hstop⟩ := ReadsOff.unquoted_located ht hk
  exact .url (spanIn_of_located ht.located) (spanIn_of_located hloc) ⟨hstart, hstop⟩

/-- **A function value spans its arguments**, and so does the quoted reference it may be read
as: the string it holds is one of them. -/
theorem valueSpans_functionValue (name : List Char) {args : List ComponentValue} {sp : Span}
    (hsp : SpanIn text sp) (hargs : Laid (ValueSpans text) ComponentValue.span sp.start sp.stop args) :
    ValueSpans text (functionValue name args sp) ∧ (functionValue name args sp).span = sp := by
  have hfun : ValueSpans text (.function name args sp) :=
    .function hsp hargs.1 hargs.2.1 hargs.2.2
  unfold functionValue
  split
  · split
    · rename_i a tail
      split
      · -- the string is the first argument
        have ha : ComponentValue.token a ∈ ComponentValue.token a :: tail := List.mem_cons_self
        have hspan : SpanIn text a.span := by
          cases hargs.1 _ ha with
          | token h => exact h
        exact ⟨.url hsp hspan (hargs.2.1 _ ha), rfl⟩
      · exact ⟨hfun, rfl⟩
    · exact ⟨hfun, rfl⟩
  · exact ⟨hfun, rfl⟩

/-- **Values span what they are built from**: a component value lies within the tokens it takes,
and the values nested after an opening token lie between it and the end of their block, which
is where the closing bracket ends, where a different closing bracket starts, or the end of the
text. The induction follows the parser's own mutual recursion. -/
theorem componentValue_spans :
    (∀ t ts, TokensIn text (t :: ts) →
      Built (ValueSpans text) ComponentValue.span text (t :: ts)
        (componentValue (utf8Length text) t ts).2.1.1
        (componentValue (utf8Length text) t ts).1.toList
        (componentValue (utf8Length text) t ts).2.2) ∧
    (∀ close closeChar ts, TokensIn text ts →
      Closed (ValueSpans text) ComponentValue.span text ts
        (nested (utf8Length text) close closeChar ts).2.2.1.1
        (nested (utf8Length text) close closeChar ts).2.1
        (nested (utf8Length text) close closeChar ts).1
        (nested (utf8Length text) close closeChar ts).2.2.2) := by
  apply componentValue.mutual_induct (utf8Length text)
    (fun t ts => TokensIn text (t :: ts) →
      Built (ValueSpans text) ComponentValue.span text (t :: ts)
        (componentValue (utf8Length text) t ts).2.1.1
        (componentValue (utf8Length text) t ts).1.toList
        (componentValue (utf8Length text) t ts).2.2)
    (fun close closeChar ts => TokensIn text ts →
      Closed (ValueSpans text) ComponentValue.span text ts
        (nested (utf8Length text) close closeChar ts).2.2.1.1
        (nested (utf8Length text) close closeChar ts).2.1
        (nested (utf8Length text) close closeChar ts).1
        (nested (utf8Length text) close closeChar ts).2.2.2)
  case _ => -- an unquoted reference
    intro t ts ht htok
    rw [componentValue_url ht]
    exact ⟨.single (valueSpans_unquotedUrl text (htok.ok t List.mem_cons_self) ht)
      (Nat.le_refl _) (htok.stop_le_front), fun _ h => by cases h⟩
  case _ => -- a function
    intro t ts ht args stop rest errs hn ih htok
    rw [hn] at ih
    dsimp only at ih
    obtain ⟨hargs, hlo, hhi, hstop, herrs⟩ := ih htok.tail
    have hsp : SpanIn text ⟨t.span.start, stop⟩ :=
      ⟨htok.head_spanIn.start, hstop, by
        have := htok.head_spanIn.le
        have := htok.stop_le_front
        dsimp only
        omega⟩
    have harg : t.span.stop ≤ front (utf8Length text) ts := htok.stop_le_front
    obtain ⟨hv, hspan⟩ := valueSpans_functionValue text t.text.dropLast hsp
      (hargs.mono (Nat.le_trans htok.head_spanIn.le harg) (Nat.le_refl _))
    rw [componentValue_function ht hn]
    refine ⟨.single hv (by rw [hspan]; exact Nat.le_refl _) (by rw [hspan]; exact hhi), herrs⟩
  case _ | _ | _ => -- a block
    intro t ts ht close closeChar hcl vals stop rest errs hn ih htok
    rw [hn] at ih
    dsimp only at ih
    obtain ⟨hvals, hlo, hhi, hstop, herrs⟩ := ih htok.tail
    have harg : t.span.stop ≤ front (utf8Length text) ts := htok.stop_le_front
    have hsp : SpanIn text ⟨t.span.start, stop⟩ :=
      ⟨htok.head_spanIn.start, hstop, by
        have := htok.head_spanIn.le
        dsimp only
        omega⟩
    have hv : ValueSpans text (.block (openerOf t.kind) vals ⟨t.span.start, stop⟩) := by
      have hvals' := hvals.mono (Nat.le_trans htok.head_spanIn.le harg) (Nat.le_refl stop)
      exact .block hsp hvals'.1 hvals'.2.1 hvals'.2.2
    rw [componentValue_block (by simp only [ht, true_or, or_true]) hcl hn]
    exact ⟨.single hv (Nat.le_refl _) hhi, herrs⟩
  case _ | _ | _ | _ | _ | _ => -- a token recorded as an error
    intro t ts ht htok
    rw [componentValue]
    simp only [ht]
    exact ⟨Laid.nil _ _, .single htok.head_spanIn⟩
  case _ => -- any other token is a value of its own
    intro t ts h1 h2 h3 h4 h5 h6 h7 h8 h9 h10 h11 htok
    rw [componentValue_other h1 h2 h3 h4 h5 h6 h7 h8 h9 h10 h11]
    exact ⟨.single (.token htok.head_spanIn) (Nat.le_refl _) htok.stop_le_front,
      fun _ h => by cases h⟩
  case _ => -- no tokens left
    intro close closeChar _
    rw [nested]
    exact ⟨Laid.nil _ _, Nat.le_refl _, Nat.le_refl _, Boundary.size text,
      .single (SpanIn.empty (Boundary.size text))⟩
  case _ => -- the closing bracket
    intro close closeChar t tail hc htok
    rw [nested_close hc]
    exact ⟨Laid.nil _ _, htok.head_spanIn.le, htok.stop_le_front, htok.head_spanIn.stop,
      fun _ h => by cases h⟩
  case _ => -- a different closing bracket, left in place
    intro close closeChar t tail hc hcl htok
    rw [nested_mismatched hc hcl]
    exact ⟨Laid.nil _ _, Nat.le_refl _, Nat.le_refl _, htok.head_spanIn.start,
      .single htok.head_spanIn⟩
  case _ => -- one value, then the rest
    intro close closeChar t tail hc hcl v r errs hcv vs stop r' errs' hn ih₁ ih₂ htok
    rw [hcv] at ih₁
    rw [hn] at ih₂
    dsimp only at ih₁ ih₂
    have hnext := htok.after_componentValue
    rw [hcv] at hnext
    obtain ⟨htok', hfront⟩ := hnext
    rw [nested_value hc hcl hcv hn]
    exact Closed.after (ih₁ htok) (ih₂ htok') hfront

/-- **Values up to a stop token span the tokens before it.** -/
theorem values_spans (stop : TokenKind → Bool) (ts : List Token) (htok : TokensIn text ts) :
    Built (ValueSpans text) ComponentValue.span text ts
      (values (utf8Length text) stop ts).2.1.1 (values (utf8Length text) stop ts).1
      (values (utf8Length text) stop ts).2.2 := by
  induction ts using values.induct (utf8Length text) stop with
  | case1 =>
    rw [values]
    exact ⟨Laid.nil _ _, fun _ h => by cases h⟩
  | case2 t tail hstop =>
    rw [values_stop hstop]
    exact ⟨Laid.nil _ _, fun _ h => by cases h⟩
  | case3 t tail hstop v r errs hcv vs r' errs' hvs ih =>
    rw [hvs] at ih
    have hnext := htok.after_componentValue
    rw [hcv] at hnext
    obtain ⟨htok', hfront⟩ := hnext
    have hv := (componentValue_spans text).1 t tail htok
    rw [hcv] at hv
    have hmid : front (utf8Length text) r.1 ≤ front (utf8Length text) r'.1 := by
      obtain ⟨pre, hts, -⟩ := values_took_of_eq (utf8Length text) hvs
      exact (htok'.of_suffix ⟨pre, hts⟩).2
    rw [values_value hstop hcv hvs]
    exact Built.append hv (ih htok') hfront hmid

theorem values_spans_of_eq {stop : TokenKind → Bool} {ts : List Token}
    {vals : List ComponentValue} {r : Rest ts} {errs : List ParseError}
    (hv : values (utf8Length text) stop ts = (vals, r, errs)) (htok : TokensIn text ts) :
    Built (ValueSpans text) ComponentValue.span text ts r.1 vals errs ∧ TokensIn text r.1 ∧
      front (utf8Length text) ts ≤ front (utf8Length text) r.1 := by
  have h := values_spans text stop ts htok
  rw [hv] at h
  obtain ⟨pre, hts, -⟩ := values_took_of_eq (utf8Length text) hv
  exact ⟨h, htok.of_suffix ⟨pre, hts⟩⟩

/-- **The end of a construct that ends with its last value**, or at `d` when it has none: a
boundary at or after `d`, after every value, and no further than the values may reach. -/
theorem stop_of_last {vals : List ComponentValue} {lo hi d stop : Nat}
    (h : Laid (ValueSpans text) ComponentValue.span lo hi vals) (hlohi : lo ≤ hi) (hd : d ≤ lo)
    (hdb : Boundary text d)
    (hstop : vals.getLast? = none ∧ stop = d ∨ ∃ v, vals.getLast? = some v ∧ stop = v.span.stop) :
    Boundary text stop ∧ d ≤ stop ∧ stop ≤ hi ∧
      Laid (ValueSpans text) ComponentValue.span lo stop vals := by
  rcases hstop with ⟨hnone, rfl⟩ | ⟨v, hv, rfl⟩
  · rw [List.getLast?_eq_none_iff.mp hnone]
    exact ⟨hdb, Nat.le_refl _, Nat.le_trans hd hlohi, Laid.nil _ _⟩
  · -- the last value ends after every other one
    have hmem := List.mem_of_getLast? hv
    have hle : ∀ x ∈ vals, x.span.start ≤ x.span.stop := fun x hx => (h.1 x hx).spanIn.le
    have hlast := h.stop_le_last hle hv
    have hbound := h.2.1 v hmem
    refine ⟨(h.1 v hmem).spanIn.stop, ?_, hbound.2, ⟨h.1, fun x hx => ?_, h.2.2⟩⟩
    · have := hle v hmem
      omega
    · exact ⟨(h.2.1 x hx).1, hlast x hx⟩

/-- Dropping `! important` keeps a front part of the values. -/
theorem stripImportant_sublist (vals : List ComponentValue) :
    (stripImportant vals).1.Sublist vals := by
  unfold stripImportant
  split
  · rename_i i b before h
    split
    · have hvals : vals = before.reverse ++ [.token b, .token i] := by
        rw [← List.reverse_reverse vals, h]
        simp
      rw [hvals]
      exact List.sublist_append_left _ _
    · exact List.Sublist.refl _
  · exact List.Sublist.refl _

/-- **A declaration spans its values**: it runs from its name to its last value, or to its
colon when it has none; what it keeps of its values lies within. -/
theorem declarationSpans_of {t c : Token} {rest r : List Token} {vals vals' : List ComponentValue}
    {stop : Nat} (htok : TokensIn text (t :: c :: rest))
    (hvals : Laid (ValueSpans text) ComponentValue.span (front (utf8Length text) rest)
      (front (utf8Length text) r) vals)
    (hfront : front (utf8Length text) rest ≤ front (utf8Length text) r)
    (hstop : vals.getLast? = none ∧ stop = max t.span.stop c.span.stop ∨
      ∃ v, vals.getLast? = some v ∧ stop = v.span.stop)
    (name : List Char) (important : Bool) (hsub : vals'.Sublist vals) :
    DeclarationSpans text ⟨name, vals', important, ⟨t.span.start, stop⟩⟩ ∧
      stop ≤ front (utf8Length text) r := by
  -- the name and the colon come before the values
  have ht := htok.head_spanIn
  have hc := htok.tail.head_spanIn
  have htc : t.span.stop ≤ c.span.start := htok.stop_le_front
  have hcr : c.span.stop ≤ front (utf8Length text) rest := htok.tail.stop_le_front
  have hdb : Boundary text (max t.span.stop c.span.stop) := by
    rcases Nat.le_total t.span.stop c.span.stop with h | h
    · rw [Nat.max_eq_right h]
      exact hc.stop
    · rw [Nat.max_eq_left h]
      exact ht.stop
  obtain ⟨hsb, hds, hsr, hlaid⟩ := stop_of_last text hvals hfront
    (by have := hc.le; omega) hdb hstop
  have hsp : SpanIn text ⟨t.span.start, stop⟩ := ⟨ht.start, hsb, by
    have := ht.le
    dsimp only
    omega⟩
  have hlaid' : Laid (ValueSpans text) ComponentValue.span t.span.start stop vals' :=
    (hlaid.mono (by have := hc.le; have := ht.le; omega) (Nat.le_refl _)).sublist hsub
  exact ⟨⟨hsp, hlaid'.1, hlaid'.2.1, hlaid'.2.2⟩, hsr⟩

/-- **A declaration spans its name, its colon and its values.** -/
theorem declaration_spans (t : Token) (ts : List Token) (htok : TokensIn text (t :: ts)) :
    Built (DeclarationSpans text) Declaration.span text (t :: ts)
      (declaration (utf8Length text) t ts).2.1.1 (declaration (utf8Length text) t ts).1.toList
      (declaration (utf8Length text) t ts).2.2 := by
  cases ts with
  | nil =>
    simp only [declaration]
    exact ⟨Laid.nil _ _, .single (htok.tail.unexpected _)⟩
  | cons c rest =>
    simp only [declaration]
    split
    · obtain ⟨⟨hvals, herrs⟩, -, hfront⟩ :=
        values_spans_of_eq text (r := (values (utf8Length text) declarationStop rest).2.1)
          rfl htok.tail.tail
      have hsub := stripImportant_sublist (values (utf8Length text) declarationStop rest).1
      rcases hl : (values (utf8Length text) declarationStop rest).1.getLast? with _ | v
      · obtain ⟨hd, hr⟩ := declarationSpans_of text htok hvals hfront (.inl ⟨hl, rfl⟩) t.text
          (stripImportant (values (utf8Length text) declarationStop rest).1).2 hsub
        dsimp only
        exact ⟨.single hd (Nat.le_refl _) hr, herrs⟩
      · obtain ⟨hd, hr⟩ := declarationSpans_of text htok hvals hfront (.inr ⟨v, hl, rfl⟩) t.text
          (stripImportant (values (utf8Length text) declarationStop rest).1).2 hsub
        dsimp only
        exact ⟨.single hd (Nat.le_refl _) hr, herrs⟩
    · obtain ⟨⟨-, herrs⟩, -, -⟩ :=
        values_spans_of_eq text (r := (values (utf8Length text) declarationStop (c :: rest)).2.1)
          rfl htok.tail
      exact ⟨Laid.nil _ _, ErrorsIn.append (.single (htok.tail.unexpected _)) herrs⟩

/-! ## (5) Rules -/

/-- **An at-rule spans its keyword, its prelude and what ends it**: its prelude lies after the
keyword and before `mid`, its block, if any, between `mid` and the rule's end `stop`, and the
tokens left start after `stop`. -/
theorem atRule_built {t : Token} {ts rest : List Token} {vals : List ComponentValue}
    {body : Option Block} {mid stop : Nat} {errs : List ParseError} (name : List Char)
    (htok : TokensIn text (t :: ts))
    (hvals : Laid (ValueSpans text) ComponentValue.span (front (utf8Length text) ts) mid vals)
    (hlo : t.span.stop ≤ mid) (hmid : mid ≤ stop)
    (hbody : ∀ b ∈ body, BlockSpans text b ∧ mid ≤ b.span.start ∧ b.span.stop ≤ stop)
    (hstop : Boundary text stop) (hrest : stop ≤ front (utf8Length text) rest)
    (herrs : ErrorsIn text errs) :
    Built (RuleSpans text) Rule.span text (t :: ts) rest
      [.atRule name vals body ⟨t.span.start, stop⟩] errs := by
  have ht := htok.head_spanIn
  have hvals' := hvals.mono htok.front_le_tail (Nat.le_refl mid)
  have hsp : SpanIn text ⟨t.span.start, stop⟩ :=
    ⟨ht.start, hstop, Nat.le_trans ht.le (Nat.le_trans hlo hmid)⟩
  -- the block comes after the prelude
  have hord : InOrder (vals.map ComponentValue.span ++ (body.map Block.span).toList) := by
    refine hvals.inOrder_append ?_ fun sp hsp => ?_
    · cases body with
      | none => exact List.Pairwise.nil
      | some b => exact List.pairwise_singleton _ _
    · cases body with
      | none => cases hsp
      | some b =>
        rw [List.mem_singleton.mp hsp]
        exact (hbody b rfl).2.1
  have hrule : RuleSpans text (.atRule name vals body ⟨t.span.start, stop⟩) :=
    .atRule hsp hvals'.1 (hvals'.within (Nat.le_refl _) hmid) (fun b hb => (hbody b hb).1)
      (fun b hb => ⟨Nat.le_trans ht.le (Nat.le_trans hlo (hbody b hb).2.1), (hbody b hb).2.2⟩) hord
  exact ⟨.single hrule (Nat.le_refl _) hrest, herrs⟩

/-- **An at-rule without a block ends with its prelude**: at its last value, or at its keyword
when the prelude is empty. -/
theorem atRule_ended {t : Token} {ts rest : List Token} {vals : List ComponentValue} {stop : Nat}
    {errs : List ParseError} (name : List Char) (htok : TokensIn text (t :: ts))
    (hvals : Laid (ValueSpans text) ComponentValue.span (front (utf8Length text) ts)
      (front (utf8Length text) rest) vals)
    (hfront : front (utf8Length text) ts ≤ front (utf8Length text) rest)
    (hstop : vals.getLast? = none ∧ stop = t.span.stop ∨
      ∃ v, vals.getLast? = some v ∧ stop = v.span.stop)
    (herrs : ErrorsIn text errs) :
    Built (RuleSpans text) Rule.span text (t :: ts) rest
      [.atRule name vals none ⟨t.span.start, stop⟩] errs := by
  have ht := htok.head_spanIn
  obtain ⟨hsb, hds, hsr, hlaid⟩ := stop_of_last text hvals hfront htok.stop_le_front ht.stop hstop
  exact atRule_built text name htok hlaid hds (Nat.le_refl _) (fun b hb => by cases hb) hsb hsr
    herrs

/-- **A qualified rule spans its prelude and its block**, from the front of its tokens to the end
of its block. -/
theorem qualifiedRule_built {ts rest : List Token} {vals : List ComponentValue} {b : Block}
    {mid : Nat} {errs : List ParseError} (htok : TokensIn text ts)
    (hvals : Laid (ValueSpans text) ComponentValue.span (front (utf8Length text) ts) mid vals)
    (hlo : front (utf8Length text) ts ≤ mid) (hb : BlockSpans text b) (hmid : mid ≤ b.span.start)
    (hrest : b.span.stop ≤ front (utf8Length text) rest) (herrs : ErrorsIn text errs) :
    Built (RuleSpans text) Rule.span text ts rest
      [.qualified vals b ⟨front (utf8Length text) ts, b.span.stop⟩] errs := by
  have hble := hb.spanIn.le
  have hsp : SpanIn text ⟨front (utf8Length text) ts, b.span.stop⟩ :=
    ⟨htok.front_boundary, hb.spanIn.stop, by dsimp only; omega⟩
  have hrule : RuleSpans text (.qualified vals b ⟨front (utf8Length text) ts, b.span.stop⟩) :=
    .qualified hsp hvals.1 (hvals.within (Nat.le_refl _) (by dsimp only; omega)) hb
      ⟨by dsimp only; omega, Nat.le_refl _⟩
      (hvals.inOrder_append (List.pairwise_singleton _ _) fun sp hsp => by
        rw [List.mem_singleton.mp hsp]
        exact hmid)
  exact ⟨.single hrule (Nat.le_refl _) hrest, herrs⟩

/-- **Rules span what they are built from**: an at-rule its keyword, its prelude and its `;` or
block; a block its `{` and its items, up to the `}` that closes it or the end of the text; a
qualified rule its prelude and block. The items of a block lie in order between the front of
their tokens and the end of the block. The induction follows the parser's mutual recursion over
rules. -/
theorem atRule_spans :
    (∀ t ts, TokensIn text (t :: ts) →
      Built (RuleSpans text) Rule.span text (t :: ts) (atRule (utf8Length text) t ts).2.1.1
        [(atRule (utf8Length text) t ts).1] (atRule (utf8Length text) t ts).2.2) ∧
    (∀ t ts, TokensIn text (t :: ts) →
      Built (BlockSpans text) Block.span text (t :: ts) (block (utf8Length text) t ts).2.1.1
        [(block (utf8Length text) t ts).1] (block (utf8Length text) t ts).2.2) ∧
    (∀ ts, TokensIn text ts →
      Closed (ItemSpans text) BlockItem.span text ts (blockItems (utf8Length text) ts).2.2.1.1
        (blockItems (utf8Length text) ts).2.1 (blockItems (utf8Length text) ts).1
        (blockItems (utf8Length text) ts).2.2.2) ∧
    (∀ ts, TokensIn text ts →
      Built (RuleSpans text) Rule.span text ts (qualifiedRule (utf8Length text) ts).2.1.1
        (qualifiedRule (utf8Length text) ts).1.toList (qualifiedRule (utf8Length text) ts).2.2) := by
  apply atRule.mutual_induct (utf8Length text)
    (fun t ts => TokensIn text (t :: ts) →
      Built (RuleSpans text) Rule.span text (t :: ts) (atRule (utf8Length text) t ts).2.1.1
        [(atRule (utf8Length text) t ts).1] (atRule (utf8Length text) t ts).2.2)
    (fun t ts => TokensIn text (t :: ts) →
      Built (BlockSpans text) Block.span text (t :: ts) (block (utf8Length text) t ts).2.1.1
        [(block (utf8Length text) t ts).1] (block (utf8Length text) t ts).2.2)
    (fun ts => TokensIn text ts →
      Closed (ItemSpans text) BlockItem.span text ts (blockItems (utf8Length text) ts).2.2.1.1
        (blockItems (utf8Length text) ts).2.1 (blockItems (utf8Length text) ts).1
        (blockItems (utf8Length text) ts).2.2.2)
    (fun ts => TokensIn text ts →
      Built (RuleSpans text) Rule.span text ts (qualifiedRule (utf8Length text) ts).2.1.1
        (qualifiedRule (utf8Length text) ts).1.toList (qualifiedRule (utf8Length text) ts).2.2)
  case _ => -- an at-rule ending with `;`
    intro t ts vals r errs hv s r2 hr hs htok
    obtain ⟨⟨hvals, herrs⟩, htok', hfront⟩ := values_spans_of_eq text hv htok.tail
    rw [hr] at hvals htok' hfront
    rw [atRule_semicolon hv hr hs]
    have hs' := htok'.head_spanIn
    exact atRule_built text _ htok hvals (Nat.le_trans htok.stop_le_front hfront) hs'.le
      (fun b hb => by cases hb) hs'.stop htok'.stop_le_front herrs
  case _ => -- an at-rule with a block
    intro t ts vals r errs hv s r2 hr hs hb b r3 e2 hblk ih htok
    obtain ⟨⟨hvals, herrs⟩, htok', hfront⟩ := values_spans_of_eq text hv htok.tail
    rw [hr] at hvals htok' hfront
    rw [hblk] at ih
    rw [atRule_block hv hr hs hb hblk]
    obtain ⟨hblock, herrs'⟩ := ih htok'
    have hbs := hblock.1 b List.mem_cons_self
    have hbl := hblock.2.1 b List.mem_cons_self
    exact atRule_built text _ htok hvals (Nat.le_trans htok.stop_le_front hfront)
      (Nat.le_trans hbl.1 hbs.spanIn.le) (fun b' hb' => by cases hb'; exact ⟨hbs, hbl.1, Nat.le_refl _⟩)
      hbs.spanIn.stop hbl.2 (herrs.append herrs')
  case _ => -- an at-rule ended by another token, left in place
    intro t ts vals r errs hv s r2 hr hs hb htok
    obtain ⟨⟨hvals, herrs⟩, -, hfront⟩ := values_spans_of_eq text hv htok.tail
    rw [hr] at hvals hfront
    rw [atRule_left hv hr hs hb]
    rcases hl : vals.getLast? with _ | v
    · exact atRule_ended text _ htok hvals hfront (.inl ⟨hl, rfl⟩) herrs
    · exact atRule_ended text _ htok hvals hfront (.inr ⟨v, hl, rfl⟩) herrs
  case _ => -- an at-rule at the end of the text
    intro t ts vals r errs hv hr htok
    obtain ⟨⟨hvals, herrs⟩, -, hfront⟩ := values_spans_of_eq text hv htok.tail
    rw [hr] at hvals hfront
    rw [atRule_end hv hr]
    rcases hl : vals.getLast? with _ | v
    · exact atRule_ended text _ htok hvals hfront (.inl ⟨hl, rfl⟩) herrs
    · exact atRule_ended text _ htok hvals hfront (.inr ⟨v, hl, rfl⟩) herrs
  case _ => -- a block
    intro t ts items stop r errs hbi ih htok
    rw [hbi] at ih
    obtain ⟨hitems, hlo, hhi, hstop, herrs⟩ := ih htok.tail
    have hle := htok.front_le_tail
    have hsp : SpanIn text ⟨t.span.start, stop⟩ := ⟨htok.head_spanIn.start, hstop, Nat.le_trans hle hlo⟩
    rw [block_eq hbi]
    exact ⟨.single (.mk hsp hitems.1 (hitems.within hle (Nat.le_refl _)) hitems.2.2) (Nat.le_refl _)
      hhi, herrs⟩
  case _ => -- no items left
    intro htok
    rw [blockItems]
    exact ⟨Laid.nil _ _, Nat.le_refl _, Nat.le_refl _, Boundary.size text,
      .single (htok.unexpected _)⟩
  case _ => -- the closing brace
    intro t tail hk htok
    rw [blockItems_rbrace hk]
    exact ⟨Laid.nil _ _, htok.head_spanIn.le, htok.stop_le_front, htok.head_spanIn.stop,
      fun _ h => by cases h⟩
  case _ => -- a stray semicolon
    intro t tail hk items stop r errs hbi ih htok
    rw [hbi] at ih
    obtain ⟨hitems, hlo, hhi, hstop, herrs⟩ := ih htok.tail
    rw [blockItems_semicolon hk hbi]
    exact ⟨hitems.mono htok.front_le_tail (Nat.le_refl _), Nat.le_trans htok.front_le_tail hlo, hhi,
      hstop, herrs⟩
  case _ => -- a nested at-rule, then the other items
    intro t tail hk rule r e1 hat items stop r' e2 hbi ih₁ ih₃ htok
    rw [hat] at ih₁
    rw [hbi] at ih₃
    have h := (atRule_took (utf8Length text)).1 t tail
    rw [hat] at h
    obtain ⟨htok', hfront⟩ := htok.of_took h
    rw [blockItems_atRule hk hat hbi]
    exact Closed.after (Built.map (ih₁ htok) (fun _ h => ItemSpans.rule h) fun _ => rfl)
      (ih₃ htok') hfront
  case _ => -- a declaration, then the other items
    intro t tail d r e1 hd items stop r' e2 hbi h₁ h₂ h₃ hdecl ih₃ htok
    rw [hbi] at ih₃
    have h := declaration_took (utf8Length text) t tail
    rw [hd] at h
    obtain ⟨htok', hfront⟩ := htok.of_took h
    have hdecl' := declaration_spans text t tail htok
    rw [hd] at hdecl'
    rw [blockItems_declaration h₁ h₂ h₃ hdecl hd hbi, Option.toList_map]
    exact Closed.after (Built.map hdecl' (fun _ h => ItemSpans.declaration h) fun _ => rfl)
      (ih₃ htok') hfront
  case _ => -- a nested qualified rule, then the other items
    intro t tail rule r e1 hq hlt items stop r' e2 hbi h₁ h₂ h₃ hdecl ih₄ ih₃ htok
    rw [hq] at ih₄
    rw [hbi] at ih₃
    have h := (atRule_took (utf8Length text)).2.2.2 (t :: tail)
    rw [hq] at h
    obtain ⟨htok', hfront⟩ := htok.of_took h
    rw [blockItems_qualified h₁ h₂ h₃ hdecl hq hlt hbi, Option.toList_map]
    exact Closed.after (Built.map (ih₄ htok) (fun _ h => ItemSpans.rule h) fun _ => rfl)
      (ih₃ htok') hfront
  case _ => -- a nested qualified rule that took nothing: there is none
    intro t tail rule r e1 hq hlt h₁ h₂ h₃ hdecl ih₄ htok
    have : (qualifiedRule (utf8Length text) (t :: tail)).2.1.1.length < (t :: tail).length :=
      qualifiedRule_shrinks (utf8Length text) h₁ h₂
    rw [hq] at this
    exact absurd this hlt
  case _ => -- a qualified rule with its block
    intro ts vals r errs hv s r2 hr hb b r3 e2 hblk ih htok
    obtain ⟨⟨hvals, herrs⟩, htok', hfront⟩ := values_spans_of_eq text hv htok
    rw [hr] at hvals htok' hfront
    rw [hblk] at ih
    rw [qualifiedRule_block hv hr hb hblk]
    obtain ⟨hblock, herrs'⟩ := ih htok'
    have hbl := hblock.2.1 b List.mem_cons_self
    -- the rule starts at the front of its tokens, which the parser reads off case by case
    cases ts <;>
      exact qualifiedRule_built text htok hvals hfront (hblock.1 b List.mem_cons_self) hbl.1 hbl.2
        (herrs.append herrs')
  case _ => -- a prelude ended by a semicolon, which is skipped
    intro ts vals r errs hv s r2 hr hb hs htok
    obtain ⟨⟨-, herrs⟩, htok', -⟩ := values_spans_of_eq text hv htok
    rw [hr] at htok'
    rw [qualifiedRule_semicolon hv hr hb hs]
    exact ⟨Laid.nil _ _, herrs.append (.single (htok'.unexpected _))⟩
  case _ => -- a prelude ended by another token, left in place
    intro ts vals r errs hv s r2 hr hb hs htok
    obtain ⟨⟨-, herrs⟩, htok', -⟩ := values_spans_of_eq text hv htok
    rw [hr] at htok'
    rw [qualifiedRule_left hv hr hb hs]
    exact ⟨Laid.nil _ _, herrs.append (.single (htok'.unexpected _))⟩
  case _ => -- a prelude at the end of the text
    intro ts vals r errs hv hr htok
    obtain ⟨⟨-, herrs⟩, htok', -⟩ := values_spans_of_eq text hv htok
    rw [hr] at htok'
    rw [qualifiedRule_end hv hr]
    exact ⟨Laid.nil _ _, herrs.append (.single (htok'.unexpected _))⟩

/-- **The top-level rules lie in order** between the front of the tokens and the end of the
text, and so do the errors recorded on the way. -/
theorem rules_spans (ts : List Token) (htok : TokensIn text ts) :
    Built (RuleSpans text) Rule.span text ts [] (rules (utf8Length text) ts).1
      (rules (utf8Length text) ts).2 := by
  induction ts using rules.induct (utf8Length text) with
  | case1 =>
    rw [rules]
    exact ⟨Laid.nil _ _, fun _ h => by cases h⟩
  | case2 t tail hk rule r e1 hat rs e2 hrs ih =>
    have h := (atRule_took (utf8Length text)).1 t tail
    rw [hat] at h
    obtain ⟨htok', hfront⟩ := htok.of_took h
    have hrule := (atRule_spans text).1 t tail htok
    rw [hat] at hrule
    rw [hrs] at ih
    rw [rules_atRule hk hat hrs]
    exact hrule.append (ih htok') hfront htok'.front_le_size
  | case3 t tail hk rs e2 hrs ih | case4 t tail hk rs e2 hrs ih =>
    -- a stray `}` or `;` is recorded and skipped
    rw [hrs] at ih
    obtain ⟨hlaid, herrs⟩ := ih htok.tail
    rw [rules_stray (by simp only [hk, true_or, or_true]) hrs]
    exact ⟨hlaid.mono htok.front_le_tail (Nat.le_refl _),
      ErrorsIn.append (.single htok.head_spanIn) herrs⟩
  | case5 t tail rule r e1 hq hlt rs e2 hrs h₁ h₂ h₃ ih =>
    have h := (atRule_took (utf8Length text)).2.2.2 (t :: tail)
    rw [hq] at h
    obtain ⟨htok', hfront⟩ := htok.of_took h
    have hrule := (atRule_spans text).2.2.2 (t :: tail) htok
    rw [hq] at hrule
    rw [hrs] at ih
    rw [rules_qualified h₁ h₂ h₃ hq hlt hrs]
    exact hrule.append (ih htok') hfront htok'.front_le_size
  | case6 t tail rule r e1 hq hlt h₁ h₂ h₃ =>
    -- a qualified rule that took nothing: there is none
    have : (qualifiedRule (utf8Length text) (t :: tail)).2.1.1.length < (t :: tail).length :=
      qualifiedRule_shrinks (utf8Length text) h₂ h₃
    rw [hq] at this
    exact absurd this hlt

end Parser

/-! ## (6) The parse -/

theorem tokenize_tokensIn (s : String) : TokensIn s.toList (tokenize s) :=
  ⟨tokenize_ok s, tokenize_ordered s⟩

/-- **The parser reads tokens of the text**: the significant ones, in order. -/
theorem significant_tokensIn (s : String) :
    TokensIn s.toList ((tokenize s).filter Token.isSignificant) :=
  ⟨fun t ht => (tokenize_tokensIn s).ok t (List.mem_filter.mp ht).1,
    (tokenize_tokensIn s).ordered.filter _⟩

/-- **The rules of a parse and the parser's errors** lie in order within the text. -/
theorem parse_rules_built (s : String) :
    Built (RuleSpans s.toList) Rule.span s.toList ((tokenize s).filter Token.isSignificant) []
      (parse s).stylesheet.rules
      (Parser.rules s.utf8ByteSize ((tokenize s).filter Token.isSignificant)).2 := by
  have h := Parser.rules_spans s.toList _ (significant_tokensIn s)
  rw [← utf8ByteSize_eq_utf8Length] at h
  exact h

/-- **Every rule of a parse has the spans of the text**, and the rules come in order. -/
theorem parse_rules_spans (s : String) :
    (∀ r ∈ (parse s).stylesheet.rules, RuleSpans s.toList r) ∧
      InOrder ((parse s).stylesheet.rules.map Rule.span) :=
  ⟨(parse_rules_built s).1.1, (parse_rules_built s).1.2.2⟩

/-- **The comments of a parse have spans of the text**, in order: each is read off a token. -/
theorem parse_comments_spans (s : String) :
    (∀ c ∈ (parse s).stylesheet.comments, SpanIn s.toList c.span) ∧
      InOrder ((parse s).stylesheet.comments.map Comment.span) := by
  simp only [parse]
  refine (tokenize_tokensIn s).filterMap fun t c h => ?_
  split at h <;> cases h <;> rfl

/-- **The errors of a parse have spans of the text**: the lexer's are read off tokens, the
parser's come with the rules. -/
theorem parse_errors_spans (s : String) : ErrorsIn s.toList (parse s).errors := by
  simp only [parse]
  refine ErrorsIn.append ((tokenize_tokensIn s).filterMap fun t e h => ?_).1
    (parse_rules_built s).2
  split at h
  · cases h
    rfl
  · cases h

/-- **Every parse has the spans of its text**: the stylesheet spans the whole text; every rule,
with all it holds, every comment and every recorded error has a span of the text, both ends
between characters; each node holds its children, and rules, comments and the children of each
node come in order. -/
theorem parse_spans (s : String) : ParseSpans s (parse s) :=
  ⟨rfl, (parse_rules_spans s).1, (parse_rules_spans s).2, (parse_comments_spans s).1,
    (parse_comments_spans s).2, parse_errors_spans s⟩

end Css

end StyleRebase
