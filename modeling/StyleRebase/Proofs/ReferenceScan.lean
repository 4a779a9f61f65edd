import StyleRebase.Proofs.OccurrenceLayout

/-! # Every reference once, in the order of its tokens

The references of a stylesheet can be read off its tokens, comments aside, in one pass and with
no parsing:

* a `url(...)` token is an unquoted reference;
* a `url(` function token (the name in any ASCII case) followed by a string is a quoted one, the
  string its value;
* the tokens after that string, up to the `)` that closes the function, are arguments the parser
  builds and then drops: none of them is a reference, however deeply nested.

The pass is a machine whose only memory is whether it has just read a `url(` function, and how
many brackets deep it is inside dropped arguments. A text that parses without errors has, in
`locate`, one occurrence for each reference the machine finds and no other, in the same order.

The proof follows the parser. Each parsing function that records no error takes a stretch of
tokens that the machine, started free, reads back to being free, finding the references built
from that stretch; and a stretch taken by values is balanced, so that inside dropped arguments
the machine comes back to its depth having found nothing.

* **`Reference`** — a reference as the tokens show it, with its quote and raw value.
* **`RefScan`**, **`references`** — the machine and the references it finds.
* **`FindsFree`**, **`Discardable`** — what a stretch of tokens does to the machine.
* **`Parser.componentValue_scans`**, **`Parser.atRule_scans`**, **`Parser.rules_scans`** — the
  parsing functions that record no error build what the machine finds.
* **`Rebase.locate_finds_references`** — the occurrences of a text without errors are its
  references, one for one. -/

namespace StyleRebase.Css

/-! ## (1) References among tokens -/

/-- **A reference as the tokens show it**: the token that opens it, a `url(...)` token or a
`url(` function, and for a quoted reference the string after the function. -/
structure Reference where
  /-- The `url(...)` token, or the `url(` function token. -/
  opener : Token
  /-- The string of a quoted reference. -/
  string : Option Token
  deriving DecidableEq, Repr

namespace Reference

/-- **The quote of a reference**: none for a `url(...)` token, else the string's. -/
def quote : Reference → Quote
  | ⟨_, none⟩ => .none
  | ⟨_, some a⟩ => if a.text.head? == some '\'' then .single else .double

/-- **The raw value of a reference**: a `url(...)` token's body between `url(` and `)`, CSS
whitespace trimmed; a string's content between its quotes. -/
def raw : Reference → List Char
  | ⟨t, none⟩ => trimBy isCssSpace ((t.text.drop 4).dropLast)
  | ⟨_, some a⟩ => (a.text.drop 1).dropLast

/-- **A reference of the tree is the one the tokens show**: it starts where its first token does,
with the same quote and raw value. -/
def Gives (r : Reference) (u : UrlValue) : Prop :=
  u.span.start = r.opener.span.start ∧ u.quote = r.quote ∧ u.value = r.raw

end Reference

/-- **Whether a token is a `url(` function**, the name in any ASCII case. -/
def Token.isUrlFunction (t : Token) : Bool :=
  t.kind == .function && eqIgnoreAsciiCase t.text.dropLast "url".toList

/-- A `url(` function is a function token. -/
theorem Token.kind_of_isUrlFunction {t : Token} (h : t.isUrlFunction = true) :
    t.kind = .function := by
  simp only [Token.isUrlFunction, Bool.and_eq_true, beq_iff_eq] at h
  exact h.1

/-- **Kinds that open a bracket**: a function name, `(`, `[` and `{`. -/
def TokenKind.isOpening : TokenKind → Bool
  | .function | .lparen | .lbracket | .lbrace => true
  | _ => false

/-- No kind both opens and closes a bracket. -/
theorem TokenKind.isOpening_of_isClosing {k : TokenKind} (h : k.isClosing = true) :
    k.isOpening = false := by
  cases k <;> simp_all [TokenKind.isOpening, TokenKind.isClosing]

/-- **Where the reference scan is**: reading freely; just after the `url(` function `f`; or
inside the dropped arguments of a quoted reference, `depth` brackets deeper than the function's
own. -/
inductive RefScan where
  | free
  | opened (f : Token)
  | dropping (depth : Nat)
  deriving DecidableEq, Repr

namespace RefScan

/-- **A token read freely**: a `url(...)` token is a reference, a `url(` function may open one. -/
def readFree (t : Token) : RefScan × List Reference :=
  if t.kind == .url then (.free, [⟨t, none⟩])
  else if t.isUrlFunction then (.opened t, [])
  else (.free, [])

/-- **One step of the scan**: the state after a token and the references it completes. -/
def step : RefScan → Token → RefScan × List Reference
  | .free, t => readFree t
  | .opened f, t => if t.kind == .string then (.dropping 0, [⟨f, some t⟩]) else readFree t
  | .dropping d, t =>
    if t.kind.isOpening then (.dropping (d + 1), [])
    else if t.kind.isClosing then
      match d with
      | 0 => (.free, [])
      | d + 1 => (.dropping d, [])
    else (.dropping d, [])

/-- **The state after a run of the scan.** -/
def after (st : RefScan) : List Token → RefScan
  | [] => st
  | t :: ts => (st.step t).1.after ts

/-- **The references a run of the scan finds**, in order. -/
def found (st : RefScan) : List Token → List Reference
  | [] => []
  | t :: ts => (st.step t).2 ++ (st.step t).1.found ts

@[simp] theorem after_nil (st : RefScan) : st.after [] = st := rfl

@[simp] theorem after_cons (st : RefScan) (t : Token) (ts : List Token) :
    st.after (t :: ts) = (st.step t).1.after ts := rfl

@[simp] theorem found_nil (st : RefScan) : st.found [] = [] := rfl

@[simp] theorem found_cons (st : RefScan) (t : Token) (ts : List Token) :
    st.found (t :: ts) = (st.step t).2 ++ (st.step t).1.found ts := rfl

theorem after_append (st : RefScan) (xs ys : List Token) :
    st.after (xs ++ ys) = (st.after xs).after ys := by
  induction xs generalizing st with
  | nil => rfl
  | cons t xs ih => exact ih _

theorem found_append (st : RefScan) (xs ys : List Token) :
    st.found (xs ++ ys) = st.found xs ++ (st.after xs).found ys := by
  induction xs generalizing st with
  | nil => rfl
  | cons t xs ih => simp [ih]

/-- A `url(` function opens a reference. -/
theorem step_urlFunction {f : Token} (hf : f.isUrlFunction = true) :
    free.step f = (.opened f, []) := by
  have hk : f.kind ≠ .url := by
    rw [Token.kind_of_isUrlFunction hf]
    decide
  simp [step, readFree, hf, hk]

end RefScan

/-- **The references among tokens**, in order: the scan's finds from the free state. -/
def references (ts : List Token) : List Reference := RefScan.free.found ts

/-! ## (2) What a stretch of tokens does to the scan -/

/-- **A stretch read freely finds `urls`**: started free, the scan ends free, and the references
it finds give `urls`, one for one and in order. -/
def FindsFree (pre : List Token) (urls : List UrlValue) : Prop :=
  RefScan.free.after pre = .free ∧ List.Forall₂ Reference.Gives (RefScan.free.found pre) urls

/-- **A stretch that dropped arguments may hold**: at every depth inside them, the scan comes
back to that depth and finds nothing. -/
def Discardable (pre : List Token) : Prop :=
  ∀ d, (RefScan.dropping d).after pre = .dropping d ∧ (RefScan.dropping d).found pre = []

/-- A closing bracket is neither a reference nor a `url(` function. -/
theorem readFree_of_isClosing {c : Token} (hc : c.kind.isClosing = true) :
    RefScan.readFree c = (.free, []) := by
  have hk : c.kind ≠ .url ∧ c.kind ≠ .function := by
    constructor <;> intro h <;> simp [h, TokenKind.isClosing] at hc
  simp [RefScan.readFree, Token.isUrlFunction, hk.1, hk.2]

namespace FindsFree

variable {t : Token} {p₁ p₂ : List Token} {u₁ u₂ : List UrlValue}

theorem nil : FindsFree [] [] := ⟨rfl, .nil⟩

theorem append (h₁ : FindsFree p₁ u₁) (h₂ : FindsFree p₂ u₂) : FindsFree (p₁ ++ p₂) (u₁ ++ u₂) := by
  refine ⟨?_, ?_⟩
  · rw [RefScan.after_append, h₁.1, h₂.1]
  · rw [RefScan.found_append, h₁.1]
    exact List.rel_append h₁.2 h₂.2

/-- A token that is no reference and opens none. -/
theorem plain (h₁ : t.kind ≠ .url) (h₂ : t.isUrlFunction = false) : FindsFree [t] [] := by
  simp [FindsFree, RefScan.step, RefScan.readFree, h₁, h₂]

theorem closing (hc : t.kind.isClosing = true) : FindsFree [t] [] := by
  simp [FindsFree, RefScan.step, readFree_of_isClosing hc]

/-- A `url(...)` token is the reference the parser reads off it. -/
theorem url (h : t.kind = .url) : FindsFree [t] [Parser.unquotedUrl t] := by
  refine ⟨by simp [RefScan.step, RefScan.readFree, h], ?_⟩
  simp only [RefScan.found_cons, RefScan.step, RefScan.readFree, h, beq_self_eq_true, if_true,
    RefScan.found_nil, List.append_nil]
  exact .cons ⟨rfl, rfl, rfl⟩ .nil

/-- **A `url(` function whose arguments do not start with a string** reads them freely. -/
theorem opened {f b : Token} {bs : List Token} {urls : List UrlValue}
    (hb : b.kind ≠ .string) (h : FindsFree (b :: bs) urls) (hf : f.isUrlFunction = true) :
    FindsFree (f :: b :: bs) urls := by
  have hstep : (RefScan.opened f).step b = RefScan.free.step b := by
    simp [RefScan.step, hb]
  refine ⟨?_, ?_⟩
  · rw [RefScan.after_cons, RefScan.after_cons, RefScan.step_urlFunction hf, hstep]
    exact h.1
  · rw [RefScan.found_cons, RefScan.found_cons, RefScan.step_urlFunction hf, hstep,
      List.nil_append]
    exact h.2

/-- **A quoted reference**: a `url(` function, its string, the dropped arguments and the `)`. -/
theorem quoted {f a c : Token} {body : List Token} {u : UrlValue} (hf : f.isUrlFunction = true)
    (ha : a.kind = .string) (hd : Discardable body) (hc : c.kind.isClosing = true)
    (hu : Reference.Gives ⟨f, some a⟩ u) : FindsFree (f :: a :: body ++ [c]) [u] := by
  -- after the string the scan drops everything up to the function's own `)`
  have hopen := RefScan.step_urlFunction hf
  have hstring : (RefScan.opened f).step a = (.dropping 0, [⟨f, some a⟩]) := by
    simp [RefScan.step, ha]
  have hclose : (RefScan.dropping 0).step c = (.free, []) := by
    simp [RefScan.step, hc, TokenKind.isOpening_of_isClosing hc]
  refine ⟨?_, ?_⟩
  · rw [List.cons_append, List.cons_append, RefScan.after_cons, hopen, RefScan.after_cons,
      hstring, RefScan.after_append, (hd 0).1]
    simp [hclose]
  · rw [List.cons_append, List.cons_append, RefScan.found_cons, hopen, RefScan.found_cons,
      hstring, RefScan.found_append, (hd 0).1, (hd 0).2]
    simp [hclose]
    exact hu

end FindsFree

namespace Discardable

variable {t : Token} {p₁ p₂ : List Token}

theorem nil : Discardable [] := fun _ => ⟨rfl, rfl⟩

theorem append (h₁ : Discardable p₁) (h₂ : Discardable p₂) : Discardable (p₁ ++ p₂) := by
  intro d
  rw [RefScan.after_append, RefScan.found_append, (h₁ d).1, (h₁ d).2, (h₂ d).1, (h₂ d).2]
  exact ⟨rfl, rfl⟩

/-- A token that neither opens nor closes a bracket. -/
theorem plain (h₁ : t.kind.isOpening = false) (h₂ : t.kind.isClosing = false) : Discardable [t] :=
  fun d => by simp [RefScan.step, h₁, h₂]

/-- **Values between brackets**, the brackets included. -/
theorem bracket {o c : Token} {body : List Token} (ho : o.kind.isOpening = true)
    (hc : c.kind.isClosing = true) (h : Discardable body) : Discardable (o :: body ++ [c]) := by
  intro d
  have hstep : (RefScan.dropping d).step o = (.dropping (d + 1), []) := by
    simp [RefScan.step, ho]
  have hclose : (RefScan.dropping (d + 1)).step c = (.dropping d, []) := by
    simp [RefScan.step, hc, TokenKind.isOpening_of_isClosing hc]
  rw [List.cons_append, RefScan.after_cons, RefScan.found_cons, hstep, RefScan.after_append,
    RefScan.found_append, (h (d + 1)).1, (h (d + 1)).2]
  simp [hclose]

/-- What follows a token that leaves the depth alone is discardable with it. -/
theorem of_cons {b : Token} {body : List Token} (h₁ : b.kind.isOpening = false)
    (h₂ : b.kind.isClosing = false) (h : Discardable (b :: body)) : Discardable body := by
  intro d
  have hstep : (RefScan.dropping d).step b = (.dropping d, []) := by
    simp [RefScan.step, h₁, h₂]
  have := h d
  rw [RefScan.after_cons, RefScan.found_cons, hstep] at this
  exact this

end Discardable

/-! ## (3) Values -/

namespace Parser

variable (size : Nat)

/-- **Values taken without error**: the tokens `ts` are a stretch followed by the tokens left
over, `rest`; read freely, the stretch finds `urls`, and it may stand among dropped
arguments. -/
def ScannedValues (ts : List Token) (urls : List UrlValue) (rest : List Token) : Prop :=
  ∃ pre, ts = pre ++ rest ∧ FindsFree pre urls ∧ Discardable pre

/-- **Values taken without error up to their closing bracket**: as `ScannedValues` for the
values, then the bracket. -/
def ScannedNested (ts : List Token) (urls : List UrlValue) (rest : List Token) : Prop :=
  ∃ body c, ts = body ++ c :: rest ∧ c.kind.isClosing = true ∧ FindsFree body urls ∧
    Discardable body

namespace ScannedValues

variable {ts r r' : List Token} {u₁ u₂ : List UrlValue}

theorem refl (ts : List Token) : ScannedValues ts [] ts := ⟨[], rfl, .nil, .nil⟩

theorem trans (h₁ : ScannedValues ts u₁ r) (h₂ : ScannedValues r u₂ r') :
    ScannedValues ts (u₁ ++ u₂) r' := by
  obtain ⟨p₁, rfl, hf₁, hd₁⟩ := h₁
  obtain ⟨p₂, rfl, hf₂, hd₂⟩ := h₂
  exact ⟨p₁ ++ p₂, (List.append_assoc _ _ _).symm, hf₁.append hf₂, hd₁.append hd₂⟩

/-- One token taken on its own. -/
theorem single {t : Token} {urls : List UrlValue} (hf : FindsFree [t] urls)
    (hd : Discardable [t]) (ts : List Token) : ScannedValues (t :: ts) urls ts :=
  ⟨[t], rfl, hf, hd⟩

/-- Values, then the rest of the values up to their closing bracket. -/
theorem nested (h₁ : ScannedValues ts u₁ r) (h₂ : ScannedNested r u₂ r') :
    ScannedNested ts (u₁ ++ u₂) r' := by
  obtain ⟨p₁, rfl, hf₁, hd₁⟩ := h₁
  obtain ⟨body, c, rfl, hc, hf₂, hd₂⟩ := h₂
  exact ⟨p₁ ++ body, c, by simp, hc, hf₁.append hf₂, hd₁.append hd₂⟩

end ScannedValues

/-- **A bracket around values taken up to its closing bracket**, the opening token read freely
as no reference. -/
theorem ScannedNested.bracket {o : Token} {ts rest : List Token} {urls : List UrlValue}
    (h : ScannedNested ts urls rest) (ho : o.kind.isOpening = true) (hfree : FindsFree [o] []) :
    ScannedValues (o :: ts) urls rest := by
  obtain ⟨body, c, rfl, hc, hf, hd⟩ := h
  refine ⟨o :: body ++ [c], by simp, ?_, .bracket ho hc hd⟩
  simpa using hfree.append (hf.append (FindsFree.closing hc))

/-- The closing bracket of a block closes. -/
theorem closerOf_isClosing (k : TokenKind) : (closerOf k).1.isClosing = true := by
  cases k <;> rfl

/-- A component value that records no error is built. -/
theorem componentValue_isSome {t : Token} {ts : List Token}
    (h : (componentValue size t ts).2.2 = []) : (componentValue size t ts).1.isSome := by
  rw [componentValue] at h ⊢
  split <;> simp_all

/-- **A component value that is a token is its own first token**: a function is never one. -/
theorem componentValue_token {t a : Token} {ts : List Token}
    (h : (componentValue size t ts).1 = some (.token a)) : a = t := by
  rw [componentValue] at h
  split at h
  · simp at h
  · unfold functionValue at h
    repeat' split at h
    all_goals simp at h
  all_goals simp_all

/-- **The first argument, when a token, is the first token taken**, when nothing was recorded. -/
theorem nested_head_token {close : TokenKind} {closeChar : Char} {ts : List Token} {a : Token}
    {vs : List ComponentValue} (herr : (nested size close closeChar ts).2.2.2 = [])
    (hv : (nested size close closeChar ts).1 = .token a :: vs) : ts.head? = some a := by
  cases ts with
  | nil =>
    rw [nested] at herr
    simp at herr
  | cons t tail =>
    rw [nested] at herr hv
    by_cases hc : (t.kind == close) = true
    · simp [hc] at hv
    by_cases hcl : t.kind.isClosing = true
    · simp [hc, hcl] at herr
    simp only [hc, hcl, Bool.false_eq_true, if_false] at herr hv
    rcases hcv : componentValue size t tail with ⟨v, r, errs⟩
    rcases hn : nested size close closeChar r.1 with ⟨vs', stop, r', errs'⟩
    rw [hcv, hn] at herr hv
    simp only [List.append_eq_nil_iff] at herr
    have hsome : (componentValue size t tail).1.isSome :=
      componentValue_isSome size (by rw [hcv]; exact herr.1)
    rw [hcv] at hsome
    obtain ⟨v, rfl⟩ := Option.isSome_iff_exists.mp hsome
    simp only [Option.toList_some, List.singleton_append, List.cons.injEq] at hv
    have htok : (componentValue size t tail).1 = some (.token a) := by rw [hcv, hv.1]
    rw [componentValue_token size htok]
    rfl

/-- **Arguments starting with a string** start with it as a token of their own. -/
theorem nested_string_head {close : TokenKind} {closeChar : Char} {b : Token} {tail : List Token}
    (hclose : close.isClosing = true) (hb : b.kind = .string) :
    ∃ vs, (nested size close closeChar (b :: tail)).1 = .token b :: vs := by
  have hc : (b.kind == close) = false := by
    rw [hb]
    cases close <;> simp_all [TokenKind.isClosing]
  have hcl : b.kind.isClosing = false := by rw [hb]; rfl
  rw [nested]
  simp only [hc, hcl, Bool.false_eq_true, if_false]
  rcases hcv : componentValue size b tail with ⟨v, r, errs⟩
  have hv : v = some (.token b) := by
    have h := congrArg Prod.fst hcv
    rw [componentValue] at h
    simp only [hb] at h
    exact h.symm
  subst hv
  exact ⟨_, rfl⟩

/-- **A function is no reference** unless it is `url` of a string. -/
theorem functionValue_of_not_quoted {name : List Char} {args : List ComponentValue} {sp : Span}
    (h : ∀ a vs, args = .token a :: vs → eqIgnoreAsciiCase name "url".toList = true →
      a.kind ≠ .string) :
    functionValue name args sp = .function name args sp := by
  unfold functionValue
  split
  · rename_i hname
    split
    · rename_i a vs
      rw [if_neg]
      simpa using h a vs rfl hname
    · rfl
  · rfl

/-- **A quoted reference taken without error**: the `url(` function, its string, the arguments
after the string, dropped, and the `)`. -/
theorem ScannedNested.quoted {t b : Token} {tail rest : List Token} {urls : List UrlValue}
    {u : UrlValue} (h : ScannedNested (b :: tail) urls rest) (hf : t.isUrlFunction = true)
    (hb : b.kind = .string) (hu : Reference.Gives ⟨t, some b⟩ u) :
    ScannedValues (t :: b :: tail) [u] rest := by
  obtain ⟨body, c, hts, hc, -, hd⟩ := h
  -- the string opens the stretch: it is no closing bracket
  obtain ⟨body', rfl⟩ : ∃ body', body = b :: body' := by
    cases body with
    | nil =>
      obtain ⟨rfl, -⟩ := List.cons.inj hts
      rw [hb] at hc
      cases hc
    | cons b' body' =>
      obtain ⟨rfl, -⟩ := List.cons.inj hts
      exact ⟨body', rfl⟩
  refine ⟨t :: b :: body' ++ [c], by simp [hts], ?_, ?_⟩
  · exact .quoted hf hb (hd.of_cons (by rw [hb]; rfl) (by rw [hb]; rfl)) hc hu
  · exact .bracket (by rw [Token.kind_of_isUrlFunction hf]; rfl) hc hd

/-- **A `url(` function whose arguments do not start with a string**, taken without error: its
arguments are read freely. -/
theorem ScannedNested.opened {t : Token} {ts rest : List Token} {urls : List UrlValue}
    (h : ScannedNested ts urls rest) (hf : t.isUrlFunction = true)
    (hs : ∀ b tail, ts = b :: tail → b.kind ≠ .string) :
    ScannedValues (t :: ts) urls rest := by
  obtain ⟨body, c, rfl, hc, hfree, hd⟩ := h
  refine ⟨t :: body ++ [c], by simp, ?_,
    .bracket (by rw [Token.kind_of_isUrlFunction hf]; rfl) hc hd⟩
  have hbc : FindsFree (body ++ [c]) urls := by
    simpa using hfree.append (FindsFree.closing hc)
  -- the token after the function is no string: the first argument's, or the `)`
  cases hbody : body ++ [c] with
  | nil => simp at hbody
  | cons b bs =>
    have hb : b.kind ≠ .string := by
      cases body with
      | nil =>
        obtain ⟨rfl, -⟩ := List.cons.inj hbody
        intro hstr
        rw [hstr] at hc
        cases hc
      | cons b' body' =>
        obtain ⟨rfl, -⟩ := List.cons.inj hbody
        exact hs _ _ rfl
    rw [List.cons_append, hbody]
    rw [hbody] at hbc
    exact hbc.opened hb hf

/-- **A function around arguments taken without error.** When it is `url` of a string it is a
quoted reference, and the rest of its arguments are dropped; otherwise it is a function whose
arguments are read freely. -/
theorem functionValue_scans {t : Token} {ts rest : List Token} {args : List ComponentValue}
    {stop : Nat} (ht : t.kind = .function) (hargs : (nested size .rparen ')' ts).1 = args)
    (herr : (nested size .rparen ')' ts).2.2.2 = []) (h : ScannedNested ts (valuesUrls args) rest) :
    ScannedValues (t :: ts) (valuesUrls [functionValue t.text.dropLast args ⟨t.span.start, stop⟩])
      rest := by
  by_cases hq : t.isUrlFunction = true ∧ ∃ b tail, ts = b :: tail ∧ b.kind = .string
  · obtain ⟨hf, b, tail, rfl, hb⟩ := hq
    obtain ⟨vs, hvs⟩ : ∃ vs, (nested size .rparen ')' (b :: tail)).1 = .token b :: vs :=
      nested_string_head size rfl hb
    have hname : eqIgnoreAsciiCase t.text.dropLast ['u', 'r', 'l'] = true := by
      simpa [Token.isUrlFunction, ht] using hf
    rw [← hargs, hvs, functionValue_token, if_pos (by simp [hname, hb])]
    simp only [valuesUrls, ComponentValue.urls, List.append_nil]
    exact h.quoted hf hb ⟨rfl, rfl, rfl⟩
  · -- a first argument that is a string token is the first token taken
    have hfun : functionValue t.text.dropLast args ⟨t.span.start, stop⟩ =
        .function t.text.dropLast args ⟨t.span.start, stop⟩ := by
      refine functionValue_of_not_quoted fun a vs hav hname hs => hq ⟨?_, ?_⟩
      · simpa [Token.isUrlFunction, ht] using hname
      · obtain ⟨tail, rfl⟩ := List.head?_eq_some_iff.mp
          (nested_head_token size herr (by rw [hargs, hav]))
        exact ⟨a, tail, rfl, hs⟩
    rw [hfun]
    simp only [valuesUrls, ComponentValue.urls, List.append_nil]
    by_cases hf : t.isUrlFunction = true
    · exact h.opened hf fun b tail hts hs => hq ⟨hf, b, tail, hts, hs⟩
    · exact h.bracket (by rw [ht]; rfl) (.plain (by rw [ht]; decide) (by simpa using hf))

/-- **Values take the tokens whose scan finds their references**: a component value that
records no error takes a stretch that, read freely, finds the references built from it, and that
is balanced; nested values do too, up to their closing bracket. The induction follows the
parser's mutual recursion over values. -/
theorem componentValue_scans :
    (∀ t ts, (componentValue size t ts).2.2 = [] →
      ScannedValues (t :: ts) (valuesUrls (componentValue size t ts).1.toList)
        (componentValue size t ts).2.1.1) ∧
    (∀ close closeChar ts, close.isClosing = true → (nested size close closeChar ts).2.2.2 = [] →
      ScannedNested ts (valuesUrls (nested size close closeChar ts).1)
        (nested size close closeChar ts).2.2.1.1) := by
  apply componentValue.mutual_induct size
    (fun t ts => (componentValue size t ts).2.2 = [] →
      ScannedValues (t :: ts) (valuesUrls (componentValue size t ts).1.toList)
        (componentValue size t ts).2.1.1)
    (fun close closeChar ts => close.isClosing = true →
      (nested size close closeChar ts).2.2.2 = [] →
      ScannedNested ts (valuesUrls (nested size close closeChar ts).1)
        (nested size close closeChar ts).2.2.1.1)
  case _ => -- an unquoted reference
    intro t ts ht _
    rw [componentValue_url ht]
    simp only [Option.toList_some, valuesUrls, ComponentValue.urls, List.append_nil]
    exact .single (.url ht) (.plain (by rw [ht]; rfl) (by rw [ht]; rfl)) ts
  case _ => -- a function
    intro t ts ht args stop rest errs hn ih herr
    rw [componentValue_function ht hn] at herr ⊢
    have hargs : (nested size .rparen ')' ts).1 = args := by rw [hn]
    have herr' : (nested size .rparen ')' ts).2.2.2 = [] := by rw [hn]; exact herr
    have h := ih rfl herr'
    rw [hn] at h
    exact functionValue_scans size ht hargs herr' h
  case _ | _ | _ => -- a block
    intro t ts ht close closeChar hcl vals stop rest errs hn ih herr
    have hclose : close.isClosing = true := by
      rw [← closerOf_isClosing t.kind, hcl]
    rw [componentValue_block (by simp only [ht, true_or, or_true]) hcl hn] at herr ⊢
    have h := ih hclose (by rw [hn]; exact herr)
    rw [hn] at h
    simp only [Option.toList_some, valuesUrls, ComponentValue.urls, List.append_nil]
    exact h.bracket (by rw [ht]; rfl) (.plain (by rw [ht]; decide) (by simp [Token.isUrlFunction, ht]))
  case _ | _ | _ | _ | _ | _ => -- a token recorded as an error
    intro t ts ht herr
    rw [componentValue] at herr
    simp [ht] at herr
  case _ => -- any other token is a value of its own
    intro t ts h1 h2 h3 h4 h5 h6 h7 h8 h9 h10 h11 _
    rw [componentValue_other h1 h2 h3 h4 h5 h6 h7 h8 h9 h10 h11]
    refine .single (.plain h1 (by simp [Token.isUrlFunction, beq_false_of_ne h2])) (.plain ?_ ?_) ts
    · cases hk : t.kind <;> simp_all [TokenKind.isOpening]
    · cases hk : t.kind <;> simp_all [TokenKind.isClosing]
  case _ => -- no tokens left: the missing bracket is recorded
    intro close closeChar _ herr
    rw [nested] at herr
    simp at herr
  case _ => -- the closing bracket
    intro close closeChar t tail hc hclose _
    rw [nested_close hc]
    have hk : t.kind = close := by simpa using hc
    exact ⟨[], t, rfl, by rw [hk]; exact hclose, .nil, .nil⟩
  case _ => -- a different closing bracket is recorded
    intro close closeChar t tail hc hcl _ herr
    rw [nested_mismatched hc hcl] at herr
    simp at herr
  case _ => -- one value, then the rest
    intro close closeChar t tail hc hcl v r errs hcv vs stop r' errs' hn ih₁ ih₂ hclose herr
    rw [hcv] at ih₁
    rw [hn] at ih₂
    rw [nested_value hc hcl hcv hn] at herr ⊢
    obtain ⟨he, he'⟩ := List.append_eq_nil_iff.mp herr
    dsimp only
    rw [valuesUrls_append]
    exact (ih₁ he).nested (ih₂ hclose he')

/-- **Values up to a stop token, taken without error**, take the tokens whose scan finds their
references. -/
theorem values_scans (stop : TokenKind → Bool) (ts : List Token) :
    (values size stop ts).2.2 = [] →
      ScannedValues ts (valuesUrls (values size stop ts).1) (values size stop ts).2.1.1 := by
  induction ts using values.induct size stop with
  | case1 =>
    intro _
    rw [values]
    exact .refl []
  | case2 t tail hstop =>
    intro _
    rw [values_stop hstop]
    exact .refl _
  | case3 t tail hstop v r errs hcv vs r' errs' hvs ih =>
    intro herr
    rw [hvs] at ih
    have hv := (componentValue_scans size).1 t tail
    rw [hcv] at hv
    rw [values_value hstop hcv hvs] at herr ⊢
    obtain ⟨he, he'⟩ := List.append_eq_nil_iff.mp herr
    dsimp only
    rw [valuesUrls_append]
    exact (hv he).trans (ih he')

theorem values_scans_of_eq {stop : TokenKind → Bool} {ts : List Token}
    {vals : List ComponentValue} {r : Rest ts} {errs : List ParseError}
    (hv : values size stop ts = (vals, r, errs)) (herr : errs = []) :
    ScannedValues ts (valuesUrls vals) r.1 := by
  have h := values_scans size stop ts
  rw [hv] at h
  exact h herr

/-! ## (4) Rules -/

/-- **Rules taken without error**: the tokens `ts` are a stretch followed by the tokens left
over, `rest`, and read freely the stretch finds `urls`. -/
def Scanned (ts : List Token) (urls : List UrlValue) (rest : List Token) : Prop :=
  ∃ pre, ts = pre ++ rest ∧ FindsFree pre urls

namespace Scanned

variable {ts r r' : List Token} {u₁ u₂ : List UrlValue}

theorem refl (ts : List Token) : Scanned ts [] ts := ⟨[], rfl, .nil⟩

theorem trans (h₁ : Scanned ts u₁ r) (h₂ : Scanned r u₂ r') : Scanned ts (u₁ ++ u₂) r' := by
  obtain ⟨p₁, rfl, hf₁⟩ := h₁
  obtain ⟨p₂, rfl, hf₂⟩ := h₂
  exact ⟨p₁ ++ p₂, (List.append_assoc _ _ _).symm, hf₁.append hf₂⟩

/-- A token that is no reference and opens none, taken first. -/
theorem cons {t : Token} {urls : List UrlValue} (ht₁ : t.kind ≠ .url)
    (ht₂ : t.kind ≠ .function) (h : Scanned ts urls r) : Scanned (t :: ts) urls r := by
  obtain ⟨pre, rfl, hf⟩ := h
  exact ⟨t :: pre, rfl, (FindsFree.plain ht₁ (by simp [Token.isUrlFunction, ht₂])).append hf⟩

theorem of_eq {u u' : List UrlValue} (h : Scanned ts u r) (hu : u = u') : Scanned ts u' r :=
  hu ▸ h

end Scanned

theorem ScannedValues.scanned {ts rest : List Token} {urls : List UrlValue}
    (h : ScannedValues ts urls rest) : Scanned ts urls rest := by
  obtain ⟨pre, hts, hf, -⟩ := h
  exact ⟨pre, hts, hf⟩

/-- **A declaration taken without error**: its name, its colon and its value. -/
theorem declaration_scans {t : Token} (ht : t.kind = .ident) (ts : List Token)
    (herr : (declaration size t ts).2.2 = []) :
    Scanned (t :: ts) (itemsUrls ((declaration size t ts).1.map BlockItem.declaration).toList)
      (declaration size t ts).2.1.1 := by
  cases ts with
  | nil =>
    simp [declaration] at herr
  | cons c rest =>
    simp only [declaration] at herr ⊢
    split at herr
    · rename_i hc
      rw [if_pos hc]
      have hv := values_scans size declarationStop rest herr
      simp only [Option.map_some, Option.toList_some, itemsUrls, BlockItem.urls,
        valuesUrls_stripImportant, List.append_nil]
      have hck : c.kind = .colon := by simpa using hc
      exact (hv.scanned.cons (by rw [hck]; decide) (by rw [hck]; decide)).cons
        (by rw [ht]; decide) (by rw [ht]; decide)
    · simp at herr

/-- **Rules take the tokens whose scan finds their references**, when they record no error: an
at-rule its keyword, prelude and block or `;`; a block its `{` and items up to `}`; block items
one after another; a qualified rule its prelude and block. The induction follows the parser's
mutual recursion over rules. -/
theorem atRule_scans :
    (∀ t ts, t.kind = .atKeyword → (atRule size t ts).2.2 = [] →
      Scanned (t :: ts) (atRule size t ts).1.urls (atRule size t ts).2.1.1) ∧
    (∀ t ts, t.kind = .lbrace → (block size t ts).2.2 = [] →
      Scanned (t :: ts) (block size t ts).1.urls (block size t ts).2.1.1) ∧
    (∀ ts, (blockItems size ts).2.2.2 = [] →
      Scanned ts (itemsUrls (blockItems size ts).1) (blockItems size ts).2.2.1.1) ∧
    (∀ ts, (qualifiedRule size ts).2.2 = [] →
      Scanned ts ((qualifiedRule size ts).1.toList.flatMap Rule.urls)
        (qualifiedRule size ts).2.1.1) := by
  apply atRule.mutual_induct size
    (fun t ts => t.kind = .atKeyword → (atRule size t ts).2.2 = [] →
      Scanned (t :: ts) (atRule size t ts).1.urls (atRule size t ts).2.1.1)
    (fun t ts => t.kind = .lbrace → (block size t ts).2.2 = [] →
      Scanned (t :: ts) (block size t ts).1.urls (block size t ts).2.1.1)
    (fun ts => (blockItems size ts).2.2.2 = [] →
      Scanned ts (itemsUrls (blockItems size ts).1) (blockItems size ts).2.2.1.1)
    (fun ts => (qualifiedRule size ts).2.2 = [] →
      Scanned ts ((qualifiedRule size ts).1.toList.flatMap Rule.urls)
        (qualifiedRule size ts).2.1.1)
  case _ => -- an at-rule ending with `;`
    intro t ts vals r errs hv s r2 hr hs ht herr
    rw [atRule_semicolon hv hr hs] at herr ⊢
    have hp := values_scans_of_eq size hv herr
    rw [hr] at hp
    have hsk : s.kind = .semicolon := by simpa using hs
    exact (hp.scanned.trans ((Scanned.refl r2).cons (by rw [hsk]; decide)
      (by rw [hsk]; decide))).cons (by rw [ht]; decide) (by rw [ht]; decide)
  case _ => -- an at-rule with a block
    intro t ts vals r errs hv s r2 hr hs hb b r3 e2 hblk ih ht herr
    rw [hblk] at ih
    rw [atRule_block hv hr hs hb hblk] at herr ⊢
    obtain ⟨he, he'⟩ := List.append_eq_nil_iff.mp herr
    have hp := values_scans_of_eq size hv he
    rw [hr] at hp
    exact (hp.scanned.trans (ih (by simpa using hb) he')).cons (by rw [ht]; decide)
      (by rw [ht]; decide)
  case _ => -- an at-rule ended by another token, left in place
    intro t ts vals r errs hv s r2 hr hs hb ht herr
    rw [atRule_left hv hr hs hb] at herr ⊢
    have hp := values_scans_of_eq size hv herr
    rw [hr] at hp
    exact (hp.scanned.of_eq (List.append_nil _).symm).cons (by rw [ht]; decide)
      (by rw [ht]; decide)
  case _ => -- an at-rule at the end of the text
    intro t ts vals r errs hv hr ht herr
    rw [atRule_end hv hr] at herr ⊢
    have hp := values_scans_of_eq size hv herr
    rw [hr] at hp
    exact (hp.scanned.of_eq (List.append_nil _).symm).cons (by rw [ht]; decide)
      (by rw [ht]; decide)
  case _ => -- a block
    intro t ts items stop r errs hbi ih ht herr
    rw [hbi] at ih
    rw [block_eq hbi] at herr ⊢
    exact (ih herr).cons (by rw [ht]; decide) (by rw [ht]; decide)
  case _ => -- no items left: the missing `}` is recorded
    intro herr
    rw [blockItems] at herr
    simp at herr
  case _ => -- the closing brace
    intro t tail hk _
    rw [blockItems_rbrace hk]
    exact (Scanned.refl tail).cons (by rw [hk]; decide) (by rw [hk]; decide)
  case _ => -- a stray semicolon
    intro t tail hk items stop r errs hbi ih herr
    rw [hbi] at ih
    rw [blockItems_semicolon hk hbi] at herr ⊢
    exact (ih herr).cons (by rw [hk]; decide) (by rw [hk]; decide)
  case _ => -- a nested at-rule, then the other items
    intro t tail hk rule r e1 hat items stop r' e2 hbi ih₁ ih₃ herr
    rw [hat] at ih₁
    rw [hbi] at ih₃
    rw [blockItems_atRule hk hat hbi] at herr ⊢
    obtain ⟨he, he'⟩ := List.append_eq_nil_iff.mp herr
    exact (ih₁ hk he).trans (ih₃ he')
  case _ => -- a declaration, then the other items
    intro t tail d r e1 hd items stop r' e2 hbi h₁ h₂ h₃ hdecl ih₃ herr
    rw [hbi] at ih₃
    have hident : t.kind = .ident := by
      simp only [Bool.and_eq_true, beq_iff_eq] at hdecl
      exact hdecl.1
    rw [blockItems_declaration h₁ h₂ h₃ hdecl hd hbi] at herr ⊢
    obtain ⟨he₁, he₂⟩ := List.append_eq_nil_iff.mp herr
    have ih₁ := declaration_scans size hident tail
    rw [hd] at ih₁
    dsimp only
    rw [itemsUrls_append]
    exact (ih₁ he₁).trans (ih₃ he₂)
  case _ => -- a nested qualified rule, then the other items
    intro t tail rule r e1 hq hlt items stop r' e2 hbi h₁ h₂ h₃ hdecl ih₄ ih₃ herr
    rw [hq] at ih₄
    rw [hbi] at ih₃
    rw [blockItems_qualified h₁ h₂ h₃ hdecl hq hlt hbi] at herr ⊢
    obtain ⟨he₁, he₂⟩ := List.append_eq_nil_iff.mp herr
    dsimp only
    rw [itemsUrls_append, itemsUrls_rules]
    exact (ih₄ he₁).trans (ih₃ he₂)
  case _ => -- a nested qualified rule that took nothing
    intro t tail rule r e1 hq hlt h₁ h₂ h₃ hdecl ih₄ herr
    rw [hq] at ih₄
    rw [blockItems_qualified_stuck h₁ h₂ h₃ hdecl hq hlt] at herr ⊢
    dsimp only
    rw [itemsUrls_rules]
    exact ih₄ herr
  case _ => -- a qualified rule with its block
    intro ts vals r errs hv s r2 hr hb b r3 e2 hblk ih herr
    rw [hblk] at ih
    rw [qualifiedRule_block hv hr hb hblk] at herr ⊢
    obtain ⟨he, he'⟩ := List.append_eq_nil_iff.mp herr
    have hp := values_scans_of_eq size hv he
    rw [hr] at hp
    simp only [Option.toList_some, List.flatMap_cons, List.flatMap_nil, List.append_nil,
      Rule.urls]
    exact hp.scanned.trans (ih (by simpa using hb) he')
  case _ => -- a prelude ended by a semicolon is recorded
    intro ts vals r errs hv s r2 hr hb hs herr
    rw [qualifiedRule_semicolon hv hr hb hs] at herr
    simp at herr
  case _ => -- a prelude ended by another token is recorded
    intro ts vals r errs hv s r2 hr hb hs herr
    rw [qualifiedRule_left hv hr hb hs] at herr
    simp at herr
  case _ => -- a prelude at the end of the text is recorded
    intro ts vals r errs hv hr herr
    rw [qualifiedRule_end hv hr] at herr
    simp at herr

/-- **The top-level rules, when they record no error, take every token**, and the scan of the
tokens finds the references of the rules. -/
theorem rules_scans (ts : List Token) (herr : (rules size ts).2 = []) :
    FindsFree ts ((rules size ts).1.flatMap Rule.urls) := by
  induction ts using rules.induct size with
  | case1 =>
    rw [rules]
    exact .nil
  | case2 t tail hk rule r e1 hat rs e2 hrs ih =>
    have h := (atRule_scans size).1 t tail hk
    rw [hat] at h
    rw [hrs] at ih
    rw [rules_atRule hk hat hrs] at herr ⊢
    obtain ⟨he, he'⟩ := List.append_eq_nil_iff.mp herr
    obtain ⟨pre, hts, hpre⟩ := h he
    rw [hts, List.flatMap_cons]
    exact hpre.append (ih he')
  | case3 t tail hk rs e2 hrs ih | case4 t tail hk rs e2 hrs ih =>
    -- a stray `}` or `;` is recorded
    rw [rules_stray (by simp only [hk, true_or, or_true]) hrs] at herr
    simp at herr
  | case5 t tail rule r e1 hq hlt rs e2 hrs h₁ h₂ h₃ ih =>
    have h := (atRule_scans size).2.2.2 (t :: tail)
    rw [hq] at h
    rw [hrs] at ih
    rw [rules_qualified h₁ h₂ h₃ hq hlt hrs] at herr ⊢
    obtain ⟨he, he'⟩ := List.append_eq_nil_iff.mp herr
    obtain ⟨pre, hts, hpre⟩ := h he
    rw [hts, List.flatMap_append]
    exact hpre.append (ih he')
  | case6 t tail rule r e1 hq hlt h₁ h₂ h₃ =>
    -- a qualified rule that took nothing: there is none
    have : (qualifiedRule size (t :: tail)).2.1.1.length < (t :: tail).length :=
      qualifiedRule_shrinks size h₂ h₃
    rw [hq] at this
    exact absurd this hlt

end Parser

/-- **The references of a text without errors are those its tokens show**, one for one and in
order: those the scan finds among the tokens other than comments. -/
theorem parse_urls_references (s : String) (h : (parse s).errors = []) :
    List.Forall₂ Reference.Gives (references ((tokenize s).filter Token.isSignificant))
      (parse s).stylesheet.urls := by
  simp only [parse, List.append_eq_nil_iff] at h
  exact (Parser.rules_scans s.utf8ByteSize _ h.2).2

/-- **The `url(` of every reference has a position** in the text. -/
theorem urls_lineColUtf16_isSome (s : String) :
    ∀ u ∈ (parse s).stylesheet.urls, ((LineIndex.ofString s).lineColUtf16 u.span.start).isSome := by
  intro u hu
  obtain ⟨f, hf, hopen⟩ := urls_opened s u hu
  obtain ⟨pre, a, b, c, rest, htext, hpre, -⟩ := hopen.urlOpensAt hf
  rw [← hpre]
  exact LineIndex.lineColUtf16_isSome htext

end StyleRebase.Css

namespace StyleRebase.Rebase

/-- **An occurrence is the reference it comes from**: at the position of its first token, with
its quote and raw value. -/
def Locates (index : LineIndex) (o : Occurrence) (r : Css.Reference) : Prop :=
  index.lineColUtf16 r.opener.span.start = some o.position ∧ o.quote = r.quote ∧ o.raw = r.raw

/-- References that all have a position give occurrences one for one. -/
theorem filterMap_occurrenceOf {index : LineIndex} {refs : List Css.Reference}
    {urls : List Css.UrlValue} (h : List.Forall₂ Css.Reference.Gives refs urls)
    (hpos : ∀ u ∈ urls, (index.lineColUtf16 u.span.start).isSome) :
    List.Forall₂ (Locates index) (urls.filterMap (occurrenceOf index)) refs := by
  induction h with
  | nil => exact .nil
  | @cons r u refs urls hg _ ih =>
    obtain ⟨position, hposition⟩ := Option.isSome_iff_exists.mp (hpos u List.mem_cons_self)
    have hocc : occurrenceOf index u =
        some { raw := u.value, quote := u.quote, span := u.valueSpan, position } := by
      simp [occurrenceOf, hposition]
    rw [List.filterMap_cons, hocc]
    obtain ⟨hstart, hquote, hraw⟩ := hg
    exact .cons ⟨by rw [← hstart, hposition], hquote, hraw⟩
      (ih fun u' hu' => hpos u' (List.mem_cons_of_mem u hu'))

/-- **Every reference once, in order.** For a text that parses without errors, the occurrences
`locate` finds are, one for one and in order, the references its tokens show (comments aside):
each `url(...)` token, and each `url(` function, in any ASCII case, followed by a string, except
those among the arguments after such a string, which the parser drops. Each occurrence sits at
the position of its reference's first token, with its quote and raw value. -/
theorem locate_finds_references (s : String) (h : (Css.parse s).errors = []) :
    List.Forall₂ (Locates (LineIndex.ofString s))
      (locate (Css.parse s).stylesheet (LineIndex.ofString s))
      (Css.references ((Css.tokenize s).filter Css.Token.isSignificant)) := by
  rw [locate_eq_filterMap]
  exact filterMap_occurrenceOf (Css.parse_urls_references s h) (Css.urls_lineColUtf16_isSome s)

/-- The scan drops `url(y)`, an argument after the string of a quoted reference, and finds the
references before and after it. -/
example : (Css.references ((Css.tokenize ".a\x7bb:url(\"x\" url(y)) url(z)\x7d").filter
    Css.Token.isSignificant)).map Css.Reference.raw = ["x".toList, "z".toList] := by
  decide +kernel

/-- A text with a quoted reference, a `url(...)` token among its dropped arguments, and an
unquoted reference after it. -/
theorem locate_finds_references_around_dropped :
    (Css.parse ".a\x7bb:url(\"x\" url(y)) url(z)\x7d").errors = [] ∧
      List.Forall₂ (Locates (LineIndex.ofString ".a\x7bb:url(\"x\" url(y)) url(z)\x7d"))
        (locate (Css.parse ".a\x7bb:url(\"x\" url(y)) url(z)\x7d").stylesheet
          (LineIndex.ofString ".a\x7bb:url(\"x\" url(y)) url(z)\x7d"))
        (Css.references ((Css.tokenize ".a\x7bb:url(\"x\" url(y)) url(z)\x7d").filter
          Css.Token.isSignificant)) :=
  ⟨by decide +kernel, locate_finds_references _ (by decide +kernel)⟩

/-- **A `url(...)` token among dropped arguments has no occurrence.** In
`url("x.png" url(y.png))` the string makes the function a quoted reference, and the `url(y.png)`
token after it is an argument the parser drops: the text parses without errors and has that
token, but its one occurrence is `x.png`. -/
theorem locate_skips_url_token_after_string :
    (Css.parse ".a\x7bb:url(\"x.png\" url(y.png))\x7d").errors = [] ∧
      (∃ t ∈ Css.tokenize ".a\x7bb:url(\"x.png\" url(y.png))\x7d",
        t.kind = .url ∧ t.text = "url(y.png)".toList) ∧
      (locate (Css.parse ".a\x7bb:url(\"x.png\" url(y.png))\x7d").stylesheet
        (LineIndex.ofString ".a\x7bb:url(\"x.png\" url(y.png))\x7d")).map (·.raw) = ["x.png".toList] :=
  ⟨by decide +kernel, by decide +kernel, by decide +kernel⟩

end StyleRebase.Rebase
