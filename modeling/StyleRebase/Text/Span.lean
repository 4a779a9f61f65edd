/-! # Byte spans of UTF-8 text

Every position in this library is a **byte offset** into UTF-8 text, and every stretch of text
is a half-open byte range `[start, stop)`.

Offsets are natural numbers. Those of the texts read are 32-bit numbers, taken from a
machine-sized offset by truncation, so everything said here about offsets is said of texts
shorter than 2^32 bytes, where the two agree.

* **`Span`** — the range, with `Span.empty`, `Span.length` and `Span.contains`.
* `Span.contains_iff` — an offset is inside exactly when `start ≤ o < stop`, so an empty span
  contains nothing. -/

namespace StyleRebase

/-- **A half-open byte range** `[start, stop)` of a UTF-8 text. Nothing forces `start ≤ stop`:
a range handed in from outside is kept as given, and the operations below read it literally. -/
structure Span where
  /-- The first byte of the range. -/
  start : Nat
  /-- The byte just past the range. -/
  stop : Nat
  deriving DecidableEq, Repr, Inhabited

namespace Span

/-- **The empty span at an offset**, `[o, o)`. -/
def empty (o : Nat) : Span := ⟨o, o⟩

/-- **Number of bytes** a span covers (zero when it is reversed). -/
def length (s : Span) : Nat := s.stop - s.start

/-- **Whether an offset lies inside** the span: `start ≤ o < stop`. -/
def contains (s : Span) (o : Nat) : Bool := decide (s.start ≤ o) && decide (o < s.stop)

/-- `contains` is the half-open interval test. -/
theorem contains_iff (s : Span) (o : Nat) : s.contains o = true ↔ s.start ≤ o ∧ o < s.stop := by
  simp [contains]

/-- An empty span contains no offset. -/
@[simp] theorem contains_empty (o p : Nat) : (empty o).contains p = false := by
  cases h : (empty o).contains p
  · rfl
  · rw [contains_iff] at h
    simp only [empty] at h
    omega

end Span

end StyleRebase
