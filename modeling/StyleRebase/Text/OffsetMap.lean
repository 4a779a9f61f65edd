import StyleRebase.Text.Span
import StyleRebase.Search.Bisect

/-! # Offsets through an edit

An edit of a text copies some stretches and replaces others. An **offset map** records the
stretches in order, each with its byte range in the text before the edit (the input) and after
it (the output), so that a position can be carried from one to the other: inside a copied
stretch it keeps its distance from the start, inside a replaced one it goes to the start of the
replacement, and the end of the input goes to the end of the output.

* **`Segment`** — a copied or replaced stretch with its input and output ranges.
* **`OffsetMap.Builder`** — records stretches in input order; `addTransformed` refuses a
  replaced range that does not start where the last stretch ended.
* **`OffsetMap.segmentAtBy?`**, **`OffsetMap.outputOffsetBy?`** — the stretch holding an input
  offset, as a search over the input starts finds it, and where the offset lands in the output;
  `segmentAt?` and `outputOffset?` find it by bisection.

Offsets and lengths are natural numbers; the maps they describe are those of texts shorter than
2^32 bytes, whose offsets are 32-bit numbers. -/

namespace StyleRebase

/-- **Whether a stretch was copied or replaced.** -/
inductive SegmentKind where
  | copied
  | replaced
  deriving DecidableEq, Repr, Inhabited

/-- **A stretch of an edit**: its range before and after the edit. -/
structure Segment where
  input : Span
  output : Span
  kind : SegmentKind
  deriving DecidableEq, Repr, Inhabited

/-- **The stretches of an edit**, in input order, with the lengths of both texts. -/
structure OffsetMap where
  segments : Array Segment
  inputLen : Nat
  outputLen : Nat
  deriving Repr, Inhabited

namespace OffsetMap

/-- **An offset map being recorded**: the stretches so far and where they end. -/
structure Builder where
  segments : Array Segment := #[]
  inputOffset : Nat := 0
  outputOffset : Nat := 0
  deriving Repr, Inhabited

/-- **A replaced range that does not start where the recorded stretches end.** -/
structure OutOfOrder where
  /-- The range that was offered. -/
  input : Span
  /-- Where it had to start. -/
  expected : Nat
  deriving DecidableEq, Repr

namespace Builder

/-- **Record a stretch** covering `input` in the input and `outputLen` bytes of output. -/
def push (b : Builder) (input : Span) (outputLen : Nat) (kind : SegmentKind) : Builder :=
  let output : Span := ⟨b.outputOffset, b.outputOffset + outputLen⟩
  { segments := b.segments.push ⟨input, output, kind⟩
    inputOffset := input.stop
    outputOffset := output.stop }

/-- **Record copied text** of `len` bytes; nothing is recorded for empty text. -/
def addSource (b : Builder) (len : Nat) : Builder :=
  if len == 0 then b
  else b.push ⟨b.inputOffset, b.inputOffset + len⟩ len .copied

/-- **Record a replacement** of the input range `input` by `outputLen` bytes. The range must
start where the recorded stretches end; it is recorded as given, and the next stretch starts
at its end. -/
def addTransformed (b : Builder) (input : Span) (outputLen : Nat) : Except OutOfOrder Builder :=
  if input.start == b.inputOffset then pure (b.push input outputLen .replaced)
  else throw ⟨input, b.inputOffset⟩

/-- **The finished map.** -/
def build (b : Builder) : OffsetMap := ⟨b.segments, b.inputOffset, b.outputOffset⟩

@[simp] theorem push_inputOffset (b : Builder) (input : Span) (outputLen : Nat)
    (kind : SegmentKind) : (b.push input outputLen kind).inputOffset = input.stop := rfl

/-- Copied text moves the input offset by its length. -/
@[simp] theorem addSource_inputOffset (b : Builder) (len : Nat) :
    (b.addSource len).inputOffset = b.inputOffset + len := by
  unfold addSource
  split
  · simp_all
  · rfl

/-- A replacement that starts where the recorded stretches end is recorded. -/
theorem addTransformed_of_start {b : Builder} {input : Span} (outputLen : Nat)
    (h : input.start = b.inputOffset) :
    b.addTransformed input outputLen = .ok (b.push input outputLen .replaced) := by
  unfold addTransformed
  rw [if_pos (by simp [h])]
  rfl

end Builder

/-- **Number of stretches.** -/
def size (m : OffsetMap) : Nat := m.segments.size

/-- **The replaced stretches**, in order. -/
def replacements (m : OffsetMap) : List Segment :=
  m.segments.toList.filter (·.kind == .replaced)

/-- **The stretch holding an input offset, as a search finds it**: the last stretch whose input
starts at or before the offset, by the search's report, when its input range contains the
offset. -/
def segmentAtBy? (search : Bisect.Search Segment) (m : OffsetMap) (offset : Nat) :
    Option Segment := do
  let i ← (search (fun s => compare s.input.start offset) m.segments).lastNotAbove?
  let s ← m.segments[i]?
  if s.input.contains offset then some s else none

/-- **Where an input offset lands in the output, as a search finds its stretch**: the end goes
to the end, an offset in a copied stretch keeps its distance from the stretch's start, one in a
replaced stretch goes to the start of the replacement. -/
def outputOffsetBy? (search : Bisect.Search Segment) (m : OffsetMap) (offset : Nat) :
    Option Nat :=
  if offset == m.inputLen then some m.outputLen
  else
    (m.segmentAtBy? search offset).map fun s =>
      match s.kind with
      | .copied => s.output.start + (offset - s.input.start)
      | .replaced => s.output.start

/-- **The stretch holding an input offset**, found by bisection on the input starts. -/
def segmentAt? (m : OffsetMap) (offset : Nat) : Option Segment :=
  m.segmentAtBy? Bisect.bisect offset

/-- **Where an input offset lands in the output**, its stretch found by bisection. -/
def outputOffset? (m : OffsetMap) (offset : Nat) : Option Nat :=
  m.outputOffsetBy? Bisect.bisect offset

end OffsetMap

end StyleRebase
