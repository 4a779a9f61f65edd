import StyleRebase.Rebase.Locate
import StyleRebase.Text.OffsetMap
import StyleRebase.Text.Utf8

/-! # Writing rebased references into a stylesheet

Once each reference has its new value, the stylesheet is written again: the text between
references is copied, each reference's value is replaced by the new value inside the same
quotes, and an offset map records which stretch of the output came from where.

* **`Decision`** — a reference with the file it came from, the path it resolved to and the
  value written in its place.
* **`Record`** — what the rebase reports for a reference: the value as written, the resolved
  path and the new value.
* **`Spliced`** — the new text, its offset map and the records, in the order of the decisions.
* **`splice`** — a text with the decisions written in, or the first range that cannot be cut from it (a range
  that starts before the previous one ended, runs past the end or cuts a character). -/

namespace StyleRebase.Rebase

/-- **A decision on one reference.** -/
structure Decision where
  occurrence : Occurrence
  /-- The source file the reference was written in. -/
  source : List Char
  /-- The reference read against that file. -/
  resolved : List Char
  /-- The value written in place of the reference. -/
  rebased : List Char
  deriving DecidableEq, Repr, Inhabited

/-- **What is reported for a rebased reference.** -/
structure Record where
  raw : List Char
  resolved : List Char
  rebased : List Char
  deriving DecidableEq, Repr, Inhabited

/-- **The record of a decision.** -/
def Decision.record (d : Decision) : Record := ⟨d.occurrence.raw, d.resolved, d.rebased⟩

/-- **The text written in place of a reference**: the new value in the old quotes. -/
def Decision.replacement (d : Decision) : List Char :=
  d.occurrence.quote.mark ++ d.rebased ++ d.occurrence.quote.mark

/-- **A stylesheet with its references rebased.** -/
structure Spliced where
  css : List Char
  offsets : OffsetMap
  records : List Record
  deriving Repr, Inhabited

/-- **Splicing state**: the output so far (in reverse chunks), the offset map being recorded and
the byte offset up to which the input has been consumed. -/
structure SpliceState where
  chunks : List (List Char) := []
  offsets : OffsetMap.Builder := {}
  cursor : Nat := 0

/-- **Apply one decision**: copy the text from the cursor to the reference, then write the
replacement; the cursor moves to the end of the reference. The copy must be a range of the text
that starts and ends between characters. -/
def SpliceState.apply (text : List Char) (st : SpliceState) (d : Decision) :
    Except Span SpliceState := do
  let span := d.occurrence.span
  let copied ← (sliceBytes text st.cursor span.start).elim (throw ⟨st.cursor, span.start⟩) pure
  let offsets := st.offsets.addSource (utf8Length copied)
  let replacement := d.replacement
  match offsets.addTransformed span (utf8Length replacement) with
  | .ok offsets' =>
    pure { chunks := replacement :: copied :: st.chunks, offsets := offsets', cursor := span.stop }
  | .error e => throw e.input

/-- **Write decisions into a text**, taken in order. -/
def splice (text : List Char) (decisions : List Decision) : Except Span Spliced := do
  let st ← decisions.foldlM (SpliceState.apply text) {}
  let rest ← (splitAtByte text st.cursor).elim (throw ⟨st.cursor, utf8Length text⟩)
    fun (_, r) => pure r
  let offsets := st.offsets.addSource (utf8Length rest)
  pure { css := (rest :: st.chunks).reverse.flatten
         offsets := offsets.build
         records := decisions.map Decision.record }

end StyleRebase.Rebase
