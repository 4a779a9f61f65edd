import StyleRebase.Unicode.CombiningClass
import StyleRebase.Unicode.DecompositionData

/-! # Canonical composition

Normalization Form C of the Unicode Standard (UAX 15): every character is decomposed canonically
and fully, the marks of each run of non-starters are put in order of their combining classes
(equal classes keep their order), and then each character is composed with the last starter
before it when no character in between blocks it (a starter, or a mark of the same or a higher
class) and the two form a primary composite. Hangul syllables are decomposed and composed by
rule.

* **`decompose`** — the full canonical decomposition of a code point.
* **`canonicalOrder`** — the marks of each run put in order.
* **`composePair`**, **`compose`** — canonical composition.
* **`nfc`** — the normal form; **`isNfc`** — whether a text is in it. -/

namespace StyleRebase.Unicode

/-- **The canonical decompositions**, ordered by code point. -/
def decompositionTable : Array (Nat × List Nat) :=
  ((entries decompositionText).filterMap fun (cp, fields) =>
    (fields.mapM hexValue?).map (cp, ·)).toArray

/-- **The primary composites**, ordered by the pair they compose. -/
def compositionTable : Array ((Nat × Nat) × Nat) :=
  ((entries compositionText).filterMap fun (a, fields) =>
    match fields.mapM hexValue? with
    | some [b, c] => some ((a, b), c)
    | _ => none).toArray

/-- **The first Hangul syllable.** -/
def syllableBase : Nat := 0xAC00

/-- **The first leading consonant.** -/
def leadBase : Nat := 0x1100

/-- **The first vowel.** -/
def vowelBase : Nat := 0x1161

/-- **The code point before the first trailing consonant.** -/
def trailBase : Nat := 0x11A7

/-- **The number of leading consonants.** -/
def leadCount : Nat := 19

/-- **The number of vowels.** -/
def vowelCount : Nat := 21

/-- **The number of trailing consonants**, none counted as one. -/
def trailCount : Nat := 28

/-- **The number of Hangul syllables.** -/
def syllableCount : Nat := 11172

/-- **Whether a code point is a Hangul syllable.** -/
def isSyllable (cp : Nat) : Bool := syllableBase ≤ cp && cp < syllableBase + syllableCount

/-- **One step of canonical decomposition**, if the code point has one: a Hangul syllable
becomes its consonants and vowel. -/
def decomposeOnce (cp : Nat) : Option (List Nat) :=
  if isSyllable cp then
    let s := cp - syllableBase
    let lead := leadBase + s / (vowelCount * trailCount)
    let vowel := vowelBase + s % (vowelCount * trailCount) / trailCount
    let trail := s % trailCount
    some (if trail == 0 then [lead, vowel] else [lead, vowel, trailBase + trail])
  else
    match Bisect.bisect (fun e => compare e.1 cp) decompositionTable with
    | .found i => decompositionTable[i]?.map (·.2)
    | .insertAt _ => none

/-- **Decompose repeatedly**, at most `depth` steps deep. -/
def decomposeTo : Nat → Nat → List Nat
  | 0, cp => [cp]
  | depth + 1, cp =>
    match decomposeOnce cp with
    | some parts => parts.flatMap (decomposeTo depth)
    | none => [cp]

/-- **The full canonical decomposition of a code point**; no decomposition nests four steps
deep. -/
def decompose (cp : Nat) : List Nat := decomposeTo 4 cp

/-- **A run of marks in order of combining class**, equal classes keeping their order. -/
def orderRun (run : List Nat) : List Nat :=
  run.mergeSort fun a b => combiningClass a ≤ combiningClass b

/-- **The marks of each run of non-starters put in order.** -/
def canonicalOrder (cps : List Nat) : List Nat :=
  let (done, run) := cps.foldl (fun (done, run) c =>
    if combiningClass c == 0 then (done ++ orderRun run ++ [c], [])
    else (done, run ++ [c])) ([], [])
  done ++ orderRun run

/-- **Compare a composition entry's pair with a pair.** -/
def comparePair (p q : Nat × Nat) : Ordering :=
  match compare p.1 q.1 with
  | .eq => compare p.2 q.2
  | o => o

/-- **The primary composite of two code points**, if any: a leading consonant and a vowel, or a
syllable without trailing consonant and a trailing consonant, form a Hangul syllable. -/
def composePair (a b : Nat) : Option Nat :=
  if leadBase ≤ a && a < leadBase + leadCount && vowelBase ≤ b && b < vowelBase + vowelCount then
    some (syllableBase + ((a - leadBase) * vowelCount + (b - vowelBase)) * trailCount)
  else if isSyllable a && (a - syllableBase) % trailCount == 0 && trailBase < b &&
      b < trailBase + trailCount then
    some (a + (b - trailBase))
  else
    match Bisect.bisect (fun e => comparePair e.1 (a, b)) compositionTable with
    | .found i => compositionTable[i]?.map (·.2)
    | .insertAt _ => none

/-- **State of composition**: the text so far, where its last starter stands, and the class of
the last character kept after it (0 when none, 256 when the text starts with a mark). -/
structure Composing where
  out : Array Nat
  starter : Nat
  lastClass : Nat

/-- **Compose one more character** with the last starter, when nothing blocks it. -/
def Composing.step (st : Composing) (c : Nat) : Composing :=
  let cls := combiningClass c
  let merged :=
    if st.lastClass < cls || st.lastClass == 0 then
      (st.out[st.starter]?).bind (composePair · c)
    else none
  match merged with
  | some p => { st with out := st.out.setIfInBounds st.starter p }
  | none =>
    { out := st.out.push c, starter := if cls == 0 then st.out.size else st.starter
      lastClass := cls }

/-- **Canonical composition** of a decomposed, ordered text. -/
def compose : List Nat → List Nat
  | [] => []
  | first :: rest =>
    let init : Composing := ⟨#[first], 0, if combiningClass first == 0 then 0 else 256⟩
    (rest.foldl Composing.step init).out.toList

/-- **Normalization Form C of a text.** -/
def nfc (cps : List Nat) : List Nat := compose (canonicalOrder (cps.flatMap decompose))

/-- **Whether a text is in Normalization Form C.** -/
def isNfc (cps : List Nat) : Bool := nfc cps == cps

end StyleRebase.Unicode
