import StyleRebase.Idna.Mapping
import StyleRebase.Idna.Punycode
import StyleRebase.Idna.Label
import StyleRebase.Unicode.Normalization

/-! # Domain names to ASCII

A domain name as a URL host holds it is brought to ASCII by the processing of Unicode Technical
Standard 46, nontransitional, without checks on hyphens or lengths:

1. every code point is mapped by its status (valid and deviation ones kept, ignored ones
   dropped, mapped ones replaced); a disallowed one fails;
2. the result is put in normalization form C and split into labels at `.`;
3. no code point may be one a URL host refuses (the C0 controls, space, DEL, and
   `#%/:<>?@[\]^|`);
4. a label starting with `xn--` is decoded from Punycode: it must be ASCII, decode, give a label
   that is not empty and not all ASCII, already in form C and not itself starting with `xn--`;
5. every label must hold only valid or deviation code points, not start with a combining mark,
   and have its joiners in context; when the domain holds right-to-left text, every label must
   pass the Bidi rule;
6. each label is written in ASCII: as it is when it is ASCII, else as `xn--` and its Punycode.

* **`isDeniedAscii`** — the ASCII code points a URL host refuses.
* **`mapDomain?`** — step 1.
* **`toAscii?`** — the whole processing, `none` on failure. -/

namespace StyleRebase.Idna

/-- **The ASCII code points a URL host refuses.** -/
def isDeniedAscii (cp : Nat) : Bool :=
  cp ≤ 0x20 || cp == 0x7F || "#%/:<>?@[\\]^|".toList.contains (Char.ofNat cp)

/-- **Every code point mapped by its status**, or `none` at a disallowed one. -/
def mapDomain? (cps : List Nat) : Option (List Nat) :=
  (cps.mapM fun cp =>
    match status cp with
    | .valid | .deviation => some [cp]
    | .ignored => some []
    | .mapped target => some target
    | .disallowed => none).map List.flatten

/-- **The ASCII prefix of encoded labels.** -/
def acePrefix : List Nat := "xn--".toList.map Char.toNat

/-- **Whether a code point is ASCII.** -/
def isAscii (cp : Nat) : Bool := cp < 0x80

/-- **The Unicode form of a label**: a label starting with `xn--` decoded, under the rules of
step 4; any other label as it is. -/
def labelUnicode? (label : List Nat) : Option (List Nat) :=
  if acePrefix.isPrefixOf label then do
    if !label.all isAscii then none
    let decoded ← Punycode.decode ((label.drop 4).map Char.ofNat)
    if decoded.isEmpty || decoded.all isAscii then none
    if !Unicode.isNfc decoded || acePrefix.isPrefixOf decoded then none
    pure decoded
  else some label

/-- **Whether a label in Unicode form is valid** under the rules of step 5 other than the Bidi
rule. -/
def labelValid (label : List Nat) : Bool :=
  label.all isAllowed && !startsWithMark label && joinersInContext label

/-- **The ASCII form of a valid label**: the label as it came when it was encoded or is ASCII,
else `xn--` and its Punycode. -/
def labelAscii? (given unicode : List Nat) : Option (List Char) :=
  if given.all isAscii then some (given.map Char.ofNat)
  else (Punycode.encode unicode).map ("xn--".toList ++ ·)

/-- **A domain name brought to ASCII**, or `none` when the processing fails. -/
def toAscii? (cs : List Char) : Option (List Char) := do
  let mapped ← mapDomain? (cs.map Char.toNat)
  let normal := Unicode.nfc mapped
  if normal.any isDeniedAscii then none
  let labels := normal.splitOn 0x2E
  let unicode ← labels.mapM labelUnicode?
  if !unicode.all labelValid then none
  if unicode.any (·.any isBidiDomainChar) && !unicode.all passesBidi then none
  let ascii ← (labels.zip unicode).mapM fun (given, label) => labelAscii? given label
  pure (['.'].intercalate ascii)

end StyleRebase.Idna
