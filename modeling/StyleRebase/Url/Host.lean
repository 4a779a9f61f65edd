import StyleRebase.Text.Utf8Codec
import StyleRebase.Encoding.Percent
import StyleRebase.Idna.Domain

/-! # Hosts of URLs

What the host of a URL may be, following the URL standard: a bracketed IPv6 address, an IPv4
address (a domain whose last label is a number must be one), a domain, or, for schemes without
special meaning, an opaque host.

* **`Host`** — the kinds of host.
* **`ipv4Number?`**, **`ipv4?`** — numbers and addresses written in decimal, octal (`0` prefix)
  or hexadecimal (`0x` prefix), with one to four parts.
* **`validIpv6`** — whether the text between brackets is an IPv6 address.
* **`parseHost?`** — the host of a URL with a special scheme: percent-decoded, brought to ASCII
  (`Idna.toAscii?`), checked against the characters a domain may not hold, read as IPv4 when it
  ends in a number.
* **`parseOpaqueHost?`** — the host of any other URL. -/

namespace StyleRebase.Url

/-- **A host.** -/
inductive Host where
  /-- A domain name, lowered. -/
  | domain (name : List Char)
  /-- An IPv4 address as a 32-bit number. -/
  | ipv4 (address : Nat)
  /-- A bracketed IPv6 address. -/
  | ipv6
  /-- The host of a URL whose scheme has no special meaning, kept as written. -/
  | unqualified (name : List Char)
  deriving DecidableEq, Repr, Inhabited

/-- **Characters no host may contain**: NUL, tab, LF, CR, space, `#`, `/`, `:`, `<`, `>`,
`?`, `@`, `[`, `\`, `]`, `^` and `|`. -/
def isForbiddenHostChar (c : Char) : Bool :=
  c == '\x00' || c == '\t' || c == '\n' || c == '\r' || c == ' ' || c == '#' || c == '/' ||
    c == ':' || c == '<' || c == '>' || c == '?' || c == '@' || c == '[' || c == '\\' ||
    c == ']' || c == '^' || c == '|'

/-- **Characters no domain may contain**: the host ones, the other C0 controls, `%` and DEL. -/
def isForbiddenDomainChar (c : Char) : Bool :=
  isForbiddenHostChar c || c.toNat ≤ 0x1F || c == '%' || c == '\x7f'

/-- **Value of a digit in a radix**, if it is one. -/
def digitIn (radix : Nat) (c : Char) : Option Nat :=
  let v :=
    if c.isDigit then some (c.toNat - '0'.toNat)
    else if 'a' ≤ c ∧ c ≤ 'f' then some (c.toNat - 'a'.toNat + 10)
    else if 'A' ≤ c ∧ c ≤ 'F' then some (c.toNat - 'A'.toNat + 10)
    else none
  v.bind fun d => if d < radix then some d else none

/-- **Read digits in a radix**, or `none` if one is not a digit of it. -/
def readRadix (radix : Nat) (cs : List Char) : Option Nat :=
  cs.foldlM (fun acc c => (digitIn radix c).map (acc * radix + ·)) 0

/-- **A part of an IPv4 address**: hexadecimal after `0x`, octal after a leading `0`, decimal
otherwise; an empty part is refused, a bare prefix is zero. `some none` is a number too large
for 32 bits. -/
def ipv4Number? (cs : List Char) : Option (Option Nat) :=
  if cs.isEmpty then none
  else
    let (radix, digits) : Nat × List Char :=
      match cs with
      | '0' :: 'x' :: r => (16, r)
      | '0' :: 'X' :: r => (16, r)
      | '0' :: r@(_ :: _) => (8, r)
      | r => (10, r)
    if digits.isEmpty then some (some 0)
    else (readRadix radix digits).map fun n => if n < Nat.pow 2 32 then some n else none

/-- **Whether a domain ends in a number**: its last label (a trailing empty label ignored) is all
decimal digits or reads as an IPv4 number. -/
def endsInNumber (domain : List Char) : Bool :=
  let parts := (domain.splitOn '.').reverse
  let last? : Option (List Char) :=
    match parts with
    | [] :: next :: _ => some next
    | [] :: [] => none
    | last :: _ => some last
    | [] => none
  match last? with
  | none => false
  | some last =>
    (!last.isEmpty && last.all Char.isDigit) || (ipv4Number? last).isSome

/-- **An IPv4 address**: one to four numbers separated by dots (a trailing dot allowed), all but
the last below 256, the last filling the remaining bytes. -/
def ipv4? (domain : List Char) : Option Nat := do
  let parts0 := domain.splitOn '.'
  let parts := if parts0.getLast? == some [] then parts0.dropLast else parts0
  if parts.length > 4 then none
  let numbers ← parts.mapM fun p => (ipv4Number? p).bind id
  match numbers.reverse with
  | [] => none
  | last :: firstRev =>
    let first := firstRev.reverse
    if last ≥ Nat.pow 256 (4 - first.length) then none
    if first.any (· > 255) then none
    pure (first.foldl (fun acc n => acc * 256 + n) 0 * Nat.pow 256 (4 - first.length) + last)

/-- **Read the dotted IPv4 tail of an IPv6 address** (the characters from where the last piece
began): four decimal numbers below 256 without leading zeros. -/
def ipv6DottedTail (cs : List Char) : Bool :=
  let parts := cs.splitOn '.'
  parts.length == 4 && parts.all fun p =>
    !p.isEmpty && p.all Char.isDigit && (p.length == 1 || p.head? != some '0') &&
      (readRadix 10 p).getD 256 < 256

/-- **Reading the pieces of an IPv6 address**: `idx` counts the pieces read so far (a `::`
counts as one) and `comp` tells whether `::` was seen. Each piece is one to four hexadecimal
digits followed by `:` or the end; a dotted IPv4 tail (worth two pieces) may end the text. The
result is the final count and whether `::` was seen, or `none` on a malformed address. -/
def ipv6Pieces : Nat → Bool → List Char → Option (Nat × Bool)
  | idx, comp, [] => some (idx, comp)
  | idx, comp, c :: rest =>
    if idx == 8 then none
    else if c == ':' then
      if comp then none else ipv6Pieces (idx + 1) true rest
    else
      let hex := ((c :: rest).takeWhile fun d => (digitIn 16 d).isSome).take 4
      match h : (c :: rest).drop hex.length with
      | '.' :: _ =>
        if hex.isEmpty || idx > 6 then none
        else if ipv6DottedTail (c :: rest) then some (idx + 2, comp) else none
      | ':' :: [] => none
      | ':' :: after =>
        if hex.isEmpty then none else ipv6Pieces (idx + 1) comp after
      | [] => if hex.isEmpty then none else some (idx + 1, comp)
      | _ => none
termination_by _ _ cs => cs.length
decreasing_by
  all_goals simp_wf
  all_goals first
    | omega
    | (have h2 := congrArg List.length h
       simp only [List.length_drop, List.length_cons] at h2
       omega)

/-- **Whether the text between brackets is an IPv6 address**: eight pieces, or fewer with one
`::` standing for the missing ones. -/
def validIpv6 (cs : List Char) : Bool :=
  let start : Option (List Char × Nat × Bool) :=
    match cs with
    | ':' :: ':' :: rest => some (rest, 1, true)
    | ':' :: _ => none
    | _ => some (cs, 0, false)
  match start with
  | none => false
  | some (rest, idx, comp) =>
    match ipv6Pieces idx comp rest with
    | some (n, c) => c || n == 8
    | none => false

/-- **The host of a URL with a special scheme.** -/
def parseHost? (cs : List Char) : Option Host :=
  match cs with
  | '[' :: inner =>
    if cs.getLast? == some ']' && validIpv6 inner.dropLast then some .ipv6 else none
  | _ => do
    let decoded := utf8DecodeLossy (Encoding.percentDecode (utf8Encode cs))
    let domain ← Idna.toAscii? decoded
    if domain.isEmpty then none
    if domain.any isForbiddenDomainChar then none
    if endsInNumber domain then (ipv4? domain).map Host.ipv4
    else some (.domain domain)

/-- **The host of a URL with any other scheme**: a bracketed IPv6 address, or any text without
a forbidden host character. -/
def parseOpaqueHost? (cs : List Char) : Option Host :=
  match cs with
  | '[' :: inner =>
    if cs.getLast? == some ']' && validIpv6 inner.dropLast then some .ipv6 else none
  | _ => if cs.any isForbiddenHostChar then none else some (.unqualified cs)

end StyleRebase.Url
