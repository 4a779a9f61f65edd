import Mathlib.Data.List.Basic
import Mathlib.Data.List.TakeWhile
import StyleRebase.Proofs.Base64Text
import StyleRebase.Rebase.Engine

/-! # A source map embedded in a stylesheet is the map given as JSON

A stylesheet may carry its source map in its last `/*# sourceMappingURL=... */` comment, as a
`data:` URL: the JSON in base64, or percent-encoded behind a JSON media type. Whenever the comment
is written so that it reads back (the payload escapes `%`, white space, `*`, `,` and every byte
outside ASCII, and the parameters hold none of these), a run that finds the map in the stylesheet
is the run that is given the same JSON: same requests, same result, same records.

The way there follows the reader of the map: the directive gives the URL back
(`mappingUrl?_directive`), the URL's header is split and recognised as JSON
(`decodeDataUrl_json`), and the payload decodes to the document, base64 by `decode_encode` and
percent-encoding by induction over the encoding.

* **`PercentEncoded`** — a text that spells a byte string, each byte as itself or escaped.
* **`Base64.text`** — the base64 encoding of a byte string, as characters.
* **`CarriesJson`** — a `data:` URL holding a JSON document in one of the two forms.
* **`EmbedsMap`** — the last comment of a stylesheet that names a source map names such a URL.
* **`decodeDataUrl_of_carriesJson`** — the URL decodes to the document.
* **`runIn_embedded_eq_given`** — a run with the embedded map is a run given the document. -/

namespace StyleRebase

/-! ## (1) ASCII text as bytes -/

/-- An ASCII character is one byte, its code. -/
theorem charUtf8_of_lt {c : Char} (h : c.toNat < 0x80) : charUtf8 c = [c.toNat.toUInt8] := by
  simp [charUtf8, h]

/-- An ASCII byte, read as a character and written back, is the byte. -/
theorem charUtf8_ofNat_toNat {b : UInt8} (h : b.toNat < 0x80) :
    charUtf8 (Char.ofNat b.toNat) = [b] := by
  have hv : b.toNat.isValidChar := Or.inl (by omega)
  have hc : (Char.ofNat b.toNat).toNat = b.toNat := by
    rw [Char.ofNat, dif_pos hv]
    rfl
  rw [charUtf8_of_lt (by rw [hc]; exact h), hc, Nat.toUInt8_eq, UInt8.ofNat_toNat]

namespace Encoding

/-! ## (2) Percent-encoded text -/

/-- **Bytes that a percent-encoded payload must escape**: `%`, `*`, `,`, white space and every
byte outside ASCII (these are written as characters only when they are ASCII). -/
def mustEscape (c : Char) : Bool :=
  c == '%' || c == '*' || c == ',' || isWhiteSpace c || decide (0x80 ≤ c.toNat)

/-- **A hexadecimal digit** of a value below 16, in upper or lower case. -/
def hexDigit (upper : Bool) (v : Nat) : Char :=
  if v < 10 then Char.ofNat (0x30 + v)
  else Char.ofNat ((if upper then 0x41 else 0x61) + (v - 10))

/-- **`text` spells the bytes `bytes` in percent-encoding**: each byte is written as `%` and its
two hexadecimal digits (either case), or, when it need not be escaped, as the ASCII character it
is. -/
inductive PercentEncoded : List Char → List UInt8 → Prop
  | nil : PercentEncoded [] []
  | plain {c : Char} {text : List Char} {bytes : List UInt8} : mustEscape c = false →
      PercentEncoded text bytes → PercentEncoded (c :: text) (c.toNat.toUInt8 :: bytes)
  | escaped {b : UInt8} (upper₁ upper₂ : Bool) {text : List Char} {bytes : List UInt8} :
      PercentEncoded text bytes →
      PercentEncoded
        ('%' :: hexDigit upper₁ (b.toNat / 16) :: hexDigit upper₂ (b.toNat % 16) :: text)
        (b :: bytes)

theorem hexDigit_ascii : ∀ u, ∀ v < 16,
    charUtf8 (hexDigit u v) = [(hexDigit u v).toNat.toUInt8] ∧
      hexValue? (hexDigit u v).toNat.toUInt8 = some v ∧ mustEscape (hexDigit u v) = false := by
  decide

/-- A byte other than `%` stands for itself. -/
theorem percentDecode_cons_of_ne {b : UInt8} (h : b ≠ 0x25) (rest : List UInt8) :
    percentDecode (b :: rest) = b :: percentDecode rest := by
  rw [percentDecode.eq_def]
  dsimp only
  rw [if_neg (by simpa using h)]

/-- `%` and two hexadecimal digits stand for the byte they spell. -/
theorem percentDecode_escape {h l : UInt8} {x y : Nat} (hx : hexValue? h = some x)
    (hy : hexValue? l = some y) (rest : List UInt8) :
    percentDecode (0x25 :: h :: l :: rest) = (x * 16 + y).toUInt8 :: percentDecode rest := by
  rw [percentDecode.eq_def]
  simp [hx, hy]

/-- **Percent-decoding reads back a percent-encoded text**, taken as the bytes of its characters.
The induction follows the text, one plain character or one escape at a time. -/
theorem percentDecode_of_encoded {text : List Char} {bytes : List UInt8}
    (h : PercentEncoded text bytes) : percentDecode (utf8Encode text) = bytes := by
  induction h with
  | nil => simp [utf8Encode, percentDecode]
  | @plain c text bytes hc _ ih =>
    simp only [mustEscape, Bool.or_eq_false_iff, beq_eq_false_iff_ne, decide_eq_false_iff_not]
      at hc
    have hlt : c.toNat < 0x80 := by omega
    -- the byte is the character's code, and `%` is the only character with code 37
    have hne : c.toNat.toUInt8 ≠ 0x25 := by
      intro heq
      have h37 : c.toNat = '%'.toNat := by
        have := congrArg UInt8.toNat heq
        simp at this
        simp
        omega
      exact hc.1.1.1.1 (Char.toNat_inj.mp h37)
    rw [utf8Encode, List.flatMap_cons, charUtf8_of_lt hlt, List.singleton_append,
      percentDecode_cons_of_ne hne, ← utf8Encode, ih]
  | @escaped b u₁ u₂ text bytes _ ih =>
    have hb := b.toNat_lt
    obtain ⟨h₁, hx, -⟩ := hexDigit_ascii u₁ (b.toNat / 16) (by omega)
    obtain ⟨h₂, hy, -⟩ := hexDigit_ascii u₂ (b.toNat % 16) (by omega)
    rw [utf8Encode, List.flatMap_cons, List.flatMap_cons, List.flatMap_cons,
      show charUtf8 '%' = [0x25] from rfl, h₁, h₂, List.singleton_append, List.singleton_append,
      List.singleton_append, percentDecode_escape hx hy, ← utf8Encode, ih]
    congr 1
    apply UInt8.toNat.inj
    simp
    omega

/-- **A percent-encoded text holds no white space**: white space is always escaped. -/
theorem PercentEncoded.white {text : List Char} {bytes : List UInt8}
    (h : PercentEncoded text bytes) : ∀ c ∈ text, isWhiteSpace c = false := by
  induction h with
  | nil => simp
  | @plain c text bytes hc _ ih =>
    intro d hd
    rcases List.mem_cons.mp hd with rfl | hd
    · simp only [mustEscape, Bool.or_eq_false_iff] at hc
      exact hc.1.2
    · exact ih d hd
  | @escaped b u₁ u₂ text bytes _ ih =>
    have hb := b.toNat_lt
    have h₁ := (hexDigit_ascii u₁ (b.toNat / 16) (by omega)).2.2
    have h₂ := (hexDigit_ascii u₂ (b.toNat % 16) (by omega)).2.2
    simp only [mustEscape, Bool.or_eq_false_iff] at h₁ h₂
    intro d hd
    simp only [List.mem_cons] at hd
    rcases hd with rfl | rfl | rfl | hd
    · decide
    · exact h₁.1.2
    · exact h₂.1.2
    · exact ih d hd

end Encoding

/-! ## (3) Case-blind comparison, trimming and joining -/

/-- **Equality up to ASCII case is equality of the lower-cased texts.** -/
theorem eqIgnoreAsciiCase_iff (a b : List Char) :
    eqIgnoreAsciiCase a b = true ↔ a.map Char.toLower = b.map Char.toLower := by
  induction a generalizing b with
  | nil => cases b <;> simp [eqIgnoreAsciiCase]
  | cons x a ih =>
    cases b with
    | nil => simp [eqIgnoreAsciiCase]
    | cons y b =>
      have := ih b
      simp only [eqIgnoreAsciiCase, List.length_cons, List.zip_cons_cons, List.all_cons,
        Bool.and_eq_true, beq_iff_eq, List.map_cons, List.cons.injEq] at this ⊢
      constructor
      · rintro ⟨hlen, hxy, hall⟩
        exact ⟨hxy, this.mp ⟨by omega, hall⟩⟩
      · rintro ⟨hxy, hrest⟩
        obtain ⟨hlen, hall⟩ := this.mpr hrest
        exact ⟨by omega, hxy, hall⟩

/-- White space has no case. -/
theorem toLower_of_isWhiteSpace {c : Char} (h : isWhiteSpace c = true) : c.toLower = c := by
  unfold Char.toLower
  rw [dif_neg]
  rintro ⟨hA, hZ⟩
  have hA' : 65 ≤ c.toNat := by simpa [UInt32.le_iff_toNat_le] using hA
  have hZ' : c.toNat ≤ 90 := by simpa [UInt32.le_iff_toNat_le] using hZ
  simp only [isWhiteSpace, Bool.or_eq_true, Bool.and_eq_true, decide_eq_true_eq, beq_iff_eq] at h
  omega

/-- Text without white space is its own trimmed form. -/
theorem trimWhite_of_forall {cs : List Char} (h : ∀ c ∈ cs, isWhiteSpace c = false) :
    trimWhite cs = cs := by
  have hstart : cs.dropWhile isWhiteSpace = cs := by
    cases cs with
    | nil => rfl
    | cons c cs => simp [h c List.mem_cons_self]
  have hend : cs.reverse.dropWhile isWhiteSpace = cs.reverse := by
    cases hr : cs.reverse with
    | nil => rfl
    | cons c cs' =>
      have hc : c ∈ cs := List.mem_reverse.mp (hr ▸ List.mem_cons_self)
      simp [h c hc]
  simp [trimWhite, trimBy, trimStartBy, trimEndBy, hstart, hend]

/-- A text whose characters all pass the white-space test holds no white space. -/
theorem white_of_all {cs : List Char} (h : cs.all (fun c => !isWhiteSpace c) = true) :
    ∀ c ∈ cs, isWhiteSpace c = false :=
  fun c hc => by simpa using List.all_eq_true.mp h c hc

/-- Every character of a text joined by a separator is the separator or a character of a piece. -/
theorem forall_mem_intercalate {α : Type} {P : α → Prop} {sep : α} (hs : P sep) :
    ∀ {ls : List (List α)}, (∀ l ∈ ls, ∀ x ∈ l, P x) →
      ∀ x ∈ [sep].intercalate ls, P x
  | [], _ => by simp
  | [l], h => by simpa using h l
  | l :: l' :: zs, h => by
    rw [List.intercalate_cons_cons]
    intro x hx
    simp only [List.mem_append, List.mem_singleton] at hx
    rcases hx with (hx | rfl) | hx
    · exact h l List.mem_cons_self x hx
    · exact hs
    · exact forall_mem_intercalate hs (fun l hl => h l (List.mem_cons_of_mem _ hl)) x hx

/-! ## (4) Base64 text as characters -/

namespace Encoding.Base64

/-- **Base64 text as characters**: the symbols `encode` writes, each the ASCII character of its
code. -/
def text (bs : List UInt8) : List Char := (encode bs).map fun b => Char.ofNat b.toNat

example : text [0x7B, 0x7D] = "e30=".toList := by decide

/-- The symbols are ASCII and none of them is white space. -/
theorem symbol_plain : ∀ v < 64,
    (symbol v).toNat < 0x80 ∧ isWhiteSpace (Char.ofNat (symbol v).toNat) = false := by
  decide

theorem encode_plain (bs : List UInt8) :
    ∀ b ∈ encode bs, b.toNat < 0x80 ∧ isWhiteSpace (Char.ofNat b.toNat) = false := by
  intro b hb
  rcases encode_mem bs b hb with rfl | ⟨v, hv, rfl⟩
  · decide
  · exact symbol_plain v hv

/-- **The bytes of base64 text are the encoding.** -/
theorem utf8Encode_text (bs : List UInt8) : utf8Encode (text bs) = encode bs := by
  calc utf8Encode (text bs)
      = (encode bs).flatMap fun b => charUtf8 (Char.ofNat b.toNat) := List.flatMap_map _ _ _
    _ = (encode bs).flatMap fun b => [b] :=
        List.flatMap_congr fun b hb => charUtf8_ofNat_toNat (encode_plain bs b hb).1
    _ = encode bs := List.flatMap_singleton' _

theorem text_white (bs : List UInt8) : ∀ c ∈ text bs, isWhiteSpace c = false := by
  simp only [text, List.mem_map]
  rintro c ⟨b, hb, rfl⟩
  exact (encode_plain bs b hb).2

end Encoding.Base64

/-! ## (5) Data URLs that carry JSON -/

namespace SourceMap

open Encoding

/-- The header of a data URL is everything before its first `,`. -/
theorem takeWhile_ne_sep {header : List Char} (h : ',' ∉ header) (payload : List Char) :
    (header ++ ',' :: payload).takeWhile (· != ',') = header := by
  have hall : ∀ c ∈ header, (c != ',') = true := by
    intro c hc
    simp only [bne_iff_ne, ne_eq]
    rintro rfl
    exact h hc
  rw [List.takeWhile_append_of_pos hall]
  simp

/-- **A data URL behind a JSON media type decodes its payload**: as base64 when a parameter says
`base64`, percent-decoded otherwise. -/
theorem decodeDataUrl_json {header payload : List Char} (h : ',' ∉ header)
    (hjson : isJsonMediaType (trimWhite ((header.splitOn ';').headD [])) = true) :
    decodeDataUrl ("data:".toList ++ header ++ ',' :: payload) =
      if (header.splitOn ';').tail.any (fun p => eqIgnoreAsciiCase (trimWhite p) "base64".toList)
      then (Base64.decode (utf8Encode (trimWhite payload))).mapError .badBase64
      else .ok (percentDecode (utf8Encode payload)) := by
  have hscheme : ("data:".toList ++ header ++ ',' :: payload).take 5 = "data:".toList := by
    simp
  have hrest : ("data:".toList ++ header ++ ',' :: payload).drop 5 = header ++ ',' :: payload := by
    simp
  have hdata : ("data:".toList.length == 5 && eqIgnoreAsciiCase "data:".toList "data:".toList) =
    true := by decide
  have hsep : (header.length == (header ++ ',' :: payload).length) = false := by simp
  have hpayload : (header ++ ',' :: payload).drop (header.length + 1) = payload := by simp
  simp only [decodeDataUrl, hscheme, hrest, takeWhile_ne_sep h, hdata, hsep, hpayload, hjson,
    Bool.not_true, Bool.false_eq_true, if_false]
  split
  · cases Base64.decode (utf8Encode (trimWhite payload)) <;> rfl
  · rfl

/-- **A JSON media type** written in any case holds no `,`, no `;` and no white space. -/
theorem jsonMediaType_plain {mediaType : List Char}
    (h : mediaType.map Char.toLower = "application/json".toList ∨
      mediaType.map Char.toLower = "text/json".toList) :
    ∀ c ∈ mediaType, c ≠ ',' ∧ c ≠ ';' ∧ isWhiteSpace c = false := by
  intro c hc
  have hform : ("application/json".toList ++ "text/json".toList).all
      (fun d => d != ',' && d != ';' && !isWhiteSpace d) = true := by decide
  -- what holds of the lower-cased character holds of the character: `,`, `;` and white space
  -- have no case
  have hd := List.all_eq_true.mp hform c.toLower (by
    rcases h with h | h <;> simp [← h, List.mem_map_of_mem hc])
  simp only [Bool.and_eq_true, bne_iff_ne, ne_eq, Bool.not_eq_eq_eq_not, Bool.not_true] at hd
  obtain ⟨⟨hcomma, hsemi⟩, hwhite⟩ := hd
  refine ⟨?_, ?_, ?_⟩
  · rintro rfl
    exact hcomma rfl
  · rintro rfl
    exact hsemi rfl
  · cases hw : isWhiteSpace c
    · rfl
    · rw [toLower_of_isWhiteSpace hw, hw] at hwhite
      cases hwhite

/-- **A JSON media type is recognised** in any case. -/
theorem isJsonMediaType_of_toLower {mediaType : List Char}
    (h : mediaType.map Char.toLower = "application/json".toList ∨
      mediaType.map Char.toLower = "text/json".toList) :
    isJsonMediaType mediaType = true := by
  have happ : "application/json".toList.map Char.toLower = "application/json".toList := by decide
  have htext : "text/json".toList.map Char.toLower = "text/json".toList := by decide
  rcases h with h | h
  · rw [isJsonMediaType, (eqIgnoreAsciiCase_iff _ _).mpr (h.trans happ.symm), Bool.true_or]
  · rw [isJsonMediaType, (eqIgnoreAsciiCase_iff _ _).mpr (h.trans htext.symm), Bool.or_true]

/-- **A `data:` URL that carries the JSON document `json`**, in one of the two forms a stylesheet
writes it. -/
inductive CarriesJson (json : List UInt8) : List Char → Prop
  /-- The document in base64, behind the media type `application/json`. -/
  | base64 : CarriesJson json ("data:application/json;base64,".toList ++ Base64.text json)
  /-- The document percent-encoded, behind a JSON media type in any ASCII case and `;`-separated
  parameters free of `,`, `;`, `*` and white space, none of them `base64` in any case. -/
  | percent {mediaType : List Char} {params : List (List Char)} {payload : List Char} :
      (mediaType.map Char.toLower = "application/json".toList ∨
        mediaType.map Char.toLower = "text/json".toList) →
      (∀ p ∈ params, ∀ c ∈ p,
        c ≠ ',' ∧ c ≠ ';' ∧ c ≠ '*' ∧ isWhiteSpace c = false) →
      (∀ p ∈ params, p.map Char.toLower ≠ "base64".toList) →
      PercentEncoded payload json →
      CarriesJson json ("data:".toList ++ [';'].intercalate (mediaType :: params) ++ ',' :: payload)

/-- **The URL decodes to the document.** -/
theorem decodeDataUrl_of_carriesJson {json : List UInt8} {url : List Char}
    (h : CarriesJson json url) : decodeDataUrl url = .ok json := by
  cases h with
  | base64 =>
    have hurl : "data:application/json;base64,".toList ++ Base64.text json =
        "data:".toList ++ "application/json;base64".toList ++ ',' :: Base64.text json := by simp
    rw [hurl, decodeDataUrl_json (by decide) (by decide), if_pos (by decide),
      trimWhite_of_forall (Base64.text_white json), Base64.utf8Encode_text, Base64.decode_encode]
    rfl
  | @percent mediaType params payload hmedia hparams hbase hpayload =>
    have hm := jsonMediaType_plain hmedia
    -- the header is the media type and the parameters joined by `;`, and splits back into them
    have hcomma : ',' ∉ [';'].intercalate (mediaType :: params) := by
      intro hc
      refine forall_mem_intercalate (P := fun c => c ≠ ',') (by decide) ?_ ',' hc rfl
      intro l hl d hd
      rcases List.mem_cons.mp hl with rfl | hl
      · exact (hm d hd).1
      · exact (hparams l hl d hd).1
    have hsplit : ([';'].intercalate (mediaType :: params)).splitOn ';' = mediaType :: params := by
      refine List.splitOn_intercalate ';' ?_ (List.cons_ne_nil _ _)
      intro l hl hc
      rcases List.mem_cons.mp hl with rfl | hl
      · exact (hm ';' hc).2.1 rfl
      · exact (hparams l hl ';' hc).2.1 rfl
    have hjson : isJsonMediaType (trimWhite mediaType) = true := by
      rw [trimWhite_of_forall fun c hc => (hm c hc).2.2]
      exact isJsonMediaType_of_toLower hmedia
    have hplain :
        (params.any fun p => eqIgnoreAsciiCase (trimWhite p) "base64".toList) = false := by
      refine List.any_eq_false.mpr fun p hp heq => hbase p hp ?_
      rw [trimWhite_of_forall fun c hc => (hparams p hp c hc).2.2.2, eqIgnoreAsciiCase_iff] at heq
      exact heq.trans (by decide)
    rw [decodeDataUrl_json hcomma (by rw [hsplit]; exact hjson), hsplit, List.tail_cons, hplain,
      if_neg Bool.false_ne_true, percentDecode_of_encoded hpayload]

/-- **A URL that carries JSON holds no white space.** -/
theorem CarriesJson.white {json : List UInt8} {url : List Char} (h : CarriesJson json url) :
    ∀ c ∈ url, isWhiteSpace c = false := by
  cases h with
  | base64 =>
    intro c hc
    rcases List.mem_append.mp hc with hc | hc
    · exact white_of_all (by decide) c hc
    · exact Base64.text_white json c hc
  | @percent mediaType params payload hmedia hparams _ hpayload =>
    intro c hc
    simp only [List.mem_append, List.mem_cons] at hc
    rcases hc with (hc | hc) | rfl | hc
    · exact white_of_all (by decide) c hc
    · refine forall_mem_intercalate (P := fun c => isWhiteSpace c = false) (by decide) ?_ c hc
      intro l hl d hd
      rcases List.mem_cons.mp hl with rfl | hl
      · exact (jsonMediaType_plain hmedia d hd).2.2
      · exact (hparams l hl d hd).2.2.2
    · decide
    · exact PercentEncoded.white hpayload c hc

/-- **A URL that carries JSON starts with `data:`.** -/
theorem CarriesJson.data {json : List UInt8} {url : List Char} (h : CarriesJson json url) :
    ∃ rest, url = "data:".toList ++ rest := by
  cases h with
  | base64 => exact ⟨"application/json;base64,".toList ++ Base64.text json, by simp⟩
  | percent => exact ⟨_, List.append_assoc _ _ _⟩

/-! ## (6) The directive -/

/-- **The directive of a comment gives its URL back**, when the URL is a word. -/
theorem mappingUrl?_directive {url : List Char} (hne : url ≠ [])
    (hw : ∀ c ∈ url, isWhiteSpace c = false) :
    mappingUrl? ("/*# sourceMappingURL=".toList ++ url ++ " */".toList) = some url := by
  -- the body between the delimiters, kept whole while the delimiters are stripped
  obtain ⟨body, hbody⟩ : ∃ body, body = '#' :: ' ' :: "sourceMappingURL=".toList ++ url :=
    ⟨_, rfl⟩
  have hopen : "/*# sourceMappingURL=".toList ++ url ++ " */".toList =
      "/*".toList ++ (body ++ " */".toList) := by
    rw [hbody]
    simp
  have hclose : (body ++ " */".toList).reverse = "/*".toList ++ ' ' :: body.reverse := by simp
  -- the URL starts and ends with a character that is not white space
  have hend : ∀ rest, (url.reverse ++ rest).dropWhile isWhiteSpace = url.reverse ++ rest := by
    obtain ⟨c, cs, hc⟩ := List.exists_cons_of_ne_nil (List.reverse_ne_nil_iff.mpr hne)
    intro rest
    rw [hc, List.cons_append, List.dropWhile_cons,
      if_neg (by simp [hw c (List.mem_reverse.mp (hc ▸ List.mem_cons_self))])]
  have hmarks :
      isWhiteSpace '#' = false ∧ isWhiteSpace ' ' = true ∧ isWhiteSpace 's' = false := by
    decide
  have htrim : trimWhite (' ' :: body.reverse).reverse = body := by
    rw [hbody]
    simp [trimWhite, trimBy, trimStartBy, trimEndBy, hmarks, hend]
  have hmark : dropPrefix? ['#'] body = some (' ' :: "sourceMappingURL=".toList ++ url) := by
    rw [hbody]
    rfl
  have hspace : trimStartBy isWhiteSpace (' ' :: "sourceMappingURL=".toList ++ url) =
      "sourceMappingURL=".toList ++ url := by
    simp [trimStartBy, hmarks]
  have hword : firstWord url = some url := by
    obtain ⟨c, cs, rfl⟩ := List.exists_cons_of_ne_nil hne
    simp only [firstWord, List.dropWhile_cons, hw c List.mem_cons_self]
    exact congrArg some (List.takeWhile_eq_self_iff.mpr fun d hd => by simp [hw d hd])
  unfold mappingUrl?
  simp only [hopen, hclose, dropPrefix?_append, Option.bind_eq_bind, Option.bind_some, htrim, hmark,
    Option.orElse_some, hspace, hword]

/-- **The stylesheet names the URL of its last directive.** -/
theorem sourceMappingUrl_of_last {sheet : Css.Stylesheet} {before after : List Css.Comment}
    {c : Css.Comment} {url : List Char} (hs : sheet.comments = before ++ c :: after)
    (hc : mappingUrl? c.text = some url) (hlast : ∀ c' ∈ after, mappingUrl? c'.text = none) :
    sheet.sourceMappingUrl = some url := by
  have hnone : after.reverse.findSome? (fun c => mappingUrl? c.text) = none :=
    List.findSome?_eq_none_iff.mpr fun c' hc' => hlast c' (List.mem_reverse.mp hc')
  simp [Css.Stylesheet.sourceMappingUrl, hs, List.findSome?_append, hnone, hc]

end SourceMap

/-! ## (7) The run -/

namespace Rebase

/-- **A stylesheet embeds the JSON document `json` as its source map**: the last of its comments
that carries a `sourceMappingURL` directive is `/*# sourceMappingURL=url */`, for a data URL
`url` that carries the document. -/
def EmbedsMap (css : String) (json : List UInt8) : Prop :=
  ∃ before after : List Css.Comment, ∃ c : Css.Comment, ∃ url : List Char,
    (Css.parse css).stylesheet.comments = before ++ c :: after ∧
    c.text = "/*# sourceMappingURL=".toList ++ url ++ " */".toList ∧
    SourceMap.CarriesJson json url ∧ ∀ c' ∈ after, SourceMap.mappingUrl? c'.text = none

/-- **The map a stylesheet embeds is the map of its document.** -/
theorem mapFor_embedded {css : String} {json : List UInt8} {m : SourceMap}
    (hm : SourceMap.ofBytes json = .ok m) (h : EmbedsMap css json) :
    mapFor none (Css.parse css).stylesheet = .ok m := by
  obtain ⟨before, after, c, url, hs, hc, hcarry, hlast⟩ := h
  obtain ⟨rest, hrest⟩ := hcarry.data
  have hne : url ≠ [] := by
    rw [hrest]
    simp
  have hdirective : SourceMap.mappingUrl? c.text = some url := by
    rw [hc]
    exact SourceMap.mappingUrl?_directive hne hcarry.white
  have hurl : (Css.parse css).stylesheet.sourceMappingUrl = some url :=
    SourceMap.sourceMappingUrl_of_last hs hdirective hlast
  have hdata : isDataUrl url = true := by
    rw [hrest, isDataUrl, List.take_left' (by rfl)]
    decide
  simp only [mapFor, hurl, hdata, if_true, SourceMap.ofDataUrl,
    SourceMap.decodeDataUrl_of_carriesJson hcarry]
  change Except.mapError RebaseError.sourceMap (SourceMap.ofBytes json) = _
  rw [hm]
  rfl

/-- **A run that finds its map in the stylesheet is the run given the map's document**: the same
requests, the same result and the same records, whatever the policy, the options and the order
in which the policy's answers arrive. -/
theorem runIn_embedded_eq_given (schedule : Schedule) (css : String) {json : List UInt8}
    {m : SourceMap} (hm : SourceMap.ofBytes json = .ok m) (h : EmbedsMap css json)
    (policy : Policy) (options : Options) :
    runIn schedule css none policy options = runIn schedule css (some m) policy options := by
  have hmap : mapFor none (Css.parse css).stylesheet = mapFor (some m) (Css.parse css).stylesheet :=
    mapFor_embedded hm h
  simp only [runIn, hmap]

/-- The smallest case: the empty JSON object, embedded in base64 as `e30=`. -/
theorem runIn_embedded_empty_object :
    ∃ m, SourceMap.ofBytes [0x7B, 0x7D] = .ok m ∧
      EmbedsMap "/*# sourceMappingURL=data:application/json;base64,e30= */" [0x7B, 0x7D] ∧
      ∀ schedule policy options,
        runIn schedule "/*# sourceMappingURL=data:application/json;base64,e30= */" none policy
            options =
          runIn schedule "/*# sourceMappingURL=data:application/json;base64,e30= */" (some m)
            policy options := by
  obtain ⟨m, hm⟩ : ∃ m, SourceMap.ofBytes [0x7B, 0x7D] = .ok m := by
    cases h : SourceMap.ofBytes [0x7B, 0x7D] with
    | ok m => exact ⟨m, rfl⟩
    | error e =>
      have hok : (SourceMap.ofBytes [0x7B, 0x7D]).toBool = true := by
        set_option maxRecDepth 20000 in cbv
      rw [h] at hok
      cases hok
  have hcomments :
      (Css.parse "/*# sourceMappingURL=data:application/json;base64,e30= */").stylesheet.comments =
        [{ span := ⟨0, 57⟩
           text := "/*# sourceMappingURL=data:application/json;base64,e30= */".toList }] := by
    decide +kernel
  have he : EmbedsMap "/*# sourceMappingURL=data:application/json;base64,e30= */" [0x7B, 0x7D] :=
    ⟨[], [], _, _, hcomments, by decide, .base64, by simp⟩
  exact ⟨m, hm, he, fun schedule policy options =>
    runIn_embedded_eq_given schedule _ hm he policy options⟩

end Rebase

end StyleRebase
