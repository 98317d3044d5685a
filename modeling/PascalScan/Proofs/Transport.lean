import PascalScan.Service.Http
import PascalScan.Json.Writer
import Mathlib

/-!
# What is sent is received

A text reaches a file or a service as bytes, and a service also as a JSON text around it. Nothing is
lost on either way: decoding takes back the encoding, whatever characters the text has, and the body
that carries a source is read as just that source.

* `Utf8.decode_encode` follows the encoding character by character.
* `Json.readChars_escaped` does the same for the escapes of a JSON text.
* `Service.readBody_write` puts the two together for the body of a request.
-/

namespace PascalScan

/-! ## Bytes -/

namespace Utf8

@[simp] theorem encode_nil : encode [] = [] := rfl

@[simp] theorem encode_cons (c : Char) (cs : List Char) :
    encode (c :: cs) = String.utf8EncodeChar c ++ encode cs :=
  List.flatMap_cons

theorem scalar_of_good {bits low high count n : Nat} {byte : UInt8} {rest : List UInt8}
    (hlow : low ≤ byte.toNat) (hhigh : byte.toNat ≤ high)
    (h : scalar (bits * 64 + byte.toNat % 64) 0x80 0xBF count rest = .ok n) :
    scalar bits low high (count + 1) (byte :: rest) = .ok n := by
  rw [scalar, if_pos ⟨hlow, hhigh⟩, h]

/-- A sequence that is complete gives its character, and decoding goes on behind it. -/
theorem decodeFrom_of_lead {position n : Nat} {byte : UInt8} {more rest : List UInt8} {l : Lead}
    {cs : List Char} (hlead : lead? byte = some l) (hcount : more.length = l.count)
    (hscalar : scalar l.bits l.low l.high l.count (more ++ rest) = .ok n)
    (hrest : decodeFrom (position + 1 + l.count) rest = .ok cs) :
    decodeFrom position (byte :: (more ++ rest)) = .ok (Char.ofNat n :: cs) := by
  have hdrop : (more ++ rest).drop l.count = rest := by
    rw [← hcount, List.drop_left]
  rw [decodeFrom]
  simp only [hlead, hscalar, hdrop, hrest]
  rfl

theorem toNat_ofNat {n : Nat} (h : n < 256) : (UInt8.ofNat n).toNat = n :=
  UInt8.toNat_ofNat_of_lt' h

/-- A first byte that nothing follows is told from its bits; the next three lemmas tell those that
one, two or three bytes follow. -/
theorem lead?_one {n : Nat} (h : n < 128) : lead? (UInt8.ofNat n) = some ⟨n, 0, 0x80, 0xBF⟩ := by
  have hb : (UInt8.ofNat n).toNat = n := toNat_ofNat (by omega)
  simp only [lead?, hb]
  rw [if_pos h]

theorem lead?_two {n : Nat} (hlow : 2 ≤ n) (hhigh : n < 32) :
    lead? (UInt8.ofNat (n + 192)) = some ⟨n, 1, 0x80, 0xBF⟩ := by
  have hb : (UInt8.ofNat (n + 192)).toNat = n + 192 := toNat_ofNat (by omega)
  have hbits : (n + 192) % 0x20 = n := by omega
  simp only [lead?, hb, hbits]
  rw [if_neg (by omega), if_neg (by omega), if_pos (by omega)]

theorem lead?_three {n : Nat} (h : n < 16) :
    lead? (UInt8.ofNat (n + 224)) =
      some ⟨n, 2, if n = 0 then 0xA0 else 0x80, if n = 13 then 0x9F else 0xBF⟩ := by
  have hb : (UInt8.ofNat (n + 224)).toNat = n + 224 := toNat_ofNat (by omega)
  have hbits : (n + 224) % 0x10 = n := by omega
  have hfirst : n + 224 = 0xE0 ↔ n = 0 := by omega
  have hsurrogate : n + 224 = 0xED ↔ n = 13 := by omega
  simp only [lead?, hb, hbits, hfirst, hsurrogate]
  rw [if_neg (by omega), if_neg (by omega), if_neg (by omega), if_pos (by omega)]

theorem lead?_four {n : Nat} (h : n < 5) :
    lead? (UInt8.ofNat (n + 240)) =
      some ⟨n, 3, if n = 0 then 0x90 else 0x80, if n = 4 then 0x8F else 0xBF⟩ := by
  have hb : (UInt8.ofNat (n + 240)).toNat = n + 240 := toNat_ofNat (by omega)
  have hbits : (n + 240) % 0x08 = n := by omega
  have hfirst : n + 240 = 0xF0 ↔ n = 0 := by omega
  have hlast : n + 240 = 0xF4 ↔ n = 4 := by omega
  simp only [lead?, hb, hbits, hfirst, hlast]
  rw [if_neg (by omega), if_neg (by omega), if_neg (by omega), if_neg (by omega),
    if_pos (by omega)]

/-- One character is decoded whatever follows it. The cases are the lengths of its encoding. -/
theorem decodeFrom_utf8EncodeChar {c : Char} {cs : List Char} {rest : List UInt8}
    (h : ∀ position, decodeFrom position rest = .ok cs) (position : Nat) :
    decodeFrom position (String.utf8EncodeChar c ++ rest) = .ok (c :: cs) := by
  have hvalid : c.toNat < 0xD800 ∨ 0xDFFF < c.toNat ∧ c.toNat < 0x110000 := c.valid
  have hval : c.val.toNat = c.toNat := rfl
  have hc : c :: cs = Char.ofNat c.toNat :: cs := by
    rw [Char.ofNat_toNat]
  unfold String.utf8EncodeChar
  simp only [hval]
  rw [hc]
  generalize c.toNat = v at hvalid ⊢
  -- The trailing bytes carry six bits each, from the lowest.
  have h0 : (UInt8.ofNat (v % 64 + 128)).toNat = v % 64 + 128 := toNat_ofNat (by omega)
  have h6 : (UInt8.ofNat (v / 64 % 64 + 128)).toNat = v / 64 % 64 + 128 :=
    toNat_ofNat (by omega)
  have h12 : (UInt8.ofNat (v / 4096 % 64 + 128)).toNat = v / 4096 % 64 + 128 :=
    toNat_ofNat (by omega)
  split
  · next hv =>
      have hlead := lead?_one (show v < 128 by omega)
      change decodeFrom position (_ :: ([] ++ rest)) = _
      exact decodeFrom_of_lead hlead rfl rfl (h _)
  split
  · next hv =>
      have hbits : v / 64 % 32 = v / 64 := by omega
      have hspelled : v / 64 * 64 + (v % 64 + 128) % 64 = v := by omega
      have hlead := lead?_two (show 2 ≤ v / 64 by omega) (by omega)
      rw [hbits]
      change decodeFrom position (_ :: ([_] ++ rest)) = _
      refine decodeFrom_of_lead hlead rfl ?_ (h _)
      dsimp only
      refine scalar_of_good (by omega) (by omega) ?_
      rw [scalar, h0, hspelled]
  split
  · next hv =>
      have hbits : v / 4096 % 16 = v / 4096 := by omega
      have hspelled : (v / 4096 * 64 + (v / 64 % 64 + 128) % 64) * 64 + (v % 64 + 128) % 64 = v := by
        omega
      have hlead := lead?_three (show v / 4096 < 16 by omega)
      rw [hbits]
      change decodeFrom position (_ :: ([_, _] ++ rest)) = _
      refine decodeFrom_of_lead hlead rfl ?_ (h _)
      dsimp only
      refine scalar_of_good (by split <;> omega) (by split <;> omega) ?_
      refine scalar_of_good (by omega) (by omega) ?_
      rw [scalar, h0, h6, hspelled]
  · next hv =>
      have hbits : v / 262144 % 8 = v / 262144 := by omega
      have hspelled : ((v / 262144 * 64 + (v / 4096 % 64 + 128) % 64) * 64 +
          (v / 64 % 64 + 128) % 64) * 64 + (v % 64 + 128) % 64 = v := by
        omega
      have hlead := lead?_four (show v / 262144 < 5 by omega)
      rw [hbits]
      change decodeFrom position (_ :: ([_, _, _] ++ rest)) = _
      refine decodeFrom_of_lead hlead rfl ?_ (h _)
      dsimp only
      refine scalar_of_good (by split <;> omega) (by split <;> omega) ?_
      refine scalar_of_good (by omega) (by omega) ?_
      refine scalar_of_good (by omega) (by omega) ?_
      rw [scalar, h0, h6, h12, hspelled]

theorem decodeFrom_encode (cs : List Char) (position : Nat) :
    decodeFrom position (encode cs) = .ok cs := by
  induction cs generalizing position with
  | nil => rw [encode_nil, decodeFrom]
  | cons c cs ih =>
      rw [encode_cons]
      exact decodeFrom_utf8EncodeChar ih position

/-- **Every text is read back from its bytes.** -/
theorem decode_encode (cs : List Char) : decode (encode cs) = .ok cs := decodeFrom_encode cs 0

end Utf8

/-! ## JSON texts -/

namespace Json

theorem hexDigit?_digitChar : ∀ d < 16, hexDigit? (Nat.digitChar d) = some d := by
  decide

theorem hexFour?_hex {n : Nat} (h : n < 0x10000) (c : Char) (rest : List Char) :
    hexFour? (Text.hex 4 n ++ c :: rest) = some n := by
  have hdigit : ∀ m, hexDigit? (Nat.digitChar (m % 16)) = some (m % 16) := fun m =>
    hexDigit?_digitChar _ (Nat.mod_lt _ (by decide))
  simp only [Text.hex, List.nil_append, List.cons_append, hexFour?, hdigit]
  change some _ = some n
  congr 1
  omega

/-- The escape of one character is read as that character. -/
theorem readChars_escapeChar (opening acc : List Char) (c : Char) {rest : List Char}
    (h : rest ≠ []) :
    readChars opening acc (escapeChar c ++ rest) = readChars opening (c :: acc) rest := by
  unfold escapeChar
  split
  · next hc =>
      have hescape : escape opening (c :: rest) = .ok (c, 1) := by
        rcases hc with rfl | rfl <;> rfl
      rw [List.cons_append, readChars]
      simp [hescape]
  · next hc =>
      rw [not_or] at hc
      split
      · next hlow =>
          obtain ⟨x, more, rfl⟩ := List.exists_cons_of_ne_nil h
          have hfour := hexFour?_hex (n := c.toNat) (by omega) x more
          have hescape : escape opening ('u' :: (Text.hex 4 c.toNat ++ x :: more)) =
              .ok (c, 5) := by
            simp only [escape, hfour]
            rw [if_neg (by omega), if_neg (by omega), Char.ofNat_toNat]
          have hdrop : ('u' :: (Text.hex 4 c.toNat ++ x :: more)).drop 5 = x :: more := rfl
          rw [List.cons_append, List.cons_append, readChars]
          simp [hescape, hdrop]
      · next hlow =>
          rw [List.singleton_append, readChars, if_neg hc.1, if_neg hc.2, if_neg hlow]

/-- Escaped characters are read up to the quote that closes them. -/
theorem readChars_escaped (opening acc cs rest : List Char) :
    readChars opening acc (cs.flatMap escapeChar ++ '"' :: rest) =
      .ok (String.ofList (acc.reverse ++ cs), rest) := by
  induction cs generalizing acc with
  | nil =>
      rw [List.flatMap_nil, List.nil_append, List.append_nil, readChars]
      rfl
  | cons c cs ih =>
      rw [List.flatMap_cons, List.append_assoc, readChars_escapeChar _ _ _ (by simp), ih]
      simp

theorem readValue_text (room fuel : Nat) (cs rest : List Char) :
    readValue room (fuel + 1) ('"' :: (cs.flatMap escapeChar ++ '"' :: rest)) =
      .ok (text (String.ofList cs), rest) := by
  rw [readValue, readChars_escaped]
  rfl

/-- An object of one field that is a text. -/
theorem readValue_field (room fuel : Nat) (name value : List Char) :
    readValue (room + 1) (fuel + 3)
        ('\x7b' :: '"' :: (name.flatMap escapeChar ++ '"' :: ':' :: '"' ::
          (value.flatMap escapeChar ++ '"' :: ['\x7d']))) =
      .ok (object [(String.ofList name, text (String.ofList value))], []) := by
  have hfields : readFields room (fuel + 2) []
      ('"' :: (name.flatMap escapeChar ++ '"' :: ':' :: '"' ::
        (value.flatMap escapeChar ++ '"' :: ['\x7d']))) =
      .ok (object [(String.ofList name, text (String.ofList value))], []) := by
    have hvalue := readValue_text room fuel value ['\x7d']
    have hcolon : ∀ rest, skipSpace (':' :: '"' :: rest) = ':' :: '"' :: rest := fun rest => rfl
    have hquote : ∀ rest, skipSpace ('"' :: rest) = '"' :: rest := fun rest => rfl
    have hbrace : skipSpace ['\x7d'] = ['\x7d'] := rfl
    rw [readFields, readChars_escaped]
    simp only [bind, Except.bind, hcolon, hquote, hvalue, hbrace]
    rfl
  rw [readValue]
  exact hfields

end Json

namespace Service

/-- The body of a request, character by character. -/
theorem toList_write_requestFields (source : String) :
    (Json.write (.object (requestFields source))).toList =
      '\x7b' :: '"' :: ("source".toList.flatMap Json.escapeChar ++ '"' :: ':' :: '"' ::
        (source.toList.flatMap Json.escapeChar ++ '"' :: ['\x7d'])) := by
  simp [Json.write, Json.writeOnto, Json.writeFieldsOnto, requestFields, Json.writeText]

theorem readNested_write_requestFields (source : String) :
    Json.readNested Json.maxNesting (Json.write (.object (requestFields source))).toList =
      .ok (.object (requestFields source)) := by
  have hread := Json.readValue_field 949
    (2 * (Json.write (.object (requestFields source))).toList.length - 1) "source".toList
    source.toList
  rw [← toList_write_requestFields, String.ofList_toList, String.ofList_toList] at hread
  have hlength : 2 * (Json.write (.object (requestFields source))).toList.length - 1 + 3 =
      2 * (Json.write (.object (requestFields source))).toList.length + 2 := by
    rw [toList_write_requestFields, List.length_cons]
    omega
  have hskip : Json.skipSpace (Json.write (.object (requestFields source))).toList =
      (Json.write (.object (requestFields source))).toList := by
    rw [toList_write_requestFields]
    rfl
  rw [hlength] at hread
  rw [Json.readNested, hskip]
  simp only [Json.maxNesting, hread]
  rfl

/-- **The body that carries a source is read as that source.** -/
theorem readBody_write (source : String) :
    readBody (some (Json.write (.object (requestFields source)))) = .ok source := by
  have hnested := readNested_write_requestFields source
  have hdecode : Json.decodeBytes
      (Utf8.encode (Json.write (.object (requestFields source))).toList) =
        .ok (Json.write (.object (requestFields source))).toList := by
    have hutf8 := Utf8.decode_encode (Json.write (.object (requestFields source))).toList
    -- The first four characters are of ASCII and tell the encoding.
    have hencoding : Json.encodingOf
        (Utf8.encode (Json.write (.object (requestFields source))).toList) = .utf8 := by
      rw [toList_write_requestFields]
      rfl
    rw [Json.decodeBytes, hencoding]
    simp only [hutf8]
    rw [toList_write_requestFields]
    rfl
  have hne : Json.write (.object (requestFields source)) ≠ "" := by
    intro h
    have hlist := congrArg String.toList h
    rw [toList_write_requestFields] at hlist
    exact absurd hlist (List.cons_ne_nil _ _)
  rw [readBody, if_neg hne, Json.readBytes, hdecode]
  simp only [hnested]
  rfl

end Service

end PascalScan
