import BooleanRetrieval.Proofs.Encoding.Names
import BooleanRetrieval.Proofs.Text.CodePoints
import Mathlib.Data.List.Induction

/-!
# ASCII in decoded texts

Whatever the bytes of a file are, the ASCII characters of its text are the bytes below 0x80 in their order
(`decoding_keeps_ascii`). A text comes about in several ways, but always by decoding with replacements in one
of two encodings (`decodeText_eq_decodeReplacing`), since a text without faults is the same with replacements.

In UTF-8 the reason is what a sequence in progress can end up with: the range of its next byte keeps it
behind ASCII, and away from numbers that are no characters (`Utf8Sequence.Pending`). So a byte of ASCII is
never taken into a sequence, and what a sequence or a fault gives is no ASCII
(`Utf8Decoder.KeepsAscii.push`).
-/

set_option autoImplicit false

namespace BooleanRetrieval.Encoding

open Text (toNat_ofNat)

/-- The numbers among codes that are codes of ASCII. -/
def asciiCodes (codes : List Nat) : List Nat :=
  codes.filter (· < 0x80)

/-- The ASCII codes of a list are those of its parts. -/
theorem asciiCodes_append (xs ys : List Nat) :
    asciiCodes (xs ++ ys) = asciiCodes xs ++ asciiCodes ys :=
  List.filter_append ..

/-- Codes behind ASCII have no ASCII code among them. -/
theorem asciiCodes_eq_nil {codes : List Nat} (h : ∀ n ∈ codes, 0x80 ≤ n) : asciiCodes codes = [] :=
  List.filter_eq_nil_iff.mpr fun n hn => by simpa using h n hn

/-- A code behind ASCII is no ASCII code. -/
theorem asciiCodes_singleton_eq_nil {n : Nat} (h : 0x80 ≤ n) : asciiCodes [n] = [] :=
  asciiCodes_eq_nil fun _ hm => List.mem_singleton.mp hm ▸ h

/-- A byte not below the bound of ASCII is behind it. -/
theorem le_toNat_of_not_lt {b : UInt8} (h : ¬b < 0x80) : 0x80 ≤ b.toNat :=
  UInt8.le_iff_toNat_le.mp (UInt8.not_lt.mp h)

/-- A byte of ASCII is the code of its character. -/
theorem toNat_ofNat_toNat {b : UInt8} (h : b < 0x80) : (Char.ofNat b.toNat).toNat = b.toNat :=
  toNat_ofNat (.inl ((UInt8.lt_iff_toNat_lt.mp h).trans (by decide)))

/-! ## UTF-8 -/

namespace Utf8Sequence

/-- The least number that the sequence can end up with. -/
def least (s : Utf8Sequence) : Nat :=
  (s.value * 64 + (s.low.toNat - 0x80)) * 64 ^ (s.missing - 1)

/-- The first number behind those that the sequence can end up with. -/
def beyond (s : Utf8Sequence) : Nat :=
  (s.value * 64 + (s.high.toNat - 0x80) + 1) * 64 ^ (s.missing - 1)

/-- A sequence that waits for bytes behind ASCII only, and ends up with a character behind ASCII. -/
structure Pending (s : Utf8Sequence) : Prop where
  low : 0x80 ≤ s.low.toNat
  ends : ∀ n, s.least ≤ n → n < s.beyond → n.isValidChar ∧ 0x80 ≤ n

/-- A sequence is pending when its bounds keep the codes behind ASCII and out of the surrogates. The bounds come
as numbers, so that each kind of sequence is settled by arithmetic. -/
theorem pending_of_bounds {bytes : List UInt8} {value missing : Nat} {low high : UInt8}
    (lo hi width : Nat) (hlow : low.toNat = lo) (hhigh : high.toNat = hi)
    (hwidth : 64 ^ (missing - 1) = width) (hbehind : 0x80 ≤ lo)
    (hleast : 0x80 ≤ (value * 64 + (lo - 0x80)) * width)
    (hscalar : (value * 64 + (hi - 0x80) + 1) * width ≤ 0xD800 ∨
      0xE000 ≤ (value * 64 + (lo - 0x80)) * width ∧
        (value * 64 + (hi - 0x80) + 1) * width ≤ 0x110000) :
    Pending ⟨bytes, value, missing, low, high⟩ := by
  subst hlow hhigh hwidth
  refine ⟨hbehind, fun n hn hbeyond => ⟨?_, hleast.trans hn⟩⟩
  unfold least at hn
  unfold beyond at hbeyond
  unfold Nat.isValidChar
  dsimp only at hn hbeyond
  omega

/-- The first byte rules out what would write ASCII, a surrogate, or no code point at all. -/
theorem pending_of_start? {b : UInt8} {s : Utf8Sequence} (h : start? b = some s) : s.Pending := by
  unfold start? at h
  dsimp only at h
  generalize b.toNat = n at h
  simp only [Bool.and_eq_true, decide_eq_true_eq] at h
  split_ifs at h with htwo hshort hsurrogate hthree hlong hlast hfour
  · obtain rfl := Option.some.inj h
    exact pending_of_bounds 0x80 0xBF 1 rfl rfl rfl (by omega) (by omega) (by omega)
  · obtain rfl := Option.some.inj h
    exact pending_of_bounds 0xA0 0xBF 64 rfl rfl rfl (by omega) (by omega) (by omega)
  · obtain rfl := Option.some.inj h
    exact pending_of_bounds 0x80 0x9F 64 rfl rfl rfl (by omega) (by omega) (by omega)
  · obtain rfl := Option.some.inj h
    exact pending_of_bounds 0x80 0xBF 64 rfl rfl rfl (by omega) (by omega) (by omega)
  · obtain rfl := Option.some.inj h
    exact pending_of_bounds 0x90 0xBF 4096 rfl rfl rfl (by omega) (by omega) (by omega)
  · obtain rfl := Option.some.inj h
    exact pending_of_bounds 0x80 0x8F 4096 rfl rfl rfl (by omega) (by omega) (by omega)
  · obtain rfl := Option.some.inj h
    exact pending_of_bounds 0x80 0xBF 4096 rfl rfl rfl (by omega) (by omega) (by omega)

variable {s : Utf8Sequence} {b : UInt8}

/-- A byte in the range narrows what the sequence can end up with. -/
theorem Pending.push (h : s.Pending) (hlow : s.low ≤ b) (hhigh : b ≤ s.high) (hmissing : 1 < s.missing) :
    Pending ⟨b :: s.bytes, s.value * 64 + (b.toNat - 0x80), s.missing - 1, 0x80, 0xBF⟩ := by
  have hlow := UInt8.le_iff_toNat_le.mp hlow
  have hhigh := UInt8.le_iff_toNat_le.mp hhigh
  have hpow : 64 ^ (s.missing - 1) = 64 * 64 ^ (s.missing - 1 - 1) := by
    rw [← pow_succ', Nat.sub_add_cancel (by omega)]
  refine ⟨Nat.le_refl _, fun n hleast hbeyond => h.ends n ?_ ?_⟩
  · refine le_trans ?_ hleast
    unfold least
    rw [hpow, ← Nat.mul_assoc]
    refine Nat.mul_le_mul_right _ ?_
    dsimp only
    omega
  · refine lt_of_lt_of_le hbeyond ?_
    have hfull : (0xBF : UInt8).toNat = 0xBF := rfl
    unfold beyond
    rw [hpow, ← Nat.mul_assoc]
    refine Nat.mul_le_mul_right _ ?_
    dsimp only
    omega

/-- The last byte ends the sequence with a character behind ASCII. -/
theorem Pending.last (h : s.Pending) (hlow : s.low ≤ b) (hhigh : b ≤ s.high) (hmissing : s.missing ≤ 1) :
    0x80 ≤ (Char.ofNat (s.value * 64 + (b.toNat - 0x80))).toNat := by
  have hlow := UInt8.le_iff_toNat_le.mp hlow
  have hhigh := UInt8.le_iff_toNat_le.mp hhigh
  have hone : 64 ^ (s.missing - 1) = 1 := by
    rw [Nat.sub_eq_zero_of_le hmissing, pow_zero]
  obtain ⟨hvalid, hend⟩ := h.ends (s.value * 64 + (b.toNat - 0x80))
    (by unfold least; rw [hone]; omega) (by unfold beyond; rw [hone]; omega)
  rwa [toNat_ofNat hvalid]

end Utf8Sequence

/-- The codes of the characters of pieces, where an ill-formed stretch has the replacement character. -/
def pieceCodes (pieces : List Utf8Piece) : List Nat :=
  pieces.map fun piece =>
    match piece with
    | .char c => c.toNat
    | .fault _ _ => replacement.toNat

/-- Decoded with replacements, bytes have the codes of their pieces. -/
theorem map_toNat_decodeUtf8Replacing (bytes : List UInt8) :
    (decodeUtf8Replacing bytes).map Char.toNat = pieceCodes (utf8Pieces bytes) := by
  unfold decodeUtf8Replacing pieceCodes
  rw [List.map_map]
  refine List.map_congr_left fun piece _ => ?_
  cases piece <;> rfl

namespace Utf8Decoder

/-- Behind the bytes `read`, the pieces have the ASCII of these bytes. -/
structure KeepsAscii (read : List UInt8) (d : Utf8Decoder) : Prop where
  ascii : asciiCodes (pieceCodes d.pieces.reverse) = asciiCodes (read.map UInt8.toNat)
  pending : ∀ s ∈ d.sequence, s.Pending

variable {read : List UInt8} {pieces : List Utf8Piece}

/-- An ill-formed stretch adds nothing to the ASCII. -/
theorem ascii_fault (reason : Utf8Fault) (bytes : List UInt8) :
    asciiCodes (pieceCodes (Utf8Piece.fault reason bytes :: pieces).reverse) =
      asciiCodes (pieceCodes pieces.reverse) := by
  have hnone : asciiCodes [replacement.toNat] = [] := asciiCodes_singleton_eq_nil (by decide)
  unfold pieceCodes
  rw [List.reverse_cons, List.map_append, asciiCodes_append]
  exact (congrArg _ hnone).trans (List.append_nil _)

/-- A decoded character adds its own code to the ASCII. -/
theorem ascii_char (c : Char) :
    asciiCodes (pieceCodes (Utf8Piece.char c :: pieces).reverse) =
      asciiCodes (pieceCodes pieces.reverse) ++ asciiCodes [c.toNat] := by
  unfold pieceCodes
  rw [List.reverse_cons, List.map_append, asciiCodes_append]
  rfl

/-- One more byte adds its own code to the ASCII. -/
theorem asciiCodes_concat (read : List UInt8) (b : UInt8) :
    asciiCodes ((read ++ [b]).map UInt8.toNat) =
      asciiCodes (read.map UInt8.toNat) ++ asciiCodes [b.toNat] := by
  rw [List.map_append, asciiCodes_append]
  rfl

/-- One more byte behind ASCII adds nothing to the ASCII. -/
theorem asciiCodes_concat_of_le (read : List UInt8) {b : UInt8} (h : 0x80 ≤ b.toNat) :
    asciiCodes ((read ++ [b]).map UInt8.toNat) = asciiCodes (read.map UInt8.toNat) := by
  rw [asciiCodes_concat, asciiCodes_singleton_eq_nil h, List.append_nil]

/-- A byte that begins a character is kept if it is ASCII, and otherwise adds no ASCII. -/
theorem keepsAscii_begin (h : asciiCodes (pieceCodes pieces.reverse) = asciiCodes (read.map UInt8.toNat))
    (b : UInt8) : KeepsAscii (read ++ [b]) (begin pieces b) := by
  unfold begin
  split
  · next hlt =>
    refine ⟨?_, fun _ hs => nomatch hs⟩
    rw [ascii_char, h, asciiCodes_concat, toNat_ofNat_toNat hlt]
  · next hge =>
    have hnone := asciiCodes_concat_of_le read (le_toNat_of_not_lt hge)
    cases hstart : Utf8Sequence.start? b with
    | some sequence =>
      refine ⟨h.trans hnone.symm, ?_⟩
      rintro _ ⟨⟩
      exact Utf8Sequence.pending_of_start? hstart
    | none =>
      refine ⟨?_, fun _ hs => nomatch hs⟩
      rw [ascii_fault, h, hnone]

/-- One more byte keeps the ASCII, whatever sequence is open. -/
theorem KeepsAscii.push {d : Utf8Decoder} (h : KeepsAscii read d) (b : UInt8) :
    KeepsAscii (read ++ [b]) (d.push b) := by
  unfold Utf8Decoder.push
  cases hsequence : d.sequence with
  | none => exact keepsAscii_begin h.ascii b
  | some s =>
    have hs : s.Pending := h.pending s hsequence
    dsimp only
    split
    · next hrange =>
      simp only [Bool.and_eq_true, decide_eq_true_eq] at hrange
      -- the byte is behind ASCII, and so is what the sequence comes to
      have hnone := asciiCodes_concat_of_le read (hs.low.trans (UInt8.le_iff_toNat_le.mp hrange.1))
      split
      · next hmissing =>
        refine ⟨?_, fun _ hs => nomatch hs⟩
        rw [ascii_char, h.ascii, hnone,
          asciiCodes_singleton_eq_nil (hs.last hrange.1 hrange.2 hmissing), List.append_nil]
      · next hmissing =>
        refine ⟨h.ascii.trans hnone.symm, ?_⟩
        rintro _ ⟨⟩
        exact hs.push hrange.1 hrange.2 (Nat.lt_of_not_le hmissing)
    · exact keepsAscii_begin ((ascii_fault _ _).trans h.ascii) b

/-- Decoding from the beginning keeps the ASCII of all the bytes. -/
theorem keepsAscii_foldl (bytes : List UInt8) : KeepsAscii bytes (bytes.foldl push .empty) := by
  induction bytes using List.reverseRecOn with
  | nil => exact ⟨rfl, fun _ hs => nomatch hs⟩
  | append_singleton bytes b ih =>
    rw [List.foldl_concat]
    exact ih.push b

end Utf8Decoder

/-- Decoding UTF-8 keeps ASCII, whatever is ill-formed in between. -/
theorem asciiCodes_decodeUtf8Replacing (bytes : List UInt8) :
    asciiCodes ((decodeUtf8Replacing bytes).map Char.toNat) = asciiCodes (bytes.map UInt8.toNat) := by
  have h := Utf8Decoder.keepsAscii_foldl bytes
  rw [map_toNat_decodeUtf8Replacing]
  unfold utf8Pieces Utf8Decoder.close
  cases hsequence : (bytes.foldl Utf8Decoder.push .empty).sequence with
  | none => exact h.ascii
  | some s => exact (Utf8Decoder.ascii_fault _ _).trans h.ascii

/-! ## Single bytes -/

namespace SingleByte

/-- A table that gives characters behind ASCII only. -/
def IsUpper (encoding : SingleByte) : Prop :=
  ∀ n ∈ encoding.upperHalf, n = 0 ∨ n.isValidChar ∧ 0x80 ≤ n

/-- The table of the Cyrillic encoding gives characters behind ASCII only. -/
theorem isUpper_windows1251 : windows1251.IsUpper := by
  have htable : ∀ n ∈ windows1251Table, n = 0 ∨ n < 0xD800 ∧ 0x80 ≤ n := by
    decide +kernel
  exact fun n hn => (htable n hn).imp_right fun h => ⟨.inl h.1, h.2⟩

/-- The empty table of ASCII gives no characters at all. -/
theorem isUpper_ascii : SingleByte.ascii.IsUpper := fun _ hn => absurd hn List.not_mem_nil

/-- The table of the Western encoding gives characters behind ASCII only. -/
theorem isUpper_latin1 : latin1.IsUpper := by
  intro n hn
  obtain ⟨hlow, hhigh⟩ := List.mem_range'_1.mp hn
  exact .inr ⟨.inl (by omega), hlow⟩

variable {encoding : SingleByte}

/-- What stands in a text for a byte behind ASCII is behind ASCII too. -/
theorem IsUpper.le_char (h : encoding.IsUpper) {b : UInt8} (hb : ¬b < 0x80) :
    0x80 ≤ ((encoding.char? b).getD replacement).toNat := by
  have hreplacement : 0x80 ≤ replacement.toNat := by decide
  unfold char?
  rw [if_neg hb, List.getD_eq_getElem?_getD]
  cases hentry : encoding.upperHalf[b.toNat - 0x80]? with
  | none => exact hreplacement
  | some n =>
    cases n with
    | zero => exact hreplacement
    | succ n =>
      obtain ⟨hvalid, hupper⟩ := (h _ (List.mem_of_getElem? hentry)).resolve_left (Nat.succ_ne_zero n)
      change 0x80 ≤ (Char.ofNat (n + 1)).toNat
      rwa [toNat_ofNat hvalid]

/-- One byte of a single-byte encoding keeps its ASCII, with the replacement character where it has none. -/
theorem IsUpper.asciiCodes_char (h : encoding.IsUpper) (b : UInt8) :
    asciiCodes [((encoding.char? b).getD replacement).toNat] = asciiCodes [b.toNat] := by
  by_cases hb : b < 0x80
  · unfold char?
    rw [if_pos hb, Option.getD_some, toNat_ofNat_toNat hb]
  · rw [asciiCodes_singleton_eq_nil (h.le_char hb),
      asciiCodes_singleton_eq_nil (le_toNat_of_not_lt hb)]

/-- A single-byte encoding with replacements keeps the ASCII. -/
theorem IsUpper.asciiCodes_decodeReplacing (h : encoding.IsUpper) (bytes : List UInt8) :
    asciiCodes ((encoding.decodeReplacing bytes).map Char.toNat) = asciiCodes (bytes.map UInt8.toNat) := by
  induction bytes with
  | nil => rfl
  | cons b bytes ih =>
    have hcons (n : Nat) (codes : List Nat) :
        asciiCodes (n :: codes) = asciiCodes [n] ++ asciiCodes codes :=
      asciiCodes_append [n] codes
    have hhead := h.asciiCodes_char b
    rw [List.map_cons, hcons b.toNat, ← ih, ← hhead]
    exact hcons _ _

/-- Where strict decoding succeeds, decoding with replacements gives the same text. -/
theorem decodeReplacing_of_decode? {bytes : List UInt8} {text : List Char}
    (h : encoding.decode? bytes = some text) : encoding.decodeReplacing bytes = text := by
  induction bytes generalizing text with
  | nil => exact Option.some.inj h
  | cons b bytes ih =>
    unfold decode? at h
    rw [List.mapM_cons] at h
    obtain ⟨c, hc, h⟩ := Option.bind_eq_some_iff.mp h
    obtain ⟨cs, hcs, h⟩ := Option.bind_eq_some_iff.mp h
    obtain rfl := Option.some.inj h
    have hrest := ih hcs
    unfold decodeReplacing at hrest ⊢
    rw [List.map_cons, hc, hrest, Option.getD_some]

end SingleByte

/-! ## All encodings -/

/-- The mark at the beginning has no ASCII, so dropping it keeps the ASCII. -/
theorem asciiCodes_dropUtf8Mark (bytes : List UInt8) :
    asciiCodes ((dropUtf8Mark bytes).map UInt8.toNat) = asciiCodes (bytes.map UInt8.toNat) := by
  unfold dropUtf8Mark
  split
  · next hmark =>
    obtain ⟨rest, rfl⟩ := List.isPrefixOf_iff_prefix.mp hmark
    have hnone : asciiCodes (utf8Mark.map UInt8.toNat) = [] := by decide
    rw [List.drop_left, List.map_append, asciiCodes_append, hnone, List.nil_append]
  · rfl

/-- Strict decoding succeeds only when every piece is a character. -/
theorem exists_chars_of_utf8Strict {position : Nat} {done text : List Char} {pieces : List Utf8Piece}
    (h : utf8Strict position done pieces = .ok text) :
    ∃ cs, pieces = cs.map Utf8Piece.char ∧ text = done.reverse ++ cs := by
  induction pieces generalizing position done with
  | nil => exact ⟨[], rfl, by rw [List.append_nil]; exact (Except.ok.inj h).symm⟩
  | cons piece pieces ih =>
    cases piece with
    | fault reason bytes => cases h
    | char c =>
      obtain ⟨cs, rfl, rfl⟩ := ih h
      exact ⟨c :: cs, rfl, by simp⟩

/-- Where strict UTF-8 decoding succeeds, decoding with replacements gives the same text. -/
theorem decodeUtf8Replacing_of_decodeUtf8 {bytes : List UInt8} {text : List Char}
    (h : (decodeUtf8 bytes).toOption = some text) : decodeUtf8Replacing bytes = text := by
  unfold decodeUtf8 at h
  cases hstrict : utf8Strict 0 [] (utf8Pieces bytes) with
  | error e => simp [hstrict, Except.toOption] at h
  | ok found =>
    rw [hstrict] at h
    obtain rfl := Option.some.inj h
    obtain ⟨cs, hpieces, rfl⟩ := exists_chars_of_utf8Strict hstrict
    unfold decodeUtf8Replacing
    rw [hpieces, List.map_map]
    exact List.map_id _

variable {encoding : Encoding} {bytes : List UInt8}

/-- A text that all bytes fit is the one with replacements, of which there are none. -/
theorem decodeReplacing_of_decode? {text : List Char} (h : encoding.decode? bytes = some text) :
    encoding.decodeReplacing bytes = text := by
  cases encoding with
  | utf8 => exact decodeUtf8Replacing_of_decodeUtf8 h
  | utf8Marked => exact decodeUtf8Replacing_of_decodeUtf8 h
  | windows1251 => exact SingleByte.decodeReplacing_of_decode? h
  | ascii => exact SingleByte.decodeReplacing_of_decode? h
  | latin1 => exact SingleByte.decodeReplacing_of_decode? h

/-- Each of the encodings with replacements keeps the ASCII. -/
theorem asciiCodes_decodeReplacing (encoding : Encoding) (bytes : List UInt8) :
    asciiCodes ((encoding.decodeReplacing bytes).map Char.toNat) = asciiCodes (bytes.map UInt8.toNat) := by
  cases encoding with
  | utf8 => exact asciiCodes_decodeUtf8Replacing bytes
  | utf8Marked =>
    exact (asciiCodes_decodeUtf8Replacing _).trans (asciiCodes_dropUtf8Mark bytes)
  | windows1251 => exact SingleByte.isUpper_windows1251.asciiCodes_decodeReplacing bytes
  | ascii => exact SingleByte.isUpper_ascii.asciiCodes_decodeReplacing bytes
  | latin1 => exact SingleByte.isUpper_latin1.asciiCodes_decodeReplacing bytes

/-- A text is decoded with replacements, in the preferred encoding or in the Cyrillic code page. -/
theorem decodeText_eq_decodeReplacing (preferred : Encoding) (bytes : List UInt8) :
    preferred.decodeText bytes = preferred.decodeReplacing bytes ∨
      preferred.decodeText bytes = windows1251.decodeReplacing bytes := by
  unfold decodeText
  cases hpreferred : preferred.decode? bytes with
  | some text => exact .inl (decodeReplacing_of_decode? hpreferred).symm
  | none =>
    cases hcyrillic : windows1251.decode? bytes with
    | some text => exact .inr (decodeReplacing_of_decode? hcyrillic).symm
    | none => exact .inl rfl

/-- Decoding gives a text in each encoding, and the ASCII characters of the text are the bytes of ASCII in
their order. -/
theorem decoding_keeps_ascii (preferred : Encoding) (bytes : List UInt8) :
    ∃ text, readText preferred.commonName bytes = .ok text ∧
      (text.map Char.toNat).filter (· < 0x80) = (bytes.map UInt8.toNat).filter (· < 0x80) := by
  refine ⟨preferred.decodeText bytes, readText_of_ofName? (ofName?_commonName preferred) bytes, ?_⟩
  rcases decodeText_eq_decodeReplacing preferred bytes with htext | htext
  · rw [htext]
    exact asciiCodes_decodeReplacing preferred bytes
  · rw [htext]
    exact asciiCodes_decodeReplacing windows1251 bytes

end BooleanRetrieval.Encoding
