import BooleanRetrieval.Encoding.Utf8

/-!
# Reading back UTF-8

The decoder reads the bytes of a character as that character, whatever it read before
(`foldl_push_utf8Bytes`), so it reads an encoded text as the text (`decodeUtf8_encodeUtf8`). The first
byte of a character fixes the range of the second: the ranges that it leaves out would spell a
character in too many bytes, a surrogate, or a number behind the last character.
-/

set_option autoImplicit false

namespace BooleanRetrieval.Encoding

/-- A number below 256 is the value of its byte. -/
theorem toNat_ofNat_of_lt {n : Nat} (h : n < 256) : (UInt8.ofNat n).toNat = n := by
  rw [UInt8.toNat_ofNat']
  exact Nat.mod_eq_of_lt h

namespace Utf8Decoder

/-! ## One byte -/

/-- A byte of ASCII is decoded at once. -/
theorem push_ascii (pieces : List Utf8Piece) {n : Nat} (h : n ≤ 127) :
    push ⟨pieces, none⟩ (UInt8.ofNat n) = ⟨.char (Char.ofNat n) :: pieces, none⟩ := by
  have hn : (UInt8.ofNat n).toNat = n := toNat_ofNat_of_lt (by omega)
  have hlt : UInt8.ofNat n < 0x80 := by
    apply UInt8.lt_iff_toNat_lt.mpr
    rw [hn]
    exact Nat.lt_succ_of_le h
  unfold push begin
  rw [if_pos hlt, hn]

/-- A byte behind ASCII that begins a sequence leaves the sequence in progress. -/
theorem push_start (pieces : List Utf8Piece) {n : Nat} {s : Utf8Sequence} (hn : 128 ≤ n)
    (hlt : n < 256) (hstart : Utf8Sequence.start? (UInt8.ofNat n) = some s) :
    push ⟨pieces, none⟩ (UInt8.ofNat n) = ⟨pieces, some s⟩ := by
  have hnot : ¬ UInt8.ofNat n < 0x80 := by
    intro hascii
    have hascii := UInt8.lt_iff_toNat_lt.mp hascii
    rw [toNat_ofNat_of_lt hlt] at hascii
    exact absurd hascii (Nat.not_lt.mpr hn)
  unfold push begin
  rw [if_neg hnot, hstart]

/-- A byte in the range of a sequence that misses more bytes is added to it. -/
theorem push_middle (pieces : List Utf8Piece) (s : Utf8Sequence) {n : Nat} (hn : n < 64)
    (hlow : s.low.toNat ≤ n + 128) (hhigh : n + 128 ≤ s.high.toNat) (hmissing : 1 < s.missing) :
    push ⟨pieces, some s⟩ (UInt8.ofNat (n + 128)) =
      ⟨pieces, some ⟨UInt8.ofNat (n + 128) :: s.bytes, s.value * 64 + n, s.missing - 1, 0x80, 0xBF⟩⟩ := by
  have hbyte : (UInt8.ofNat (n + 128)).toNat = n + 128 := toNat_ofNat_of_lt (by omega)
  have hrange : (s.low ≤ UInt8.ofNat (n + 128) && UInt8.ofNat (n + 128) ≤ s.high) = true := by
    simp only [Bool.and_eq_true, decide_eq_true_eq, UInt8.le_iff_toNat_le, hbyte]
    exact ⟨hlow, hhigh⟩
  unfold push
  dsimp only
  rw [if_pos hrange, if_neg (Nat.not_le.mpr hmissing), hbyte, Nat.add_sub_cancel]

/-- A byte in the range of a sequence that misses one byte ends it with a character. -/
theorem push_last (pieces : List Utf8Piece) (s : Utf8Sequence) {n : Nat} (hn : n < 64)
    (hlow : s.low.toNat ≤ n + 128) (hhigh : n + 128 ≤ s.high.toNat) (hmissing : s.missing = 1) :
    push ⟨pieces, some s⟩ (UInt8.ofNat (n + 128)) =
      ⟨.char (Char.ofNat (s.value * 64 + n)) :: pieces, none⟩ := by
  have hbyte : (UInt8.ofNat (n + 128)).toNat = n + 128 := toNat_ofNat_of_lt (by omega)
  have hrange : (s.low ≤ UInt8.ofNat (n + 128) && UInt8.ofNat (n + 128) ≤ s.high) = true := by
    simp only [Bool.and_eq_true, decide_eq_true_eq, UInt8.le_iff_toNat_le, hbyte]
    exact ⟨hlow, hhigh⟩
  unfold push
  dsimp only
  rw [if_pos hrange, if_pos (Nat.le_of_eq hmissing), hbyte, Nat.add_sub_cancel]

end Utf8Decoder

/-! ## First bytes -/

/-- A lead byte of two-byte sequences opens a sequence of one more byte. -/
theorem start?_two (lead : Nat) (hlow : 0xC2 ≤ lead) (hhigh : lead ≤ 0xDF) :
    Utf8Sequence.start? (UInt8.ofNat lead) =
      some ⟨[UInt8.ofNat lead], lead - 0xC0, 1, 0x80, 0xBF⟩ := by
  have hlead : (UInt8.ofNat lead).toNat = lead := toNat_ofNat_of_lt (by omega)
  unfold Utf8Sequence.start?
  dsimp only
  rw [hlead, if_pos (by simp [hlow, hhigh])]

/-- The first of three bytes leaves a range for the second that keeps it from spelling less than
three bytes can, or a surrogate. -/
theorem exists_start?_three (lead second : Nat) (hlow : 0xE0 ≤ lead) (hhigh : lead ≤ 0xEF)
    (hsecond : second < 64) (hshort : lead = 0xE0 → 32 ≤ second)
    (hsurrogate : lead = 0xED → second < 32) :
    ∃ low high, Utf8Sequence.start? (UInt8.ofNat lead) =
        some ⟨[UInt8.ofNat lead], lead - 0xE0, 2, low, high⟩ ∧
      low.toNat ≤ second + 128 ∧ second + 128 ≤ high.toNat := by
  have hlead : (UInt8.ofNat lead).toNat = lead := toNat_ofNat_of_lt (by omega)
  unfold Utf8Sequence.start?
  dsimp only
  rw [hlead, if_neg (by simp; omega)]
  by_cases hfirst : lead = 0xE0
  · have hmin : 32 ≤ second := hshort hfirst
    refine ⟨0xA0, 0xBF, by rw [if_pos hfirst, hfirst], ?_, ?_⟩
    · change 160 ≤ second + 128
      omega
    · change second + 128 ≤ 191
      omega
  · rw [if_neg hfirst]
    by_cases hmiddle : lead = 0xED
    · have hmax : second < 32 := hsurrogate hmiddle
      refine ⟨0x80, 0x9F, by rw [if_pos hmiddle, hmiddle], ?_, ?_⟩
      · change 128 ≤ second + 128
        omega
      · change second + 128 ≤ 159
        omega
    · rw [if_neg hmiddle]
      refine ⟨0x80, 0xBF, by rw [if_pos (by simp; omega)], ?_, ?_⟩
      · change 128 ≤ second + 128
        omega
      · change second + 128 ≤ 191
        omega

/-- The first of four bytes leaves a range for the second that keeps it from spelling less than four
bytes can, or more than the last character. -/
theorem exists_start?_four (lead second : Nat) (hlow : 0xF0 ≤ lead) (hhigh : lead ≤ 0xF4)
    (hsecond : second < 64) (hshort : lead = 0xF0 → 16 ≤ second)
    (hlast : lead = 0xF4 → second < 16) :
    ∃ low high, Utf8Sequence.start? (UInt8.ofNat lead) =
        some ⟨[UInt8.ofNat lead], lead - 0xF0, 3, low, high⟩ ∧
      low.toNat ≤ second + 128 ∧ second + 128 ≤ high.toNat := by
  have hlead : (UInt8.ofNat lead).toNat = lead := toNat_ofNat_of_lt (by omega)
  unfold Utf8Sequence.start?
  dsimp only
  rw [hlead, if_neg (by simp; omega), if_neg (by omega), if_neg (by omega), if_neg (by simp; omega)]
  by_cases hfirst : lead = 0xF0
  · have hmin : 16 ≤ second := hshort hfirst
    refine ⟨0x90, 0xBF, by rw [if_pos hfirst, hfirst], ?_, ?_⟩
    · change 144 ≤ second + 128
      omega
    · change second + 128 ≤ 191
      omega
  · rw [if_neg hfirst]
    by_cases hend : lead = 0xF4
    · have hmax : second < 16 := hlast hend
      refine ⟨0x80, 0x8F, by rw [if_pos hend, hend], ?_, ?_⟩
      · change 128 ≤ second + 128
        omega
      · change second + 128 ≤ 143
        omega
    · rw [if_neg hend]
      refine ⟨0x80, 0xBF, by rw [if_pos (by simp; omega)], ?_, ?_⟩
      · change 128 ≤ second + 128
        omega
      · change second + 128 ≤ 191
        omega

/-! ## One character -/

/-- A sequence of two bytes is decoded to the code point that was encoded. -/
theorem foldl_push_two (pieces : List Utf8Piece) {v : Nat} (hlow : 128 ≤ v) (hhigh : v ≤ 2047) :
    [UInt8.ofNat (v / 64 % 32 + 192), UInt8.ofNat (v % 64 + 128)].foldl Utf8Decoder.push
      ⟨pieces, none⟩ = ⟨.char (Char.ofNat v) :: pieces, none⟩ := by
  have hstart := start?_two (v / 64 % 32 + 192) (by omega) (by omega)
  have hvalue : (v / 64 % 32 + 192 - 0xC0) * 64 + v % 64 = v := by omega
  rw [List.foldl_cons, Utf8Decoder.push_start pieces (by omega) (by omega) hstart, List.foldl_cons,
    Utf8Decoder.push_last pieces _ (by omega) (Nat.le_add_left _ _) ?_ rfl, List.foldl_nil]
  · dsimp only
    rw [hvalue]
  · change v % 64 + 128 ≤ 191
    omega

/-- A sequence of three bytes is decoded to the code point that was encoded. -/
theorem foldl_push_three (pieces : List Utf8Piece) {v : Nat} (hlow : 2048 ≤ v)
    (hhigh : v ≤ 65535) (hscalar : v < 0xD800 ∨ 0xDFFF < v) :
    [UInt8.ofNat (v / 4096 % 16 + 224), UInt8.ofNat (v / 64 % 64 + 128),
      UInt8.ofNat (v % 64 + 128)].foldl Utf8Decoder.push ⟨pieces, none⟩ =
        ⟨.char (Char.ofNat v) :: pieces, none⟩ := by
  obtain ⟨low, high, hstart, hsecondLow, hsecondHigh⟩ :=
    exists_start?_three (v / 4096 % 16 + 224) (v / 64 % 64) (by omega) (by omega) (by omega)
      (by omega) (by omega)
  have hvalue : ((v / 4096 % 16 + 224 - 0xE0) * 64 + v / 64 % 64) * 64 + v % 64 = v := by omega
  rw [List.foldl_cons, Utf8Decoder.push_start pieces (by omega) (by omega) hstart, List.foldl_cons,
    Utf8Decoder.push_middle pieces _ (by omega) hsecondLow hsecondHigh Nat.one_lt_two, List.foldl_cons,
    Utf8Decoder.push_last pieces _ (by omega) (Nat.le_add_left _ _) ?_ rfl, List.foldl_nil]
  · dsimp only
    rw [hvalue]
  · change v % 64 + 128 ≤ 191
    omega

/-- A sequence of four bytes is decoded to the code point that was encoded. -/
theorem foldl_push_four (pieces : List Utf8Piece) {v : Nat} (hlow : 65536 ≤ v)
    (hhigh : v < 0x110000) :
    [UInt8.ofNat (v / 262144 % 8 + 240), UInt8.ofNat (v / 4096 % 64 + 128),
      UInt8.ofNat (v / 64 % 64 + 128), UInt8.ofNat (v % 64 + 128)].foldl Utf8Decoder.push
        ⟨pieces, none⟩ = ⟨.char (Char.ofNat v) :: pieces, none⟩ := by
  obtain ⟨low, high, hstart, hsecondLow, hsecondHigh⟩ :=
    exists_start?_four (v / 262144 % 8 + 240) (v / 4096 % 64) (by omega) (by omega) (by omega)
      (by omega) (by omega)
  have hvalue : (((v / 262144 % 8 + 240 - 0xF0) * 64 + v / 4096 % 64) * 64 + v / 64 % 64) * 64 +
      v % 64 = v := by omega
  rw [List.foldl_cons, Utf8Decoder.push_start pieces (by omega) (by omega) hstart, List.foldl_cons,
    Utf8Decoder.push_middle pieces _ (by omega) hsecondLow hsecondHigh (by change 1 < 3; decide), List.foldl_cons,
    Utf8Decoder.push_middle pieces _ (by omega) (Nat.le_add_left _ _) ?_ Nat.one_lt_two,
    List.foldl_cons, Utf8Decoder.push_last pieces _ (by omega) (Nat.le_add_left _ _) ?_ rfl,
    List.foldl_nil]
  · dsimp only
    rw [hvalue]
  · change v % 64 + 128 ≤ 191
    omega
  · change v / 64 % 64 + 128 ≤ 191
    omega

/-- The decoder reads the bytes of a character as that character. -/
theorem foldl_push_utf8Bytes (c : Char) (pieces : List Utf8Piece) :
    (utf8Bytes c).foldl Utf8Decoder.push ⟨pieces, none⟩ = ⟨.char c :: pieces, none⟩ := by
  have hscalar : c.toNat < 0xD800 ∨ 0xDFFF < c.toNat ∧ c.toNat < 0x110000 := c.valid
  have hchar : Utf8Piece.char c = .char (Char.ofNat c.toNat) := by rw [Char.ofNat_toNat]
  have hval : c.val.toNat = c.toNat := rfl
  unfold utf8Bytes
  rw [String.utf8EncodeChar.eq_1, hchar, hval]
  split
  · next hone =>
    rw [List.foldl_cons, List.foldl_nil]
    exact Utf8Decoder.push_ascii pieces hone
  · next hone =>
    split
    · next htwo => exact foldl_push_two pieces (by omega) htwo
    · next htwo =>
      split
      · next hthree => exact foldl_push_three pieces (by omega) hthree (by omega)
      · next hthree => exact foldl_push_four pieces (by omega) (by omega)

/-! ## Texts -/

/-- Decoding what was encoded gives one piece for each character. -/
theorem foldl_push_encodeUtf8 (cs : List Char) (pieces : List Utf8Piece) :
    (encodeUtf8 cs).foldl Utf8Decoder.push ⟨pieces, none⟩ =
      ⟨(cs.map Utf8Piece.char).reverse ++ pieces, none⟩ := by
  induction cs generalizing pieces with
  | nil => rfl
  | cons c cs ih =>
    have hcons : encodeUtf8 (c :: cs) = utf8Bytes c ++ encodeUtf8 cs := List.flatMap_cons
    rw [hcons, List.foldl_append, foldl_push_utf8Bytes, ih, List.map_cons, List.reverse_cons,
      List.append_assoc, List.singleton_append]

/-- An encoded text has the characters of the text for its pieces. -/
theorem utf8Pieces_encodeUtf8 (cs : List Char) :
    utf8Pieces (encodeUtf8 cs) = cs.map Utf8Piece.char := by
  unfold utf8Pieces Utf8Decoder.empty
  rw [foldl_push_encodeUtf8, List.append_nil]
  exact List.reverse_reverse _

/-- Pieces that are characters are decoded strictly to these characters. -/
theorem utf8Strict_map_char (position : Nat) (done cs : List Char) :
    utf8Strict position done (cs.map Utf8Piece.char) = .ok (done.reverse ++ cs) := by
  induction cs generalizing position done with
  | nil => simp [utf8Strict]
  | cons c cs ih =>
    rw [List.map_cons, utf8Strict, ih, List.reverse_cons, List.append_assoc, List.singleton_append]

/-- Decoding gives back every text that was encoded. -/
theorem decodeUtf8_encodeUtf8 (cs : List Char) : decodeUtf8 (encodeUtf8 cs) = .ok cs := by
  unfold decodeUtf8
  rw [utf8Pieces_encodeUtf8, utf8Strict_map_char, List.reverse_nil, List.nil_append]

end BooleanRetrieval.Encoding
