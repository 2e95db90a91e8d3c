import BooleanRetrieval.Json.Reader
import BooleanRetrieval.Json.Writer
import BooleanRetrieval.Proofs.Decimal.Digits

/-!
# Reading back JSON strings and numbers

A written string is read back, whatever its characters (`readQuoted_writeString`), and so are whole
numbers and the words that stand for values (`readScalar_int`, `readScalar_constant`). What follows a
value in a written text, a comma or a line break, cannot be taken for a part of it (`Closed`).
-/

set_option autoImplicit false

namespace BooleanRetrieval.Json

/-! ## Strings -/

/-- The facts about a control character on which its escape rests: four digits that write the
character and are no half of a pair. -/
theorem hex_control : ∀ n < 32, ∃ a b c d, Text.hex 4 n = [a, b, c, d] ∧
    hexNumber? [a, b, c, d] = some n ∧ isHighHalf n = false ∧ isLowHalf n = false := by
  have hfacts : ∀ n < 32, (Text.hex 4 n).length = 4 ∧ hexNumber? (Text.hex 4 n) = some n ∧
      isHighHalf n = false ∧ isLowHalf n = false := by decide
  intro n hn
  obtain ⟨hlength, hnumber, hhigh, hlow⟩ := hfacts n hn
  obtain ⟨a, b, c, d, hdigits⟩ : ∃ a b c d, Text.hex 4 n = [a, b, c, d] := by
    match Text.hex 4 n, hlength with
    | [a, b, c, d], _ => exact ⟨a, b, c, d, rfl⟩
  rw [hdigits] at hnumber
  exact ⟨a, b, c, d, hdigits, hnumber, hhigh, hlow⟩

/-- A short escape is read as the character it stands for. -/
theorem readString_short {c e : Char} (hescaped : escaped? e = some c) (done : List Char)
    (rest : List Char) : readString done ('\\' :: e :: rest) = readString (c :: done) rest := by
  have hletter : e ≠ 'u' := by
    rintro rfl
    cases hescaped
  rw [readString.eq_6 _ _ _ (fun _ _ _ _ _ _ hu => absurd hu hletter) hletter, hescaped]

/-- The escape of a control character is read as that character. -/
theorem readString_control {c : Char} (h : c < ' ') (done : List Char) (e : Char)
    (rest : List Char) :
    readString done ('\\' :: 'u' :: (Text.hex 4 c.toNat ++ e :: rest)) =
      readString (c :: done) (e :: rest) := by
  obtain ⟨d₁, d₂, d₃, d₄, hdigits, hnumber, hhigh, hlow⟩ := hex_control c.toNat h
  have hunit : unitChar c.toNat = c := by
    unfold unitChar
    rw [hhigh, hlow]
    exact Char.ofNat_toNat c
  rw [hdigits, List.cons_append, List.cons_append, List.cons_append, List.cons_append,
    List.nil_append, readString.eq_4, hnumber]
  dsimp only
  split
  · rw [hhigh, hunit]
    rfl
  · rw [hunit]

/-- A plain character is read as itself. -/
theorem readString_plain {c : Char} (hquote : c ≠ '"') (hslash : c ≠ '\\') (hcontrol : ¬ c < ' ')
    (done rest : List Char) : readString done (c :: rest) = readString (c :: done) rest := by
  rw [readString.eq_7 _ _ _ hquote (fun h _ => absurd h hslash)
    (fun _ _ _ _ _ _ h _ => absurd h hslash) (fun _ h _ => absurd h hslash)
    (fun _ _ h _ => absurd h hslash), if_neg hcontrol]

/-- A written character is read back, whatever follows it in the string. -/
theorem readString_writeChar (c : Char) (done : List Char) (e : Char) (rest : List Char) :
    readString done (writeChar c ++ e :: rest) = readString (c :: done) (e :: rest) := by
  unfold writeChar
  split
  · next h =>
    simp only [Bool.or_eq_true, decide_eq_true_eq] at h
    rcases h with rfl | rfl
    · exact readString_short rfl done _
    · exact readString_short rfl done _
  · next h =>
    simp only [Bool.or_eq_true, decide_eq_true_eq, not_or] at h
    split
    · next hc =>
      rw [hc]
      exact readString_short rfl done _
    split
    · next hc =>
      rw [hc]
      exact readString_short rfl done _
    split
    · next hc =>
      rw [hc]
      exact readString_short rfl done _
    split
    · next hc =>
      rw [hc]
      exact readString_short rfl done _
    split
    · next hc =>
      rw [hc]
      exact readString_short rfl done _
    split
    · next hc => exact readString_control hc done e rest
    · next hc => exact readString_plain h.1 h.2 hc done _

/-- Written characters are read back up to the closing quote. -/
theorem readString_flatMap (cs done rest : List Char) :
    readString done (cs.flatMap writeChar ++ '"' :: rest) =
      .ok (.ofList (done.reverse ++ cs), rest) := by
  induction cs generalizing done with
  | nil => rw [List.flatMap_nil, List.nil_append, readString, List.append_nil]
  | cons c cs ih =>
    obtain ⟨e, tail, htail⟩ : ∃ e tail, cs.flatMap writeChar ++ '"' :: rest = e :: tail :=
      List.exists_cons_of_ne_nil (by simp)
    rw [List.flatMap_cons, List.append_assoc, htail, readString_writeChar, ← htail, ih]
    simp

/-- A written string is read back. -/
theorem readQuoted_writeString (s : String) (rest : List Char) :
    readQuoted (writeString s ++ rest) = .ok (s, rest) := by
  have htail : (writeString s ++ rest).tail = s.toList.flatMap writeChar ++ '"' :: rest := by
    unfold writeString
    rw [List.cons_append, List.append_assoc]
    rfl
  unfold readQuoted
  rw [htail, readString_flatMap, List.reverse_nil, List.nil_append, String.ofList_toList]
  rfl

/-! ## Numbers -/

/-- What may follow a value in a written text. -/
def Closed (rest : List Char) : Prop :=
  ∀ c tail, rest = c :: tail → c = ',' ∨ c = '\n'

/-- The end of the text may follow a value. -/
theorem closed_nil : Closed [] := by
  intro c tail h
  cases h

/-- A comma or a new line may follow a value. -/
theorem closed_cons {c : Char} {tail : List Char} (h : c = ',' ∨ c = '\n') : Closed (c :: tail) := by
  intro d rest heq
  cases heq
  exact h

/-- What may follow a value begins with no digit. -/
theorem takeWhile_isDigit {rest : List Char} (h : Closed rest) : rest.takeWhile Char.isDigit = [] := by
  cases rest with
  | nil => rfl
  | cons c tail => rcases h c tail rfl with rfl | rfl <;> rfl

/-- What may follow a value is no fraction. -/
theorem readFraction_of_closed {rest : List Char} (h : Closed rest) :
    readFraction rest = ([], rest) := by
  cases rest with
  | nil => rfl
  | cons c tail => rcases h c tail rfl with rfl | rfl <;> rfl

/-- What may follow a value is no exponent. -/
theorem readPower_of_closed {rest : List Char} (h : Closed rest) : readPower rest = (none, rest) := by
  cases rest with
  | nil => rfl
  | cons c tail => rcases h c tail rfl with rfl | rfl <;> rfl

/-- The digits that a number is read from are all its digits; only for zero do they begin with a
zero, which would end them. -/
theorem readMagnitude_toDigits (negative : Bool) (start : List Char) (n : Nat) {rest : List Char}
    (hlength : (Nat.toDigits 10 n).length ≤ maxDigits) (hrest : Closed rest) :
    readMagnitude negative start (Nat.toDigits 10 n ++ rest) =
      .ok (.int (if negative then -(n : Int) else n), rest) := by
  unfold readMagnitude
  extract_lets whole afterWhole value
  have hwhole : whole = Nat.toDigits 10 n := by
    rcases Nat.eq_zero_or_pos n with rfl | hpositive
    · rfl
    -- a leading zero would be taken alone, but a positive number has none
    · obtain ⟨c, digits, hdigits, hc⟩ := exists_toDigits_eq_cons hpositive
      have htake : (Nat.toDigits 10 n ++ rest).takeWhile Char.isDigit = Nat.toDigits 10 n := by
        rw [List.takeWhile_append_of_pos fun c => isDigit_of_mem_toDigits, takeWhile_isDigit hrest,
          List.append_nil]
      dsimp only [whole]
      rw [hdigits, List.cons_append] at htake ⊢
      split
      · next heq => exact absurd (List.cons.inj heq).1 hc
      · exact htake
  have hnonempty : ¬ whole.isEmpty = true := by
    rw [hwhole, List.isEmpty_iff]
    exact Nat.toDigits_ne_nil
  have hafter : afterWhole = rest := by
    dsimp only [afterWhole]
    rw [hwhole, List.drop_left]
  have hfraction : (([] : List Char).isEmpty && (none : Option Int).isNone) = true := rfl
  have hvalue : value = n := by
    dsimp only [value]
    rw [hwhole, Nat.ofDigitChars_toDigits (by decide) (by decide)]
  rw [if_neg hnonempty, hafter, readFraction_of_closed hrest]
  dsimp only
  rw [readPower_of_closed hrest]
  dsimp only
  rw [if_pos hfraction, hwhole, if_neg (Nat.not_lt.mpr hlength), hvalue]

/-! ## Scalars -/

/-- Dropping a word from a text it begins leaves the rest. -/
theorem dropWord?_append (word : String) (rest : List Char) :
    dropWord? word (word.toList ++ rest) = some rest := by
  unfold dropWord?
  rw [if_pos (List.isPrefixOf_iff_prefix.mpr (List.prefix_append _ _)), ← String.length_toList,
    List.drop_left]

/-- A word that does not begin the text cannot be dropped. -/
theorem dropWord?_eq_none {word : String} {cs : List Char} (h : ¬ word.toList <+: cs) :
    dropWord? word cs = none := by
  unfold dropWord?
  rw [if_neg (by rwa [List.isPrefixOf_iff_prefix])]

/-- The first character of a word. -/
def firstChar (word : String) : Char :=
  word.toList.headD ' '

/-- The second character of a word. -/
def secondChar (word : String) : Char :=
  word.toList.tail.headD ' '

/-- Each constant has a first and a second character. -/
theorem exists_toList_of_mem_constants {entry : String × Json} (h : entry ∈ constants) :
    ∃ tail, entry.1.toList = firstChar entry.1 :: secondChar entry.1 :: tail := by
  have hlong : ∀ word ∈ constants.map Prod.fst, 2 ≤ word.toList.length := by decide
  have hlength : 2 ≤ entry.1.toList.length := hlong _ (List.mem_map_of_mem h)
  match hchars : entry.1.toList, hlength with
  | c :: d :: tail, _ =>
    exact ⟨tail, by rw [firstChar, secondChar, hchars, List.headD_cons, List.tail_cons, List.headD_cons]⟩

/-- The constants begin with different characters, so that none of them is taken for another. -/
theorem nodup_firstChar_constants : (constants.map fun entry => firstChar entry.1).Nodup := by
  decide

/-- What stands where a constant is looked for. -/
abbrev constantAt (cs : List Char) (entry : String × Json) : Option (Json × List Char) :=
  (dropWord? entry.1 cs).map fun rest => (entry.2, rest)

/-- Among constants with different first characters the one that stands in the text is found. -/
theorem findSome?_constant {entries : List (String × Json)} (hentries : entries ⊆ constants)
    (hheads : (entries.map fun entry => firstChar entry.1).Nodup) {entry : String × Json}
    (h : entry ∈ entries) (rest : List Char) :
    entries.findSome? (constantAt (entry.1.toList ++ rest)) = some (entry.2, rest) := by
  induction entries with
  | nil => exact absurd h List.not_mem_nil
  | cons first others ih =>
    rcases List.mem_cons.mp h with rfl | h
    · rw [List.findSome?_cons, constantAt, dropWord?_append]
      rfl
    · obtain ⟨hfirst, hothers⟩ := List.nodup_cons.mp hheads
      obtain ⟨tail, hchars⟩ := exists_toList_of_mem_constants (hentries List.mem_cons_self)
      obtain ⟨tail', hchars'⟩ :=
        exists_toList_of_mem_constants (hentries (List.mem_cons_of_mem _ h))
      have hne : firstChar first.1 ≠ firstChar entry.1 := by
        intro heq
        exact hfirst (List.mem_map.mpr ⟨entry, h, heq.symm⟩)
      have hprefix : ¬ first.1.toList <+: entry.1.toList ++ rest := by
        rw [hchars, hchars', List.cons_append, List.cons_prefix_cons]
        exact fun hprefix => hne hprefix.1
      have hnone : constantAt (entry.1.toList ++ rest) first = none := by
        rw [constantAt, dropWord?_eq_none hprefix]
        rfl
      rw [List.findSome?_cons, hnone]
      exact ih (fun e he => hentries (List.mem_cons_of_mem _ he)) hothers h

/-- A constant is read as what it stands for. -/
theorem readScalar_constant {entry : String × Json} (h : entry ∈ constants) (rest : List Char) :
    readScalar (entry.1.toList ++ rest) = .ok (entry.2, rest) := by
  have hfind := findSome?_constant (fun _ he => he) nodup_firstChar_constants h rest
  unfold readScalar
  rw [hfind]

/-- No constant begins like a number: the first characters of all constants are no digits, and
neither are the second ones. -/
theorem not_prefix_of_isDigit {entry : String × Json} (hentry : entry ∈ constants) {c : Char}
    (hc : c.isDigit = true) (cs : List Char) :
    ¬ entry.1.toList <+: c :: cs ∧ ¬ entry.1.toList <+: '-' :: c :: cs := by
  have hletters : ∀ word ∈ constants.map Prod.fst,
      (firstChar word).isDigit = false ∧ (secondChar word).isDigit = false := by decide
  obtain ⟨tail, hchars⟩ := exists_toList_of_mem_constants hentry
  obtain ⟨hfirst, hsecond⟩ := hletters _ (List.mem_map_of_mem hentry)
  rw [hchars, List.cons_prefix_cons, List.cons_prefix_cons, List.cons_prefix_cons]
  constructor
  · rintro ⟨rfl, -⟩
    exact absurd hc (Bool.eq_false_iff.mp hfirst)
  · rintro ⟨-, rfl, -⟩
    exact absurd hc (Bool.eq_false_iff.mp hsecond)

/-- Where no constant begins nothing is found. -/
theorem findSome?_eq_none {cs : List Char} (h : ∀ entry ∈ constants, ¬ entry.1.toList <+: cs) :
    constants.findSome? (constantAt cs) = none := by
  rw [List.findSome?_eq_none_iff]
  intro entry hentry
  rw [constantAt, dropWord?_eq_none (h entry hentry)]
  rfl

/-- A digit begins a number that is not negative. -/
theorem readScalar_digit {c : Char} (hc : c.isDigit = true) (cs : List Char) :
    readScalar (c :: cs) = readMagnitude false (c :: cs) (c :: cs) := by
  have hnone := findSome?_eq_none fun _ hentry => (not_prefix_of_isDigit hentry hc cs).1
  unfold readScalar
  rw [hnone]
  dsimp only
  split
  · next heq =>
    obtain rfl := (List.cons.inj heq).1
    cases hc
  · rfl

/-- A minus sign before a digit begins a negative number. -/
theorem readScalar_minus {c : Char} (hc : c.isDigit = true) (cs : List Char) :
    readScalar ('-' :: c :: cs) = readMagnitude true ('-' :: c :: cs) (c :: cs) := by
  have hnone := findSome?_eq_none fun _ hentry => (not_prefix_of_isDigit hentry hc cs).2
  unfold readScalar
  rw [hnone]
  rfl

/-- A whole number is written as the digits of its magnitude, with a minus sign if it is negative. -/
theorem toList_toString_int (n : Int) :
    (toString n).toList =
      if n < 0 then '-' :: Nat.toDigits 10 n.natAbs else Nat.toDigits 10 n.natAbs := by
  cases n with
  | ofNat n => exact toList_toString n
  | negSucc n =>
    have htext : toString (Int.negSucc n) = "-" ++ toString (n + 1) := rfl
    rw [htext, String.toList_append, toList_toString, if_pos (Int.negSucc_lt_zero n)]
    simp

/-- A written whole number is read back. -/
theorem readScalar_int {n : Int} (hlength : (Nat.toDigits 10 n.natAbs).length ≤ maxDigits)
    {rest : List Char} (hrest : Closed rest) :
    readScalar ((toString n).toList ++ rest) = .ok (.int n, rest) := by
  have hread : ∀ negative start, readMagnitude negative start (Nat.toDigits 10 n.natAbs ++ rest) =
      .ok (.int (if negative then -(n.natAbs : Int) else n.natAbs), rest) := fun negative start =>
    readMagnitude_toDigits negative start n.natAbs hlength hrest
  obtain ⟨c, digits, hdigits⟩ : ∃ c digits, Nat.toDigits 10 n.natAbs = c :: digits :=
    List.exists_cons_of_ne_nil Nat.toDigits_ne_nil
  have hc : c.isDigit = true := isDigit_of_mem_toDigits (hdigits ▸ List.mem_cons_self)
  rw [toList_toString_int]
  rw [hdigits, List.cons_append] at hread
  split
  · next hneg =>
    rw [hdigits, List.cons_append, List.cons_append, readScalar_minus hc, hread, if_pos rfl,
      Int.ofNat_natAbs_of_nonpos (Int.le_of_lt hneg), Int.neg_neg]
  · next hneg =>
    rw [hdigits, List.cons_append, readScalar_digit hc, hread, if_neg Bool.false_ne_true,
      Int.natAbs_of_nonneg (Int.not_lt.mp hneg)]

end BooleanRetrieval.Json
