import BooleanRetrieval.Encoding.Basic
import Mathlib.Data.String.Basic

/-!
# Names of encodings

Looking up an encoding splits its name into pieces, which is computed with positions in the name. It comes
to the pieces of the characters between spaces (`splitOn_space`), so that names can be looked up by
evaluation (`ofName?_commonName`). A file of an encoding that is found always has a text
(`readText_of_ofName?`).
-/

set_option autoImplicit false

namespace BooleanRetrieval.Encoding

/-! ## Pieces between spaces -/

/-- Extracting the middle of three parts gives it back. -/
theorem extract_piece (l m r : List Char) :
    String.Pos.Raw.extract (.ofList (l ++ m ++ r)) ⟨String.utf8Len l⟩ ⟨String.utf8Len (l ++ m)⟩ =
      .ofList m := by
  rw [String.utf8Len_append]
  exact String.extract_of_valid l m r

/-- Going on behind the text `l ++ m`, whose last piece `m` is not finished. -/
theorem splitOnAux_space (l m r : List Char) (acc : List String) :
    String.splitOnAux (.ofList (l ++ m ++ r)) " " ⟨String.utf8Len l⟩ ⟨String.utf8Len (l ++ m)⟩ 0 acc =
      acc.reverse ++ (List.splitOnPPrepend (· == ' ') r m.reverse).map String.ofList := by
  induction r generalizing l m acc with
  | nil =>
    rw [String.splitOnAux, if_pos ((String.atEnd_of_valid (l ++ m) []).mpr rfl)]
    dsimp only
    rw [extract_piece]
    simp
  | cons c r ih =>
    have hmore : ¬String.Pos.Raw.atEnd (.ofList (l ++ m ++ c :: r))
        ⟨String.utf8Len (l ++ m)⟩ = true := by
      rw [String.atEnd_of_valid]
      exact List.cons_ne_nil c r
    have hspace : String.Pos.Raw.get " " 0 = ' ' := by decide +kernel
    have hnext : String.Pos.Raw.next " " 0 = ⟨1⟩ := by decide +kernel
    have hend : String.Pos.Raw.atEnd " " ⟨1⟩ = true := by decide +kernel
    have hbehind : String.utf8Len (l ++ m) + c.utf8Size = String.utf8Len (l ++ m ++ [c]) := by
      rw [String.utf8Len_append (l ++ m), String.utf8Len_cons, String.utf8Len_nil, Nat.zero_add]
    rw [String.splitOnAux, if_neg hmore, String.get_of_valid, hspace, List.headD_cons,
      List.splitOnPPrepend_cons_eq_if]
    dsimp only
    split
    -- a space ends the piece, and the next piece begins empty behind it
    · next hc =>
      obtain rfl := beq_iff_eq.mp hc
      have hback : (⟨String.utf8Len (l ++ m) + ' '.utf8Size⟩ : String.Pos.Raw).unoffsetBy ⟨1⟩ =
          ⟨String.utf8Len (l ++ m)⟩ :=
        congrArg String.Pos.Raw.mk (Nat.add_sub_cancel _ 1)
      have hrest := ih (l ++ m ++ [' ']) [] (.ofList m :: acc)
      rw [List.append_nil, List.append_assoc (l ++ m), List.singleton_append] at hrest
      rw [String.next_of_valid, hnext, if_pos hend, hback, extract_piece, hbehind, hrest]
      simp
    -- any other character goes to the piece
    · next hc =>
      have hback : (⟨String.utf8Len (l ++ m)⟩ : String.Pos.Raw).unoffsetBy 0 =
          ⟨String.utf8Len (l ++ m)⟩ := rfl
      have hrest := ih l (m ++ [c]) acc
      rw [← List.append_assoc, List.append_assoc (l ++ m), List.singleton_append] at hrest
      rw [hback, String.next_of_valid, hbehind, hrest]
      simp

/-- Splitting a string at spaces is splitting its characters at spaces. -/
theorem splitOn_space (s : String) :
    s.splitOn = (s.toList.splitOnP (· == ' ')).map String.ofList := by
  have h := splitOnAux_space [] [] s.toList []
  rw [List.nil_append, List.nil_append, String.ofList_toList] at h
  unfold String.splitOn
  rw [if_neg (by decide)]
  exact h

/-- Normalizing the name of an encoding lowers its letters and joins the pieces between other characters by
underscores. -/
theorem normalizeName_eq (name : String) :
    normalizeName name = "_".intercalate (((((name.toList.map fun c =>
      if c.isAlphanum || c = '.' then c.toLower else ' ').splitOnP (· == ' ')).map String.ofList)).filter
        (! ·.isEmpty)) := by
  unfold normalizeName
  dsimp only
  rw [splitOn_space, String.toList_ofList]

/-! ## Common names -/

/-- The name by which an encoding is usually given. -/
def commonName : Encoding → String
  | utf8 => "utf-8"
  | utf8Marked => "utf-8-sig"
  | windows1251 => "cp1251"
  | ascii => "ascii"
  | latin1 => "latin-1"

/-- The common name of an encoding names it. -/
theorem ofName?_commonName (encoding : Encoding) : ofName? encoding.commonName = some encoding := by
  unfold ofName?
  rw [normalizeName_eq]
  cases encoding <;> decide +kernel

/-- Every file has a text in a known encoding. -/
theorem readText_of_ofName? {name : String} {encoding : Encoding} (h : ofName? name = some encoding)
    (bytes : List UInt8) : readText name bytes = .ok (encoding.decodeText bytes) := by
  unfold readText
  rw [h]
  cases bytes with
  | nil => cases encoding <;> rfl
  | cons byte bytes => rfl

end BooleanRetrieval.Encoding
