import BooleanRetrieval.Document.Reader
import BooleanRetrieval.Files.Path
import BooleanRetrieval.Proofs.Text.Folding
import BooleanRetrieval.Text.Term

/-!
# Names of readable files

The usual readers go by the endings of file names, and every such ending closes with a letter or a
digit. So the last character of the path of a file that has a reader is neither a slash nor a dot nor
blank, and the id of the document is not blank (`documentId_not_blank`).
-/

set_option autoImplicit false

namespace BooleanRetrieval

open Text (isBlank isBlankText lower lowerRest lowerChar finalSigma)

/-! ## The last character in lower case -/

/-- The lower case of a text with one more character ends in that of the character, or in a final sigma. -/
theorem lowerRest_append_singleton (casedBefore : Bool) (done cs : List Char) (c : Char) :
    ∃ front image, lowerRest casedBefore done (cs ++ [c]) = front ++ image ∧
      (image = lowerChar c ∨ image = [finalSigma]) := by
  induction cs generalizing casedBefore done with
  | nil =>
    rw [List.nil_append]
    unfold lowerRest
    dsimp only
    unfold lowerRest
    rw [List.reverse_append, List.reverse_reverse]
    refine ⟨done.reverse, _, rfl, ?_⟩
    split
    · exact Or.inr rfl
    · exact Or.inl rfl
  | cons b cs ih =>
    rw [List.cons_append]
    unfold lowerRest
    exact ih _ _

/-- A blank character is its own lower case. -/
theorem lowerChar_of_isBlank {c : Char} (h : isBlank c = true) : lowerChar c = [c] :=
  Text.of_isBlank (P := fun c => lowerChar c = [c]) (by decide +kernel) h

/-- The last characters of the endings that the usual readers handle. -/
def lastLetters : List Char :=
  ['t', 'v', '2', 'p', 'l', 'm']

/-- A path that one of the usual readers handles ends, in lower case, in one of the last letters. -/
theorem exists_last_of_forFile {path : String} {reader : Reader}
    (h : Reader.forFile Reader.defaults path = some reader) :
    ∃ front, ∃ c ∈ lastLetters, lower path.toList = front ++ [c] := by
  have hsuffixes : ∀ r ∈ Reader.defaults, ∀ suffix ∈ r.suffixes,
      ∃ front, ∃ c ∈ lastLetters, suffix.toList = front ++ [c] := by
    simp only [Reader.defaults, Reader.text, Reader.csv, Reader.fictionBook, Reader.hypertext,
      List.forall_mem_cons, List.not_mem_nil, false_imp_iff, implies_true, and_true]
    refine ⟨⟨".tx".toList, 't', by decide, rfl⟩, ⟨".cs".toList, 'v', by decide, rfl⟩,
      ⟨⟨".fb".toList, '2', by decide, rfl⟩, ⟨".fb2.zi".toList, 'p', by decide, rfl⟩⟩,
      ⟨".htm".toList, 'l', by decide, rfl⟩, ⟨".ht".toList, 'm', by decide, rfl⟩⟩
  unfold Reader.forFile at h
  have hhandles := List.find?_some h
  unfold Reader.handles at hhandles
  obtain ⟨suffix, hsuffix, hends⟩ := List.any_eq_true.mp hhandles
  obtain ⟨front, c, hc, hfront⟩ := hsuffixes reader (List.mem_of_find?_eq_some h) suffix hsuffix
  obtain ⟨before, hbefore⟩ := List.isSuffixOf_iff_suffix.mp hends
  refine ⟨before ++ front, c, hc, ?_⟩
  rw [List.append_assoc, ← hfront, hbefore]
  unfold Text.toLower
  rw [String.toList_ofList]

/-- The path of a file with a usual reader ends in a character that is neither a slash nor a dot nor
blank. -/
theorem exists_getLast_of_forFile {path : String} {reader : Reader}
    (h : Reader.forFile Reader.defaults path = some reader) :
    ∃ front c, path.toList = front ++ [c] ∧ c ≠ '/' ∧ c ≠ '.' ∧ isBlank c = false := by
  obtain ⟨before, last, hlast, hlower⟩ := exists_last_of_forFile h
  rcases List.eq_nil_or_concat path.toList with hnil | ⟨front, c, hpath⟩
  · rw [hnil] at hlower
    exact absurd hlower.symm (List.append_ne_nil_of_right_ne_nil _ (List.cons_ne_nil _ _))
  · rw [List.concat_eq_append] at hpath
    obtain ⟨front', image, hrest, himage⟩ := lowerRest_append_singleton false [] front c
    have hends : front' ++ image = before ++ [last] := by
      rw [← hrest, ← hlower, hpath]
      rfl
    have himage' : image ≠ [finalSigma] := by
      rintro rfl
      have hsigma := (List.append_inj' hends rfl).2
      rw [← List.singleton_inj.mp hsigma] at hlast
      revert hlast
      decide
    -- a last character that is its own lower case is the last letter of a suffix
    have hself : lowerChar c = [c] → c ∈ lastLetters := by
      intro hc
      rw [himage.resolve_right himage', hc] at hends
      rw [List.singleton_inj.mp (List.append_inj' hends rfl).2]
      exact hlast
    refine ⟨front, c, hpath, ?_, ?_, ?_⟩
    · rintro rfl
      exact absurd (hself (by decide +kernel)) (by decide)
    · rintro rfl
      exact absurd (hself (by decide +kernel)) (by decide)
    · apply Bool.eq_false_iff.mpr
      intro hblank
      have hvisible : (lastLetters.all fun x => !isBlank x) = true := by decide
      have hmem : c ∈ lastLetters := hself (lowerChar_of_isBlank hblank)
      have hc := List.all_eq_true.mp hvisible c hmem
      rw [hblank] at hc
      cases hc

/-! ## Document ids -/

/-- Splitting a text with one more character that does not separate keeps this character at the end. -/
theorem splitOn_append_singleton {sep c : Char} (h : c ≠ sep) (cs : List Char) :
    ∃ front last, (cs ++ [c]).splitOn sep = front ++ [last ++ [c]] := by
  induction cs with
  | nil =>
    refine ⟨[], [], ?_⟩
    rw [List.nil_append, List.splitOn_cons_eq_if_modifyHead, List.splitOn_nil]
    simp [h]
  | cons b cs ih =>
    obtain ⟨front, last, hsplit⟩ := ih
    rw [List.cons_append, List.splitOn_cons_eq_if_modifyHead, hsplit]
    split
    · exact ⟨[] :: front, last, rfl⟩
    · cases front with
      | nil => exact ⟨[], b :: last, rfl⟩
      | cons part front => exact ⟨(b :: part) :: front, last, rfl⟩

/-- The id of a document ends in the last character of its path, unless that is a slash or a dot. -/
theorem documentId_of_getLast {path : String} {front : List Char} {c : Char}
    (hpath : path.toList = front ++ [c]) (hslash : c ≠ '/') (hdot : c ≠ '.') :
    ∃ last, (documentId path).toList = last ++ [c] := by
  obtain ⟨before, last, hsplit⟩ := splitOn_append_singleton hslash front
  have hkept : (String.ofList (last ++ [c]) ≠ "" && String.ofList (last ++ [c]) ≠ ".") = true := by
    simp only [Bool.and_eq_true, decide_eq_true_eq]
    constructor
    · intro hempty
      have hlist : last ++ [c] = [] := by
        rw [← String.toList_ofList (l := last ++ [c]), hempty]
        rfl
      exact List.append_ne_nil_of_right_ne_nil _ (List.cons_ne_nil _ _) hlist
    · intro hsingle
      have hlist : last ++ [c] = [] ++ ['.'] := by
        rw [← String.toList_ofList (l := last ++ [c]), hsingle]
        rfl
      exact hdot (List.singleton_inj.mp (List.append_inj' hlist rfl).2)
  have hfilter : [String.ofList (last ++ [c])].filter (fun part => part ≠ "" && part ≠ ".") =
      [String.ofList (last ++ [c])] := List.filter_cons_of_pos hkept
  refine ⟨last, ?_⟩
  unfold documentId Path.ofString Path.name Path.partsOf
  dsimp only
  rw [hpath, hsplit, List.map_append, List.map_singleton, List.filter_append, hfilter,
    List.getLast?_concat, Option.getD_some, String.toList_ofList]

/-- The document of a file with a usual reader has an id that is not blank. -/
theorem documentId_not_blank {path : String} {reader : Reader}
    (h : Reader.forFile Reader.defaults path = some reader) :
    isBlankText (documentId path) = false := by
  obtain ⟨front, c, hpath, hslash, hdot, hvisible⟩ := exists_getLast_of_forFile h
  obtain ⟨last, hlast⟩ := documentId_of_getLast hpath hslash hdot
  unfold isBlankText Text.allBlank
  rw [hlast, List.all_append, List.all_cons, hvisible, Bool.false_and, Bool.and_false]

end BooleanRetrieval
