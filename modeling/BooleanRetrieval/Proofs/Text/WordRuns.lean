import BooleanRetrieval.Document.Reader
import BooleanRetrieval.Proofs.Text.Composing
import BooleanRetrieval.Proofs.Text.Lines
import Mathlib.Data.List.Basic

/-!
# The words of a text

Collecting the runs of a text is splitting it at all other characters and dropping the empty pieces
(`collectRuns_eq`). So a word is not empty and has word characters only, and a text has the words of its
two parts where it is cut at a character that belongs to no word. Line breaks are such characters, and
nothing is composed over them: reading a text line by line finds the words of the whole text
(`lineWords_eq_wordsOf`).
-/

set_option autoImplicit false

namespace BooleanRetrieval

namespace Text

/-! ## Runs -/

/-- Prepending nothing to the first piece changes nothing. -/
theorem modifyHead_nil_append (pieces : List (List Char)) :
    pieces.modifyHead (([] : List Char).reverse ++ ·) = pieces := by
  cases pieces <;> rfl

/-- The loop that collects runs returns what it has collected and the non-empty pieces of the rest, the open run
before the first of them. -/
theorem collectRuns_eq (p : Char → Bool) (run : List Char) (runs : List (List Char))
    (cs : List Char) :
    collectRuns p run runs cs = runs.reverse ++
      ((cs.splitOnP fun c => !p c).modifyHead (run.reverse ++ ·)).filter fun piece => !piece.isEmpty := by
  induction cs generalizing run runs with
  | nil =>
    rw [List.splitOnP_nil, collectRuns]
    cases run with
    | nil => simp
    | cons c run => simp
  | cons c cs ih =>
    rw [collectRuns, List.splitOnP_cons_eq_if_modifyHead]
    cases hc : p c with
    | true =>
      have hpush : (fun piece : List Char => run.reverse ++ c :: piece) =
          fun piece => (c :: run).reverse ++ piece := by
        funext piece
        simp
      rw [if_pos rfl, ih]
      simp [Function.comp_def, hpush]
    | false =>
      rw [if_neg Bool.false_ne_true, ih, ih, modifyHead_nil_append]
      cases run with
      | nil => simp
      | cons d run => simp

/-- No piece of a text that is split has a character that it was split at. -/
theorem of_mem_splitOnP {p : Char → Bool} {cs piece : List Char} (h : piece ∈ cs.splitOnP p) :
    ∀ c ∈ piece, p c = false := by
  induction cs generalizing piece with
  | nil =>
    rw [List.splitOnP_nil] at h
    obtain rfl := List.mem_singleton.mp h
    exact fun c hc => absurd hc List.not_mem_nil
  | cons c cs ih =>
    rw [List.splitOnP_cons_eq_if_modifyHead] at h
    split at h
    · rcases List.mem_cons.mp h with rfl | h
      · exact fun c hc => absurd hc List.not_mem_nil
      · exact ih h
    · next hc =>
      obtain ⟨first, rest, hsplit⟩ := List.exists_cons_of_ne_nil (List.splitOnP_ne_nil p cs)
      rw [hsplit, List.modifyHead_cons] at h
      rcases List.mem_cons.mp h with rfl | h
      · have hfirst : ∀ c ∈ first, p c = false := ih (by rw [hsplit]; exact List.mem_cons_self)
        exact List.forall_mem_cons.mpr ⟨Bool.eq_false_iff.mpr hc, hfirst⟩
      · exact ih (by rw [hsplit]; exact List.mem_cons_of_mem _ h)

/-- The words are the non-empty pieces of the composed text between characters of no word. -/
theorem wordRuns_eq (cs : List Char) :
    wordRuns cs = ((composed cs).splitOnP fun c => !isWordCharacter c).filter
      fun piece => !piece.isEmpty := by
  unfold wordRuns
  rw [collectRuns_eq, modifyHead_nil_append]
  rfl

/-- The empty text has no words. -/
theorem wordRuns_nil : wordRuns [] = [] := by
  rw [wordRuns_eq]
  rfl

/-- A word is not empty and has word characters only. -/
theorem of_mem_wordRuns {cs run : List Char} (h : run ∈ wordRuns cs) :
    run ≠ [] ∧ ∀ c ∈ run, isWordCharacter c = true := by
  rw [wordRuns_eq] at h
  obtain ⟨hpiece, hne⟩ := List.mem_filter.mp h
  refine ⟨by simpa using hne, fun c hc => ?_⟩
  simpa using of_mem_splitOnP hpiece c hc

/-- A separator that belongs to no word. -/
structure WordBreak (b : Char) : Prop extends Separator b where
  isWordCharacter_eq : isWordCharacter b = false

/-- A word break cuts the words of a text. -/
theorem wordRuns_append_cons {b : Char} (hb : WordBreak b) (xs ys : List Char) :
    wordRuns (xs ++ b :: ys) = wordRuns xs ++ wordRuns ys := by
  rw [wordRuns_eq, wordRuns_eq, wordRuns_eq, composed_append_separator hb.toSeparator,
    List.splitOnP_append_cons _ _ (by rw [hb.isWordCharacter_eq]; rfl), List.filter_append]

/-! ## Lines -/

/-- The characters that break the lines of running text. -/
def textBreaks : List Char :=
  ['\n', '\r', '\x0b', '\x0c', '\x1c', '\x1d', '\x1e', '\u0085', '\u2028', '\u2029']

/-- The characters that break words are listed by name. -/
theorem mem_textBreaks {c : Char} (h : isTextBreak c = true) : c ∈ textBreaks := by
  have hrange : '\x1c' ≤ c → c ≤ '\x1e' → c = '\x1c' ∨ c = '\x1d' ∨ c = '\x1e' := by
    intro hlow hhigh
    have hnat : c.toNat = 0x1c ∨ c.toNat = 0x1d ∨ c.toNat = 0x1e := by
      have hlow' : 0x1c ≤ c.toNat := hlow
      have hhigh' : c.toNat ≤ 0x1e := hhigh
      omega
    rcases hnat with hnat | hnat | hnat
    · exact .inl (Char.toNat_inj.mp hnat)
    · exact .inr (.inl (Char.toNat_inj.mp hnat))
    · exact .inr (.inr (Char.toNat_inj.mp hnat))
  unfold isTextBreak isFileBreak at h
  simp only [Bool.or_eq_true, Bool.and_eq_true, decide_eq_true_eq] at h
  simp only [textBreaks, List.mem_cons, List.not_mem_nil, or_false]
  tauto

/-- Line breaks and spaces belong to no word, and nothing is composed over them. -/
theorem wordBreaks_tables :
    (' ' :: textBreaks).Forall fun b => isWordCharacter b = false ∧ decompose b = [b] ∧
      combiningClass b = 0 ∧ isHangulFirst b.toNat = false ∧ isHangulSecond b.toNat = false ∧
      ∀ row ∈ compositionRows, row.1 ≠ b.toNat ∧ ∀ pair ∈ row.2, pair.1 ≠ b.toNat := by
  decide +kernel

/-- A blank and the characters of the list break words. -/
theorem wordBreak_of_mem {b : Char} (h : b ∈ ' ' :: textBreaks) : WordBreak b := by
  obtain ⟨hword, hdecompose, hclass, hfirst, hsecond, hrows⟩ :=
    List.forall_iff_forall_mem.mp wordBreaks_tables b h
  refine ⟨⟨hdecompose, hclass, fun c => ?_, fun c => ?_⟩, hword⟩
  · cases hc : compose? b c with
    | none => rfl
    | some z =>
      cases composite_of_compose? hc with
      | hangul hn => simp [(isHangul_of_composeHangul? hn).1] at hfirst
      | listed hrow hpair => exact absurd rfl (hrows _ hrow).1
  · cases hc : compose? c b with
    | none => rfl
    | some z =>
      cases composite_of_compose? hc with
      | hangul hn => simp [(isHangul_of_composeHangul? hn).2] at hsecond
      | listed hrow hpair => exact absurd rfl ((hrows _ hrow).2 _ hpair)

/-- A character that breaks a text breaks words. -/
theorem wordBreak_of_isTextBreak {b : Char} (h : isTextBreak b = true) : WordBreak b :=
  wordBreak_of_mem (List.mem_cons_of_mem _ (mem_textBreaks h))

/-- A blank breaks words. -/
theorem wordBreak_space : WordBreak ' ' :=
  wordBreak_of_mem List.mem_cons_self

/-- If line breaks cut what `f` makes of a text, then this can be made line by line: of the lines and ends that
are cut so far, and of the rest of the text. -/
theorem flatMap_collectLines {α : Type} {f : List Char → List α} {e : Char → List α} (hnil : f [] = [])
    (hcut : ∀ {b : Char}, isTextBreak b = true → ∀ xs ys, f (xs ++ b :: ys) = f xs ++ (e b ++ f ys))
    (line : List Char) (lines : List Line) (cs : List Char) :
    ((collectLines isTextBreak line lines cs).flatMap fun l => f l.content ++ l.ending.flatMap e) =
      (lines.reverse.flatMap fun l => f l.content ++ l.ending.flatMap e) ++ f (line.reverse ++ cs) := by
  fun_induction collectLines isTextBreak line lines cs with
  | case1 line lines =>
    cases line with
    | nil => simp [hnil]
    | cons c line => simp
  | case2 line lines rest hbreak ih =>
    have hpair : f ('\n' :: rest) = f [] ++ (e '\n' ++ f rest) := hcut rfl [] rest
    rw [ih, hcut hbreak, hpair, hnil]
    simp
  | case3 line lines rest hbreak ih => exact absurd rfl hbreak
  | case4 line lines c rest hpair hbreak ih =>
    rw [ih, hcut hbreak]
    simp
  | case5 line lines c rest hpair hbreak ih =>
    rw [ih]
    simp

/-- Reading the words line by line reads the words of the whole text. -/
theorem flatMap_wordRuns_textLines (cs : List Char) :
    (textLines cs).flatMap wordRuns = wordRuns cs := by
  have hlines := flatMap_collectLines (e := fun _ => []) wordRuns_nil
    (fun hb => wordRuns_append_cons (wordBreak_of_isTextBreak hb)) [] [] cs
  have hnone (ending : List Char) : (ending.flatMap fun _ => ([] : List (List Char))) = [] :=
    List.flatMap_eq_nil_iff.mpr fun _ _ => rfl
  simp only [hnone, List.append_nil] at hlines
  unfold textLines
  rw [List.flatMap_map, hlines]
  rfl

end Text

/-- Reading a text line by line finds the words of the whole text. -/
theorem Reader.lineWords_eq_wordsOf (text : List Char) : lineWords text = wordsOf text := by
  unfold lineWords wordsOf
  rw [← List.map_flatMap, Text.flatMap_wordRuns_textLines]

end BooleanRetrieval
