import BooleanRetrieval.Proofs.Text.Recomposing
import BooleanRetrieval.Proofs.Text.WordRuns

/-!
# Words are found again

The words of a text are the runs of word characters of its composed form (`runs_wordRuns`): none of these
characters is lost, and two neighbours are parted exactly where one of them is not a word character.

Looking for words in a word finds the word itself (`wordRuns_of_mem`), although a word begins with a combining
mark where the character in front of the mark belongs to no word. For a part of a composed text is composed if
it ends in front of a starter, wherever it begins (`composed_of_suffix`, `composed_of_prefix`), and a word ends
in front of a starter because every mark is a word character (`isWordCharacter_of_mark`). With spaces between
them, all words of a text are found again (`wordRuns_intercalate`).
-/

set_option autoImplicit false

namespace BooleanRetrieval.Text

/-! ## Runs -/

/-- The longest stretches of characters with a property in a text, in their order: what is between them
has no such character, and such a character does not follow a stretch. -/
inductive Runs (p : Char → Bool) : List (List Char) → List Char → Prop
  | nil : Runs p [] []
  | skip {c : Char} {runs : List (List Char)} {cs : List Char} (hc : p c = false) (h : Runs p runs cs) :
    Runs p runs (c :: cs)
  | run {run rest : List Char} {runs : List (List Char)} (hne : run ≠ []) (hrun : ∀ c ∈ run, p c = true)
    (hend : ∀ c ∈ rest.head?, p c = false) (h : Runs p runs rest) : Runs p (run :: runs) (run ++ rest)

namespace Runs

variable {p : Char → Bool} {runs : List (List Char)} {cs : List Char}

/-- A run is never empty, and its characters all have the property. -/
theorem of_mem (h : Runs p runs cs) {run : List Char} (hmem : run ∈ runs) :
    run ≠ [] ∧ ∀ c ∈ run, p c = true := by
  induction h with
  | nil => exact absurd hmem List.not_mem_nil
  | skip hc h ih => exact ih hmem
  | run hne hrun hend h ih =>
    rcases List.mem_cons.mp hmem with rfl | hmem
    · exact ⟨hne, hrun⟩
    · exact ih hmem

/-- The runs hold all characters with the property and no others. -/
theorem flatten_eq (h : Runs p runs cs) : runs.flatten = cs.filter p := by
  induction h with
  | nil => rfl
  | skip hc h ih => rw [List.filter_cons_of_neg (by simp [hc]), ih]
  | run hne hrun hend h ih =>
    rw [List.flatten_cons, ih, List.filter_append, List.filter_eq_self.mpr hrun]

/-- Neighbours in one of several runs: `before` are the characters of the runs in front of them. -/
def Together (runs : List (List Char)) (before : List Char) (a b : Char) : Prop :=
  ∃ earlier front back later, runs = earlier ++ (front ++ a :: b :: back) :: later ∧
    earlier.flatten ++ front = before

/-- Characters that stand together in the tail of the runs stand together in all of them. -/
theorem Together.of_tail {before run : List Char} {a b : Char} (h : Together runs before a b) :
    Together (run :: runs) (run ++ before) a b := by
  obtain ⟨earlier, front, back, later, rfl, rfl⟩ := h
  exact ⟨run :: earlier, front, back, later, rfl, by simp⟩

/-- Neighbours in a text are in one run exactly if both have the property. -/
theorem together_iff {before after : List Char} {a b : Char}
    (h : Runs p runs (before ++ a :: b :: after)) :
    Together runs (before.filter p) a b ↔ p a = true ∧ p b = true := by
  constructor
  · rintro ⟨earlier, front, back, later, rfl, -⟩
    have hmem : front ++ a :: b :: back ∈ earlier ++ (front ++ a :: b :: back) :: later := by simp
    obtain ⟨-, hrun⟩ := h.of_mem hmem
    exact ⟨hrun a (by simp), hrun b (by simp)⟩
  · rintro ⟨ha, hb⟩
    generalize hcs : before ++ a :: b :: after = cs at h
    induction h generalizing before with
    | nil => exact absurd hcs (by simp)
    | @skip c runs cs hc h ih =>
      cases before with
      | nil =>
        obtain ⟨rfl, -⟩ := List.cons.inj hcs
        exact absurd ha (by simp [hc])
      | cons d before =>
        obtain ⟨rfl, htail⟩ := List.cons.inj hcs
        rw [List.filter_cons_of_neg (by simp [hc])]
        exact ih htail
    | @run run rest runs hne hrun hend h ih =>
      rcases List.append_eq_append_iff.mp hcs with ⟨back, rfl, hback⟩ | ⟨front, rfl, hfront⟩
      · rw [List.filter_eq_self.mpr fun c hc => hrun c (List.mem_append_left _ hc)]
        -- the run does not end in front of the second of the two
        rcases back with _ | ⟨x, _ | ⟨y, back⟩⟩
        · exact absurd ha (by simp [hend a (by simp [← show _ = rest from hback])])
        · obtain ⟨rfl, hrest⟩ := List.cons.inj hback
          exact absurd hb (by simp [hend b (by simp [← show _ = rest from hrest])])
        · obtain ⟨rfl, htail⟩ := List.cons.inj hback
          obtain ⟨rfl, -⟩ := List.cons.inj htail
          exact ⟨[], before, back, runs, rfl, rfl⟩
      · rw [List.filter_append, List.filter_eq_self.mpr hrun]
        exact (ih hfront.symm).of_tail

/-- Collecting the runs of a text goes on with the run and the runs that are there. -/
theorem of_collectRuns (run : List Char) (done : List (List Char)) (cs : List Char)
    (hrun : ∀ c ∈ run, p c = true) :
    ∃ found, collectRuns p run done cs = done.reverse ++ found ∧ Runs p found (run.reverse ++ cs) := by
  have hrev {run : List Char} (hrun : ∀ c ∈ run, p c = true) : ∀ c ∈ run.reverse, p c = true :=
    fun c hc => hrun c (List.mem_reverse.mp hc)
  -- a character with the property makes the run longer, and any other one ends it
  induction cs generalizing run done with
  | nil =>
    rw [collectRuns]
    cases run with
    | nil => exact ⟨[], by simp, .nil⟩
    | cons c run =>
      exact ⟨[(c :: run).reverse], by simp, .run (by simp) (hrev hrun) (by simp) .nil⟩
  | cons c cs ih =>
    rw [collectRuns]
    cases hc : p c with
    | true =>
      obtain ⟨found, hfound, hruns⟩ := ih (c :: run) done (List.forall_mem_cons.mpr ⟨hc, hrun⟩)
      refine ⟨found, hfound, ?_⟩
      rwa [List.reverse_cons, List.append_assoc] at hruns
    | false =>
      have hnone : ∀ d ∈ ([] : List Char), p d = true := fun _ h => absurd h List.not_mem_nil
      rw [if_neg Bool.false_ne_true]
      cases run with
      | nil =>
        obtain ⟨found, hfound, hruns⟩ := ih [] done hnone
        exact ⟨found, hfound, .skip hc hruns⟩
      | cons d run =>
        obtain ⟨found, hfound, hruns⟩ := ih [] ((d :: run).reverse :: done) hnone
        refine ⟨(d :: run).reverse :: found, ?_, ?_⟩
        · rw [if_neg (by simp), hfound, List.reverse_cons, List.append_assoc, List.singleton_append]
        · refine .run (by simp) (hrev hrun) ?_ (.skip hc hruns)
          rintro _ ⟨⟩
          exact hc

end Runs

/-- The words of a text are the runs of word characters of its composed form. -/
theorem runs_wordRuns (cs : List Char) : Runs isWordCharacter (wordRuns cs) (composed cs) := by
  obtain ⟨found, hfound, hruns⟩ :=
    Runs.of_collectRuns (p := isWordCharacter) [] [] (composed cs) (fun _ h => absurd h List.not_mem_nil)
  unfold wordRuns
  rw [hfound]
  exact hruns

/-! ## Marks -/

/-- Every character of a combining class other than zero is listed as a mark. -/
theorem combiningRows_marks :
    ∀ row ∈ combiningRows, ∀ i < row.2.1 - row.1 + 1, (markTree.search (row.1 + i)).isSome = true := by
  decide +kernel

/-- A combining mark is a word character. -/
theorem isWordCharacter_of_mark {c : Char} (h : 0 < combiningClass c) : isWordCharacter c = true := by
  have hmark : isMark c = true := by
    unfold combiningClass at h
    cases hfind : combiningTree.find? c.toNat with
    | none => simp [hfind] at h
    | some combining =>
      obtain ⟨first, last, hrow, hfirst, hlast⟩ := RangeTree.exists_row_of_find?_ofRows hfind
      have hlisted := combiningRows_marks _ hrow (c.toNat - first) (by dsimp only; omega)
      rw [Nat.add_sub_cancel' hfirst] at hlisted
      unfold isMark RangeTree.contains
      rwa [RangeTree.find?_eq_search]
  simp [isWordCharacter, hmark]

/-- What does not go on with a word begins anew. -/
theorem beginsAnew_of_not_word {cs : List Char} (h : ∀ c ∈ cs.head?, isWordCharacter c = false) :
    BeginsAnew cs := by
  intro c hc
  by_contra hmark
  have hword := isWordCharacter_of_mark (Nat.pos_of_ne_zero hmark)
  rw [h c hc] at hword
  cases hword

/-! ## Words of words -/

/-- The end of a composed text is composed. -/
theorem composed_of_suffix {xs ys : List Char} (h : composed (xs ++ ys) = xs ++ ys) :
    composed ys = ys := by
  induction xs with
  | nil => exact h
  | cons x xs ih => exact ih (composed_tail h)

/-- The beginning of a composed text is composed when what follows begins anew. -/
theorem composed_of_prefix {xs ys : List Char} (hys : BeginsAnew ys)
    (h : composed (xs ++ ys) = xs ++ ys) : composed xs = xs := by
  cases ys with
  | nil => rwa [List.append_nil] at h
  | cons y ys => exact (composed_cut (hys y rfl) h).1

/-- The words of a composed text are composed. -/
theorem Runs.composed_of_mem {runs : List (List Char)} {cs : List Char}
    (h : Runs isWordCharacter runs cs) (hcs : composed cs = cs) {run : List Char} (hmem : run ∈ runs) :
    composed run = run := by
  induction h with
  | nil => exact absurd hmem List.not_mem_nil
  | skip hc h ih => exact ih (composed_tail hcs) hmem
  | run hne hrun hend h ih =>
    rcases List.mem_cons.mp hmem with rfl | hmem
    · exact composed_of_prefix (beginsAnew_of_not_word hend) hcs
    · exact ih (composed_of_suffix hcs) hmem

/-- A word of a text is a text of one word. -/
theorem wordRuns_of_mem {cs run : List Char} (h : run ∈ wordRuns cs) : wordRuns run = [run] := by
  have hruns := runs_wordRuns cs
  obtain ⟨hne, hword⟩ := hruns.of_mem h
  rw [wordRuns_eq, hruns.composed_of_mem (composed_composed cs) h,
    List.splitOnP_eq_singleton fun c hc => by simp [hword c hc]]
  simp [hne]

/-- Texts of one word each, with spaces between them, are the words of the whole. -/
theorem wordRuns_intercalate {runs : List (List Char)} (h : ∀ run ∈ runs, wordRuns run = [run]) :
    wordRuns ([' '].intercalate runs) = runs := by
  induction runs with
  | nil => exact wordRuns_nil
  | cons run runs ih =>
    obtain ⟨hrun, hruns⟩ := List.forall_mem_cons.mp h
    cases runs with
    | nil => rw [List.intercalate_singleton, hrun]
    | cons next runs =>
      rw [List.intercalate_cons_cons, List.append_assoc, List.singleton_append,
        wordRuns_append_cons wordBreak_space, hrun, ih hruns, List.singleton_append]

/-- The words of a text are the runs of word characters of its composed form. -/
theorem map_toList_words (text : String) : (words text).map String.toList = wordRuns text.toList := by
  unfold words
  rw [List.map_map]
  exact (List.map_congr_left fun run _ => String.toList_ofList).trans (List.map_id _)

/-- The words of a text are not empty and have word characters only. They hold all word characters of the
composed text, and two neighbours of it are in one word exactly if both are word characters. The words with
single spaces between them have the same words. -/
theorem words_are_found_again (text : String) :
    (∀ word ∈ words text, word ≠ "" ∧ ∀ c ∈ word.toList, isWordCharacter c = true) ∧
      ((words text).map String.toList).flatten = (composed text.toList).filter isWordCharacter ∧
      (∀ before a b after, composed text.toList = before ++ a :: b :: after →
        (Runs.Together ((words text).map String.toList) (before.filter isWordCharacter) a b ↔
          isWordCharacter a = true ∧ isWordCharacter b = true)) ∧
      words (" ".intercalate (words text)) = words text := by
  have hruns := runs_wordRuns text.toList
  rw [map_toList_words]
  refine ⟨?_, hruns.flatten_eq, ?_, ?_⟩
  · intro word hword
    obtain ⟨run, hrun, rfl⟩ := List.mem_map.mp hword
    obtain ⟨hne, hrun⟩ := hruns.of_mem hrun
    rw [String.toList_ofList]
    exact ⟨fun hempty => hne (by simpa using congrArg String.toList hempty), hrun⟩
  · intro before a b after hcomposed
    rw [hcomposed] at hruns
    exact hruns.together_iff
  · have hwords : wordRuns (" ".intercalate (words text)).toList = wordRuns text.toList := by
      rw [String.toList_intercalate, map_toList_words]
      exact wordRuns_intercalate fun run hrun => wordRuns_of_mem hrun
    exact congrArg (List.map String.ofList) hwords

/-- A word that begins with a combining mark is found again behind a space. -/
theorem words_are_found_again_leading_mark :
    composed "b 1\u0301a".toList = ['b', ' ', '1', '\u0301', 'a'] ∧
      words "b 1\u0301a" = ["b", "\u0301a"] ∧ Runs.Together [['b'], ['\u0301', 'a']] ['b'] '\u0301' 'a' ∧
      words "b \u0301a" = ["b", "\u0301a"] := by
  have hcomposed : composed "b 1\u0301a".toList = ['b', ' ', '1', '\u0301', 'a'] := by decide +kernel
  have hwords : words "b 1\u0301a" = ["b", "\u0301a"] := by decide +kernel
  have hbefore : ['b', ' ', '1'].filter isWordCharacter = ['b'] := by decide +kernel
  have hpair : isWordCharacter '\u0301' = true ∧ isWordCharacter 'a' = true := by decide +kernel
  obtain ⟨-, -, htogether, hagain⟩ := words_are_found_again "b 1\u0301a"
  rw [hwords] at htogether hagain
  have hmark := (htogether ['b', ' ', '1'] '\u0301' 'a' [] hcomposed).mpr hpair
  rw [hbefore] at hmark
  exact ⟨hcomposed, hwords, hmark, hagain⟩

end BooleanRetrieval.Text
