import BooleanRetrieval.Proofs.Saved.LinesRoundTrip

/-!
# Where the lines of a file stand

A line that is neither blank nor a header (`¬ Idle`) is an entry of the last header above it. Whether a
line stands below a term (`Below`) or below no header at all (`Headless`) is said here of the lines
above it, while the reader goes from line to line and keeps the term in its hand (`Remembered`). An
account of a file (`Accounted`) tells of every line what it comes to, given the lines above; the entries
that are read from a file make one (`exists_accounted_entriesFrom`).
-/

set_option autoImplicit false

namespace BooleanRetrieval.Sections

open Text (allBlank)

/-- The header of a term. -/
def header (t : List Char) : List Char :=
  '[' :: (t ++ [']'])

/-- A line that files nothing by itself: it is blank, or it is a header. -/
def Idle (line : List Char) : Prop :=
  allBlank line = true ∨ ∃ t, line = header t

/-- No line is a header. -/
def Headless (lines : List (List Char)) : Prop :=
  ∀ line ∈ lines, ∀ t, line ≠ header t

/-- The last header among lines is that of a term. -/
def Below (lines : List (List Char)) (t : List Char) : Prop :=
  ∃ before between, lines = before ++ header t :: between ∧ Headless between

/-- What a reader remembers behind lines: the term of their last header, if there is one. -/
def Remembered (lines : List (List Char)) : Option String → Prop
  | none => Headless lines
  | some t => Below lines t.toList

/-! ## Headers -/

/-- A line has the term of a header when it is that header. -/
theorem headerTerm?_eq_some_iff {line t : List Char} :
    headerTerm? line = some t ↔ line = header t := by
  unfold headerTerm? header
  constructor
  · intro h
    split at h
    · next rest =>
      split at h
      · next hlast =>
        obtain ⟨front, rfl⟩ := List.getLast?_eq_some_iff.mp hlast
        have hfront : front = t := by simpa using h
        rw [hfront]
      · cases h
    · cases h
  · rintro rfl
    simp

/-- A line has no such term when it is no header. -/
theorem headerTerm?_eq_none_iff {line : List Char} :
    headerTerm? line = none ↔ ∀ t, line ≠ header t := by
  rw [Option.eq_none_iff_forall_ne_some]
  exact forall_congr' fun t => not_congr headerTerm?_eq_some_iff

/-- Lines without a header have no terms. -/
theorem Headless.filterMap_eq_nil {lines : List (List Char)} (h : Headless lines) :
    lines.filterMap headerTerm? = [] := by
  apply List.filterMap_eq_nil_iff.mpr
  intro line hline
  exact headerTerm?_eq_none_iff.mpr (h line hline)

/-- The last term of lines below a header is its own. -/
theorem Below.getLast?_filterMap {lines : List (List Char)} {t : List Char} (h : Below lines t) :
    (lines.filterMap headerTerm?).getLast? = some t := by
  obtain ⟨before, between, rfl, hbetween⟩ := h
  have hheader : headerTerm? (header t) = some t := headerTerm?_eq_some_iff.mpr rfl
  rw [List.filterMap_append, List.filterMap_cons_some hheader, hbetween.filterMap_eq_nil]
  simp

/-- A line stands below one term at most. -/
theorem Below.unique {lines : List (List Char)} {t u : List Char} (ht : Below lines t)
    (hu : Below lines u) : t = u := by
  have hlast := ht.getLast?_filterMap
  rw [hu.getLast?_filterMap] at hlast
  exact (Option.some.inj hlast).symm

/-- Lines below a header are not without one. -/
theorem Below.not_headless {lines : List (List Char)} {t : List Char} (h : Below lines t) :
    ¬ Headless lines := by
  intro hheadless
  have hlast := h.getLast?_filterMap
  rw [hheadless.filterMap_eq_nil] at hlast
  cases hlast

/-- Further lines do not take a header away. -/
theorem not_headless_append {above : List (List Char)} (h : ¬ Headless above)
    (lines : List (List Char)) : ¬ Headless (above ++ lines) :=
  fun hheadless => h fun line hline => hheadless line (List.mem_append_left _ hline)

/-! ## What a reader remembers -/

/-- Behind no line nothing is remembered. -/
theorem remembered_nil : Remembered [] none :=
  fun _ hline => absurd hline List.not_mem_nil

/-- A header is remembered behind itself. -/
theorem remembered_header (lines : List (List Char)) (t : List Char) :
    Remembered (lines ++ [header t]) (some (.ofList t)) := by
  refine ⟨lines, [], ?_, fun line hline => absurd hline List.not_mem_nil⟩
  rw [String.toList_ofList]

/-- A line that is no header changes nothing of what is remembered. -/
theorem Remembered.concat {lines : List (List Char)} {term : Option String}
    (h : Remembered lines term) {line : List Char} (hline : ∀ t, line ≠ header t) :
    Remembered (lines ++ [line]) term := by
  have hextend : ∀ {lines : List (List Char)}, Headless lines → Headless (lines ++ [line]) := by
    intro lines hlines l hl
    rcases List.mem_append.mp hl with hl | hl
    · exact hlines l hl
    · rw [List.mem_singleton.mp hl]
      exact hline
  cases term with
  | none => exact hextend h
  | some t =>
    obtain ⟨before, between, rfl, hbetween⟩ := h
    refine ⟨before, between ++ [line], ?_, hextend hbetween⟩
    rw [List.append_assoc, List.cons_append]

/-! ## Accounts -/

/-- An account of lines that stand below other lines: of each it tells one thing that the line comes to,
by the lines above it. -/
inductive Accounted {α : Type} (ComesTo : List (List Char) → List Char → α → Prop) :
    List (List Char) → List (List Char) → List α → Prop
  | nil (above : List (List Char)) : Accounted ComesTo above [] []
  | cons {above rest : List (List Char)} {line : List Char} {fate : α} {fates : List α} :
    ComesTo above line fate → Accounted ComesTo (above ++ [line]) rest fates →
      Accounted ComesTo above (line :: rest) (fate :: fates)

namespace Accounted

variable {α : Type} {R : List (List Char) → List Char → α → Prop} {above lines : List (List Char)}

/-- What an account tells comes of one of the lines. -/
theorem exists_of_mem {as : List α} (h : Accounted R above lines as) {a : α} (ha : a ∈ as) :
    ∃ above line, line ∈ lines ∧ R above line a := by
  induction h with
  | nil above => exact absurd ha List.not_mem_nil
  | @cons above rest line b as hb _ ih =>
    rcases List.mem_cons.mp ha with rfl | ha
    · exact ⟨above, line, List.mem_cons_self, hb⟩
    · obtain ⟨above', line', hline, h⟩ := ih ha
      exact ⟨above', line', List.mem_cons_of_mem _ hline, h⟩

/-- If a line can come to one thing only, lines have one account only. -/
theorem unique {as bs : List α} (has : Accounted R above lines as) (hbs : Accounted R above lines bs)
    (hR : ∀ above line a b, R above line a → R above line b → a = b) : as = bs := by
  induction has generalizing bs with
  | nil above =>
    cases hbs
    rfl
  | cons ha _ ih =>
    cases hbs with
    | cons hb hbs => rw [hR _ _ _ _ ha hb, ih hbs]

/-- The numbers that an account gives to some of its lines increase if each is the number of its line,
counted from one. -/
theorem pairwise_number {as : List α} (h : Accounted R above lines as) {number? : α → Option Nat}
    (hR : ∀ above line a n, R above line a → number? a = some n → n = above.length + 1) :
    (as.filterMap number?).Pairwise (· < ·) ∧ ∀ n ∈ as.filterMap number?, above.length < n := by
  induction h with
  | nil above => simp
  | @cons above rest line a as ha _ ih =>
    obtain ⟨hincreasing, hbehind⟩ := ih
    rw [List.length_append, List.length_singleton] at hbehind
    cases hnumber : number? a with
    | none =>
      rw [List.filterMap_cons_none hnumber]
      exact ⟨hincreasing, fun n hn => Nat.lt_of_succ_lt (hbehind n hn)⟩
    | some n =>
      have hn := hR above line a n ha hnumber
      rw [List.filterMap_cons_some hnumber, List.pairwise_cons]
      refine ⟨⟨fun m hm => ?_, hincreasing⟩, ?_⟩
      · have hm := hbehind m hm
        omega
      · intro m hm
        rcases List.mem_cons.mp hm with rfl | hm
        · omega
        · exact Nat.lt_of_succ_lt (hbehind m hm)

end Accounted

/-! ## The entries of a file -/

/-- The entry that a line makes, if it makes one. -/
inductive MakesEntry (above : List (List Char)) (line : List Char) : Option Entry → Prop
  | idle (h : Idle line) : MakesEntry above line none
  | entry {term : Option String} (h : ¬ Idle line) (hterm : Remembered above term) :
    MakesEntry above line (some ⟨term, line, above.length + 1⟩)

/-- Reading lines one after the other finds the entry of each. -/
theorem exists_accounted_entriesFrom (lines : List (List Char)) {above : List (List Char)}
    {term : Option String} (hterm : Remembered above term) :
    ∃ entries, Accounted MakesEntry above lines entries ∧
      entriesFrom term (above.length + 1) lines = entries.filterMap id := by
  induction lines generalizing above term with
  | nil => exact ⟨[], .nil above, rfl⟩
  | cons line lines ih =>
    have hlength : (above ++ [line]).length = above.length + 1 := by simp
    by_cases hheader : ∃ t, line = header t
    · obtain ⟨t, rfl⟩ := hheader
      obtain ⟨entries, haccount, hread⟩ := ih (remembered_header above t)
      refine ⟨none :: entries, .cons (.idle (.inr ⟨t, rfl⟩)) haccount, ?_⟩
      rw [hlength] at hread
      rw [entriesFrom, header, InvertedIndex.lineKind_header]
      exact hread
    · have hplain : ∀ t, line ≠ header t := fun t ht => hheader ⟨t, ht⟩
      have hnone := headerTerm?_eq_none_iff.mpr hplain
      obtain ⟨entries, haccount, hread⟩ := ih (hterm.concat hplain)
      rw [hlength] at hread
      by_cases hblank : allBlank line = true
      · have hkind : lineKind line = .blank := if_pos hblank
        refine ⟨none :: entries, .cons (.idle (.inl hblank)) haccount, ?_⟩
        rw [entriesFrom, hkind]
        exact hread
      · have hkind : lineKind line = .entry := by
          unfold lineKind
          rw [if_neg hblank, hnone]
        have hidle : ¬ Idle line := not_or.mpr ⟨hblank, hheader⟩
        refine ⟨some ⟨term, line, above.length + 1⟩ :: entries, .cons (.entry hidle hterm) haccount, ?_⟩
        rw [entriesFrom, hkind]
        exact congrArg (List.cons _) hread

end BooleanRetrieval.Sections
