import BooleanRetrieval.Proofs.Text.TermLetters
import BooleanRetrieval.Text.Term
import BooleanRetrieval.Text.WordCharacter
import Mathlib.Data.List.Chain

/-!
# Terms of folded terms

A folded term is put together from pieces, one for each letter of the word. When it is normalized and
folded again, the pieces are composed. A piece gives itself again, but for the small i with a dot above it,
which loses the dot, since a dot is not a letter; and pieces stay apart, but for neighbours that join to a
Hangul syllable. So a folded term is its own folded term exactly if it has no such dot and no such
neighbours (`respelled_eq_self_iff`).
-/

set_option autoImplicit false

namespace BooleanRetrieval.Text

/-- The folded term of a text that is not blank. -/
def respelled (cs : List Char) : List Char :=
  fold (lower ((composed cs).filter isLetter))

/-- Respelling composes, keeps the letters and replaces each by its image. -/
theorem respelled_eq (cs : List Char) :
    respelled cs = ((composed cs).filter isLetter).flatMap termImage :=
  fold_lower _

/-- Neighbours that do not join to a Hangul syllable. -/
def Apart (a b : Char) : Prop :=
  composeHangul? a.toNat b.toNat = none

instance : DecidableRel Apart :=
  fun a b => inferInstanceAs (Decidable (composeHangul? a.toNat b.toNat = none))

/-- A text without a dot above and without neighbours that join to a Hangul syllable. -/
structure StaysComposed (cs : List Char) : Prop where
  dot_notMem : '\u0307' ∉ cs
  apart : cs.IsChain Apart

/-- Two characters that do not stand apart are the two parts of a Hangul syllable. -/
theorem isHangul_of_not_apart {a b : Char} (h : ¬Apart a b) :
    ∃ n, composeHangul? a.toNat b.toNat = some n ∧ isHangulFirst a.toNat = true ∧
      isHangulSecond b.toNat = true := by
  obtain ⟨n, hn⟩ := Option.ne_none_iff_exists'.mp h
  exact ⟨n, hn, isHangul_of_composeHangul? hn⟩

/-! ## Expansions -/

/-- The small letter i with a dot above it, to which the dotted capital I is expanded. -/
def dottedI : List Char :=
  ['i', '\u0307']

/-- How expansions begin and what they are made of, how they end when they are composed, and what they
give again. -/
theorem foldExpansions_tables :
    ∀ row ∈ foldExpansions,
      (row.2.map Char.ofNat).head?.any isLetter = true ∧
      (((row.2.map Char.ofNat).flatMap decompose).head?.any fun y =>
        isLetter y && !isHangulSecond y.toNat) = true ∧
      ((row.2.map Char.ofNat).Forall fun c => isWordCharacter c = true ∧
        isHangulFirst c.toNat = false ∧ isHangulSecond c.toNat = false) ∧
      ((composed (row.2.map Char.ofNat)).getLast?.toList.Forall fun x =>
        isHangulFirst x.toNat = false) ∧
      (respelled (row.2.map Char.ofNat) = row.2.map Char.ofNat ∧ '\u0307' ∉ row.2.map Char.ofNat ∨
        row.2.map Char.ofNat = dottedI ∧ respelled (row.2.map Char.ofNat) = ['i']) := by
  decide +kernel

/-! ## Pieces -/

namespace Piece

variable {piece : List Char}

/-- A piece begins with a letter. Its decomposition does so too, and begins with a letter that joins what
is in front of it only if the piece does. -/
theorem exists_head (h : Piece piece) :
    ∃ b ∈ piece.head?, isLetter b = true ∧ ∃ y ∈ (piece.flatMap decompose).head?,
      isLetter y = true ∧ (y = b ∨ isHangulSecond y.toNat = false) := by
  cases h with
  | @letter c hletter hstanding himage =>
    obtain ⟨y, hy, hyletter, hself⟩ := exists_head?_decompose hletter
    refine ⟨c, rfl, hletter, y, ?_, hyletter, hself⟩
    rw [List.flatMap_singleton]
    exact hy
  | expanded hrow =>
    obtain ⟨hhead, hdecomposed, -⟩ := foldExpansions_tables _ hrow
    obtain ⟨b, hb, hbletter⟩ := (Option.any_eq_true _ _).mp hhead
    obtain ⟨y, hy, hyletter⟩ := (Option.any_eq_true _ _).mp hdecomposed
    rw [Bool.and_eq_true, Bool.not_eq_true'] at hyletter
    exact ⟨b, hb, hbletter, y, hy, hyletter.1, Or.inr hyletter.2⟩

/-- A piece is not empty. -/
theorem ne_nil (h : Piece piece) : piece ≠ [] := by
  rintro rfl
  obtain ⟨b, hb, -⟩ := h.exists_head
  cases hb

/-- The composed form of a piece ends with a letter that joins what is behind it only if the piece does. -/
theorem getLast?_composed (h : Piece piece) :
    ∀ x ∈ (composed piece).getLast?, x ∈ piece.getLast? ∨ isHangulFirst x.toNat = false := by
  cases h with
  | letter hletter hstanding himage =>
    rw [hstanding.composed_eq]
    exact fun x hx => Or.inl hx
  | expanded hrow => exact fun x hx => Or.inr <|
      List.forall_iff_forall_mem.mp (foldExpansions_tables _ hrow).2.2.2.1 x (Option.mem_toList.mpr hx)

/-- A piece with a letter that joins a neighbour is this letter. -/
theorem eq_singleton_of_hangul (h : Piece piece) {c : Char} (hc : c ∈ piece)
    (hhangul : isHangulFirst c.toNat = true ∨ isHangulSecond c.toNat = true) : piece = [c] := by
  cases h with
  | letter hletter hstanding himage => rw [List.mem_singleton.mp hc]
  | expanded hrow =>
    obtain ⟨-, hfirst, hsecond⟩ :=
      List.forall_iff_forall_mem.mp (foldExpansions_tables _ hrow).2.2.1 c hc
    rw [hfirst, hsecond] at hhangul
    rcases hhangul with hhangul | hhangul <;> cases hhangul

/-- The characters of a piece stand apart from each other. -/
theorem isChain_apart (h : Piece piece) : piece.IsChain Apart := by
  refine List.isChain_iff_forall_rel_of_append_cons_cons.mpr fun a b before after heq => ?_
  by_contra hjoin
  obtain ⟨n, -, hfirst, -⟩ := isHangul_of_not_apart hjoin
  have hsingle := h.eq_singleton_of_hangul (by rw [heq]; simp) (Or.inl hfirst)
  have hlength := congrArg List.length (heq.symm.trans hsingle)
  simp at hlength
  omega

/-- A piece is made of word characters. -/
theorem isWordCharacter (h : Piece piece) : ∀ c ∈ piece, isWordCharacter c = true := by
  cases h with
  | letter hletter hstanding himage =>
    intro x hx
    unfold Text.isWordCharacter
    rw [List.mem_singleton.mp hx, hletter]
    rfl
  | expanded hrow => exact fun x hx =>
      (List.forall_iff_forall_mem.mp (foldExpansions_tables _ hrow).2.2.1 x hx).1

/-- A piece gives itself again and has no dot above, or it is the dotted i and loses the dot. -/
theorem respelled_cases (h : Piece piece) :
    respelled piece = piece ∧ '\u0307' ∉ piece ∨ piece = dottedI ∧ respelled piece = ['i'] := by
  cases h with
  | @letter c hletter hstanding himage =>
    refine Or.inl ⟨?_, fun hdot => ?_⟩
    · rw [respelled_eq, hstanding.composed_eq, List.filter_singleton, hletter]
      exact (List.flatMap_singleton _ _).trans himage
    · rw [← List.mem_singleton.mp hdot] at hletter
      exact absurd hletter (by decide +kernel)
  | expanded hrow => exact (foldExpansions_tables _ hrow).2.2.2.2

/-- Respelling a piece does not lengthen it. -/
theorem length_respelled_le (h : Piece piece) : (respelled piece).length ≤ piece.length := by
  rcases h.respelled_cases with ⟨hself, -⟩ | ⟨hdotted, hrespelled⟩
  · rw [hself]
  · rw [hrespelled, hdotted]
    decide

/-- Two pieces in a row are composed apart if their neighbours do not join. -/
theorem not_joined {next : List Char} (h : Piece piece) (hnext : Piece next)
    (hapart : ∀ a ∈ piece.getLast?, ∀ b ∈ next.head?, Apart a b) :
    ∃ y ∈ (next.flatMap decompose).head?, combiningClass y = 0 ∧
      ∀ x ∈ (composed piece).getLast?, compose? x y = none := by
  obtain ⟨b, hb, -, y, hy, hletter, hself⟩ := hnext.exists_head
  refine ⟨y, hy, combiningClass_of_isLetter hletter, fun x hx => compose?_eq_none_of_isLetter hletter ?_⟩
  by_contra hjoin
  obtain ⟨n, -, hfirst, hsecond⟩ := isHangul_of_not_apart hjoin
  have hlast : x ∈ piece.getLast? := (h.getLast?_composed x hx).resolve_right (by simp [hfirst])
  have hyb : y = b := hself.resolve_right (by simp [hsecond])
  exact hjoin (hapart x hlast y (hyb ▸ hb))

end Piece

/-! ## Texts of pieces -/

section

variable {pieces : List (List Char)}

/-- No piece is empty. -/
theorem nil_notMem_of_pieces (h : ∀ piece ∈ pieces, Piece piece) : [] ∉ pieces :=
  fun hnil => (h [] hnil).ne_nil rfl

/-- Pieces whose neighbours do not join are composed one by one. -/
theorem composed_flatten (h : ∀ piece ∈ pieces, Piece piece) (hapart : pieces.flatten.IsChain Apart) :
    composed pieces.flatten = (pieces.map composed).flatten := by
  rw [List.isChain_flatten (nil_notMem_of_pieces h)] at hapart
  replace hapart := hapart.2
  induction pieces with
  | nil => rfl
  | cons piece pieces ih =>
    obtain ⟨hpiece, hpieces⟩ := List.forall_mem_cons.mp h
    obtain ⟨hneighbours, hrest⟩ := List.isChain_cons.mp hapart
    have hcomposed : composed pieces.flatten = (pieces.map composed).flatten := ih hpieces hrest
    cases pieces with
    | nil => simp
    | cons next rest =>
      have hnext : Piece next := hpieces next List.mem_cons_self
      obtain ⟨y, hy, hclass, hjoin⟩ := hpiece.not_joined hnext (hneighbours next rfl)
      have hhead : ((next :: rest).flatten.flatMap decompose).head? = some y := by
        rw [List.flatten_cons, List.flatMap_append, List.head?_append, Option.mem_def.mp hy,
          Option.some_or]
      have hcons : (piece :: next :: rest).flatten = piece ++ (next :: rest).flatten := rfl
      rw [hcons, composed_append piece hhead hclass hjoin, hcomposed]
      rfl

/-- Pieces that stand apart are respelled one by one. -/
theorem respelled_flatten (h : ∀ piece ∈ pieces, Piece piece)
    (hapart : pieces.flatten.IsChain Apart) :
    respelled pieces.flatten = (pieces.map respelled).flatten := by
  rw [respelled_eq, composed_flatten h hapart, List.filter_flatten, List.map_map, List.flatMap_def,
    List.map_flatten, List.flatten_flatten, List.map_map, List.map_map]
  congr 1
  refine List.map_congr_left fun piece _ => ?_
  rw [respelled_eq, List.flatMap_def]
  rfl

/-- Pieces of which two neighbours join give the same composed text as fewer letters do. -/
theorem exists_joined (h : ∀ piece ∈ pieces, Piece piece) (hjoin : ¬pieces.flatten.IsChain Apart) :
    ∃ joined : List (List Char), (∀ piece ∈ joined, Piece piece) ∧ joined ≠ [] ∧
      composed pieces.flatten = composed joined.flatten ∧
      joined.flatten.length < pieces.flatten.length := by
  have hneighbours : ¬pieces.IsChain fun piece next =>
      ∀ a ∈ piece.getLast?, ∀ b ∈ next.head?, Apart a b := fun hchain =>
    hjoin ((List.isChain_flatten (nil_notMem_of_pieces h)).mpr
      ⟨fun piece hpiece => (h piece hpiece).isChain_apart, hchain⟩)
  rw [List.isChain_iff_forall_rel_of_append_cons_cons] at hneighbours
  push Not at hneighbours
  obtain ⟨piece, next, before, after, rfl, a, ha, b, hb, hab⟩ := hneighbours
  obtain ⟨n, hn, hfirst, hsecond⟩ := isHangul_of_not_apart hab
  have hpiece : piece = [a] :=
    (h piece (by simp)).eq_singleton_of_hangul (List.mem_of_getLast? ha) (Or.inl hfirst)
  have hnext : next = [b] :=
    (h next (by simp)).eq_singleton_of_hangul (List.mem_of_head? hb) (Or.inr hsecond)
  subst hpiece hnext
  obtain ⟨hsyllable, hvalid⟩ := syllable_of_composeHangul? hn
  have hsyllable : Piece [Char.ofNat n] :=
    piece_of_isHangulSyllable (by rw [toNat_ofNat hvalid, hsyllable])
  refine ⟨before ++ [Char.ofNat n] :: after, ?_, by simp, ?_, ?_⟩
  · intro piece hpiece
    rcases List.mem_append.mp hpiece with hpiece | hpiece
    · exact h piece (List.mem_append_left _ hpiece)
    · rcases List.mem_cons.mp hpiece with rfl | hpiece
      · exact hsyllable
      · exact h piece (by simp [hpiece])
  · unfold composed decomposed
    simp [decompose_of_composeHangul? hn]
  · simp

/-- The letters of some pieces can be joined until no neighbours join any more. This leaves the composed
text as it is, and the text gets shorter unless nothing is joined. -/
theorem exists_apart (h : ∀ piece ∈ pieces, Piece piece) :
    ∃ joined : List (List Char), (∀ piece ∈ joined, Piece piece) ∧ (pieces ≠ [] → joined ≠ []) ∧
      joined.flatten.IsChain Apart ∧ composed pieces.flatten = composed joined.flatten ∧
      (joined = pieces ∨ joined.flatten.length < pieces.flatten.length) := by
  induction hlength : pieces.flatten.length using Nat.strong_induction_on generalizing pieces with
  | h length ih =>
    by_cases hapart : pieces.flatten.IsChain Apart
    · exact ⟨pieces, h, id, hapart, rfl, Or.inl rfl⟩
    · obtain ⟨shorter, hshorter, hne, hcomposed, hless⟩ := exists_joined h hapart
      obtain ⟨joined, hjoined, hnonempty, hchain, hsame, hfewer⟩ :=
        ih shorter.flatten.length (hlength ▸ hless) hshorter rfl
      refine ⟨joined, hjoined, fun _ => hnonempty hne, hchain, hcomposed.trans hsame, Or.inr ?_⟩
      rw [← hlength]
      rcases hfewer with rfl | hfewer
      · exact hless
      · exact hfewer.trans hless

/-- What pieces give is what the pieces that are left after joining give one by one. -/
theorem exists_respelled (h : ∀ piece ∈ pieces, Piece piece) :
    ∃ joined : List (List Char), (∀ piece ∈ joined, Piece piece) ∧ (pieces ≠ [] → joined ≠ []) ∧
      joined.flatten.IsChain Apart ∧
      respelled pieces.flatten = (joined.map respelled).flatten ∧
      (joined = pieces ∨ joined.flatten.length < pieces.flatten.length) := by
  obtain ⟨joined, hjoined, hne, hapart, hcomposed, hfewer⟩ := exists_apart h
  refine ⟨joined, hjoined, hne, hapart, ?_, hfewer⟩
  rw [← respelled_flatten hjoined hapart, respelled, hcomposed, respelled]

/-! ## Terms that stay as they are -/

/-- Respelling pieces does not lengthen their text. -/
theorem length_flatten_respelled_le (h : ∀ piece ∈ pieces, Piece piece) :
    (pieces.map respelled).flatten.length ≤ pieces.flatten.length := by
  induction pieces with
  | nil => rfl
  | cons piece pieces ih =>
    obtain ⟨hpiece, hpieces⟩ := List.forall_mem_cons.mp h
    have hlength := hpiece.length_respelled_le
    have hrest := ih hpieces
    simp only [List.map_cons, List.flatten_cons, List.length_append]
    omega

/-- A text of pieces gets shorter if one of them is the dotted i. -/
theorem length_flatten_respelled_lt (h : ∀ piece ∈ pieces, Piece piece) (hdot : dottedI ∈ pieces) :
    (pieces.map respelled).flatten.length < pieces.flatten.length := by
  obtain ⟨before, after, rfl⟩ := List.append_of_mem hdot
  have hbefore := length_flatten_respelled_le fun piece hpiece =>
    h piece (List.mem_append_left _ hpiece)
  have hafter := length_flatten_respelled_le fun piece hpiece =>
    h piece (List.mem_append_right _ (List.mem_cons_of_mem _ hpiece))
  have hdotted : (respelled dottedI).length < dottedI.length := by
    rcases (h dottedI hdot).respelled_cases with ⟨-, hnot⟩ | ⟨-, hrespelled⟩
    · exact absurd (by decide) hnot
    · rw [hrespelled]
      decide
  simp only [List.map_append, List.map_cons, List.flatten_append, List.flatten_cons,
    List.length_append]
  omega

/-- A dot above occurs in a text of pieces only in the piece that is the dotted I. -/
theorem dot_mem_flatten_iff (h : ∀ piece ∈ pieces, Piece piece) :
    '\u0307' ∈ pieces.flatten ↔ dottedI ∈ pieces := by
  constructor
  · intro hdot
    obtain ⟨piece, hpiece, hmem⟩ := List.mem_flatten.mp hdot
    rcases (h piece hpiece).respelled_cases with ⟨-, hnot⟩ | ⟨rfl, -⟩
    · exact absurd hmem hnot
    · exact hpiece
  · intro hdotted
    exact List.mem_flatten.mpr ⟨dottedI, hdotted, by decide⟩

/-- Without the dotted I every piece is its own respelling. -/
theorem map_respelled_eq_self (h : ∀ piece ∈ pieces, Piece piece) (hdot : '\u0307' ∉ pieces.flatten) :
    pieces.map respelled = pieces := by
  refine (List.map_congr_left fun piece hpiece => ?_).trans (List.map_id pieces)
  rcases (h piece hpiece).respelled_cases with ⟨hself, -⟩ | ⟨rfl, -⟩
  · exact hself
  · exact absurd ((dot_mem_flatten_iff h).mpr hpiece) hdot

/-- A text of pieces is its own folded term exactly if no dot is lost and no neighbours join. -/
theorem respelled_eq_self_iff (h : ∀ piece ∈ pieces, Piece piece) :
    respelled pieces.flatten = pieces.flatten ↔ StaysComposed pieces.flatten := by
  constructor
  · intro hself
    by_contra hchanged
    obtain ⟨joined, hjoined, -, hapart, hrespelled, hfewer⟩ := exists_respelled h
    have hlength := congrArg List.length (hrespelled.symm.trans hself)
    rcases hfewer with rfl | hfewer
    · have hdot : '\u0307' ∈ joined.flatten := by
        by_contra hdot
        exact hchanged ⟨hdot, hapart⟩
      have hshorter := length_flatten_respelled_lt h ((dot_mem_flatten_iff h).mp hdot)
      omega
    · have hshorter := length_flatten_respelled_le hjoined
      omega
  · rintro ⟨hdot, hapart⟩
    rw [respelled_flatten h hapart, map_respelled_eq_self h hdot]

/-- What pieces give has a letter in it. -/
theorem exists_isLetter_respelled (h : ∀ piece ∈ pieces, Piece piece) (hne : pieces ≠ []) :
    ∃ x ∈ respelled pieces.flatten, isLetter x = true := by
  obtain ⟨joined, hjoined, hnonempty, -, hrespelled, -⟩ := exists_respelled h
  obtain ⟨piece, hpiece⟩ := List.exists_mem_of_ne_nil _ (hnonempty hne)
  have hletter : ∃ x ∈ respelled piece, isLetter x = true := by
    obtain ⟨b, hb, hletter, -⟩ := (hjoined piece hpiece).exists_head
    rcases (hjoined piece hpiece).respelled_cases with ⟨hself, -⟩ | ⟨rfl, hdotless⟩
    · rw [hself]
      exact ⟨b, List.mem_of_head? hb, hletter⟩
    · obtain rfl : 'i' = b := Option.some.inj hb
      rw [hdotless]
      exact ⟨'i', List.mem_cons_self, hletter⟩
  obtain ⟨x, hx, hletter⟩ := hletter
  rw [hrespelled]
  exact ⟨x, List.mem_flatten.mpr ⟨_, List.mem_map_of_mem hpiece, hx⟩, hletter⟩

end

/-! ## Folded terms -/

/-- A letter is not blank. -/
theorem not_isBlank_of_isLetter {c : Char} (h : isLetter c = true) : isBlank c = false := by
  refine Bool.eq_false_iff.mpr fun hblank => ?_
  have hother : isLetter c = false :=
    of_isBlank (P := fun c => isLetter c = false) (by decide +kernel) hblank
  rw [h] at hother
  cases hother

/-- The folded term of a word that is not blank is the respelling of the word. -/
theorem toList_foldCase_normalize {text : String} (h : isBlankText text = false) :
    (foldCase (normalize text)).toList = respelled text.toList := by
  unfold foldCase normalize normalizeChars respelled
  rw [String.toList_ofList, String.toList_ofList, show allBlank text.toList = false from h,
    if_neg Bool.false_ne_true]

/-- The folded term of a word is a text of pieces. -/
theorem exists_pieces (word : String) :
    ∃ pieces : List (List Char), (∀ piece ∈ pieces, Piece piece) ∧
      (foldCase (normalize word)).toList = pieces.flatten := by
  cases hblank : isBlankText word with
  | true =>
    refine ⟨[], fun piece hpiece => absurd hpiece List.not_mem_nil, ?_⟩
    unfold foldCase normalize normalizeChars
    rw [String.toList_ofList, String.toList_ofList, show allBlank word.toList = true from hblank,
      if_pos rfl]
    rfl
  | false =>
    refine ⟨((composed word.toList).filter isLetter).map termImage, fun piece hpiece => ?_, ?_⟩
    · obtain ⟨c, hc, rfl⟩ := List.mem_map.mp hpiece
      obtain ⟨hmem, hletter⟩ := List.mem_filter.mp hc
      exact piece_termImage hletter (standing_of_mem_composed hmem)
    · rw [toList_foldCase_normalize hblank, respelled_eq, List.flatMap_def]

/-- The folded term of some word, when it is not blank. -/
structure FoldedTerm (t : String) : Prop where
  exists_word : ∃ word, foldCase (normalize word) = t
  not_blank : isBlankText t = false

namespace FoldedTerm

variable {t : String}

/-- A folded term is its own fold. -/
theorem foldCase_eq (h : FoldedTerm t) : foldCase t = t := by
  obtain ⟨word, rfl⟩ := h.exists_word
  exact foldCase_foldCase _

/-- A folded term is a text of at least one piece. -/
theorem exists_pieces (h : FoldedTerm t) :
    ∃ pieces : List (List Char), (∀ piece ∈ pieces, Piece piece) ∧ pieces ≠ [] ∧
      t.toList = pieces.flatten := by
  obtain ⟨word, rfl⟩ := h.exists_word
  obtain ⟨pieces, hpieces, hflatten⟩ := Text.exists_pieces word
  refine ⟨pieces, hpieces, ?_, hflatten⟩
  rintro rfl
  have hblank := h.not_blank
  rw [isBlankText, hflatten] at hblank
  cases hblank

/-- A folded term is made of word characters. -/
theorem isWordCharacter (h : FoldedTerm t) : ∀ c ∈ t.toList, isWordCharacter c = true := by
  obtain ⟨pieces, hpieces, -, hflatten⟩ := h.exists_pieces
  intro c hc
  rw [hflatten] at hc
  obtain ⟨piece, hpiece, hmem⟩ := List.mem_flatten.mp hc
  exact (hpieces piece hpiece).isWordCharacter c hmem

/-- The term of a folded term is not blank. -/
theorem normalize_not_blank (h : FoldedTerm t) : isBlankText (normalize t) = false := by
  obtain ⟨pieces, hpieces, hne, hflatten⟩ := h.exists_pieces
  obtain ⟨x, hx, hletter⟩ := exists_isLetter_respelled hpieces hne
  rw [← isBlankText_foldCase_eq, isBlankText, toList_foldCase_normalize h.not_blank, hflatten]
  exact List.all_eq_false.mpr ⟨x, hx, by simp [not_isBlank_of_isLetter hletter]⟩

/-- A folded term is stored and found under its own name exactly when it stays composed. -/
theorem foldCase_normalize_eq_self_iff (h : FoldedTerm t) :
    foldCase (normalize t) = t ↔ StaysComposed t.toList := by
  obtain ⟨pieces, hpieces, -, hflatten⟩ := h.exists_pieces
  rw [← String.toList_inj, toList_foldCase_normalize h.not_blank, hflatten,
    respelled_eq_self_iff hpieces]

end FoldedTerm

end BooleanRetrieval.Text
