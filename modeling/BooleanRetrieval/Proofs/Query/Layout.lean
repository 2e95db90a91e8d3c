import BooleanRetrieval.Proofs.Query.TokenText
import Mathlib.Data.List.Chain

/-!
# The layout of a query

A query is laid out as lexemes: each is a token as it is written, behind a gap of blank characters. Two
lexemes may touch only if one of them is a parenthesis. Every text has a layout (`exists_laidOut`), and
the tokens of a text are those of any layout it has (`LaidOut.collect_eq`). So nothing of a query is
lost but blank characters, and tokens that are written down again, whatever the gaps and the case of the
operators, are read back as they are.
-/

set_option autoImplicit false

namespace BooleanRetrieval.Token

open Text (isBlank allBlank toUpper)

/-! ## Layouts -/

/-- A token as it stands in a query: the blank characters before it, the token, and how it is
written. -/
structure Lexeme where
  gap : List Char
  token : Token
  text : List Char

/-- The characters of a lexeme. -/
def Lexeme.chars (l : Lexeme) : List Char :=
  l.gap ++ l.text

/-- A text is laid out as lexemes, with blank characters behind them. -/
structure LaidOut (text : List Char) (lexemes : List Lexeme) (rest : List Char) : Prop where
  text_eq : text = lexemes.flatMap Lexeme.chars ++ rest
  blank_gap : ∀ l ∈ lexemes, allBlank l.gap = true
  blank_rest : allBlank rest = true
  writes : ∀ l ∈ lexemes, Writes l.token l.text
  /-- Where neither of two neighbours is a parenthesis, there is a gap between them. -/
  apart : lexemes.IsChain fun l next =>
    ¬ l.token.IsParenthesis → ¬ next.token.IsParenthesis → next.gap ≠ []

/-- A text does not go on with a run that ends before it. -/
def AtBoundary (text : List Char) : Prop :=
  ∀ c ∈ text.head?, ¬ StandsInRun c

/-- A blank character stands in no run. -/
theorem not_standsInRun_of_isBlank {c : Char} (h : isBlank c = true) : ¬ StandsInRun c := by
  rintro ⟨-, -, hblank⟩
  rw [h] at hblank
  cases hblank

/-- A text that begins with blank characters does not go on with a run. -/
theorem atBoundary_of_blank {blank more : List Char} (hblank : allBlank blank = true)
    (hne : blank ≠ []) : AtBoundary (blank ++ more) := by
  obtain ⟨c, cs, rfl⟩ := List.exists_cons_of_ne_nil hne
  intro first hfirst
  obtain rfl := Option.some.inj hfirst
  exact not_standsInRun_of_isBlank (List.all_eq_true.mp hblank c List.mem_cons_self)

/-- Behind the end of a run, a parenthesis may follow at once, but no other token. -/
theorem Writes.atBoundary_iff {token : Token} {text more : List Char} (h : Writes token text) :
    AtBoundary (text ++ more) ↔ token.IsParenthesis := by
  by_cases hparenthesis : token.IsParenthesis
  · refine iff_of_true ?_ hparenthesis
    rcases h.eq_of_isParenthesis hparenthesis with ⟨-, rfl⟩ | ⟨-, rfl⟩ <;>
      simp [AtBoundary, StandsInRun]
  · obtain ⟨hne, hrun, -⟩ := h.run hparenthesis
    obtain ⟨c, cs, rfl⟩ := List.exists_cons_of_ne_nil hne
    exact iff_of_false (fun hend => hend c rfl (hrun c List.mem_cons_self)) hparenthesis

section

variable {text rest : List Char} {lexemes : List Lexeme} {l : Lexeme}

/-- What is behind the first lexeme is laid out as well. -/
theorem LaidOut.tail (h : LaidOut text (l :: lexemes) rest) :
    LaidOut (lexemes.flatMap Lexeme.chars ++ rest) lexemes rest where
  text_eq := rfl
  blank_gap := (List.forall_mem_cons.mp h.blank_gap).2
  blank_rest := h.blank_rest
  writes := (List.forall_mem_cons.mp h.writes).2
  apart := (List.isChain_cons.mp h.apart).2

/-- A laid out text does not go on with a run exactly if there is none at its front. -/
theorem LaidOut.atBoundary_iff (h : LaidOut text lexemes rest) :
    AtBoundary text ↔ ∀ l ∈ lexemes.head?, ¬ l.token.IsParenthesis → l.gap ≠ [] := by
  obtain rfl := h.text_eq
  cases lexemes with
  | nil =>
    refine iff_of_true ?_ (by simp)
    by_cases hrest : rest = []
    · simp [hrest, AtBoundary]
    · simpa using @atBoundary_of_blank rest [] h.blank_rest hrest
  | cons l lexemes =>
    have hgap := h.blank_gap l List.mem_cons_self
    have hwrites := h.writes l List.mem_cons_self
    have hchars : (l :: lexemes).flatMap Lexeme.chars ++ rest =
        l.gap ++ (l.text ++ (lexemes.flatMap Lexeme.chars ++ rest)) := by
      simp [Lexeme.chars]
    rw [hchars]
    by_cases hempty : l.gap = []
    · rw [hempty, List.nil_append, hwrites.atBoundary_iff]
      simp [hempty]
    · exact iff_of_true (atBoundary_of_blank hgap hempty) (by simpa using fun _ => hempty)

/-- A lexeme in front of a laid out text, at whose front no run follows on a run. -/
theorem LaidOut.cons (h : LaidOut text lexemes rest) (hgap : allBlank l.gap = true)
    (hwrites : Writes l.token l.text) (hend : ¬ l.token.IsParenthesis → AtBoundary text) :
    LaidOut (l.chars ++ text) (l :: lexemes) rest where
  text_eq := by rw [h.text_eq, List.flatMap_cons, List.append_assoc]
  blank_gap := List.forall_mem_cons.mpr ⟨hgap, h.blank_gap⟩
  blank_rest := h.blank_rest
  writes := List.forall_mem_cons.mpr ⟨hwrites, h.writes⟩
  apart := List.isChain_cons.mpr
    ⟨fun next hnext hrun => h.atBoundary_iff.mp (hend hrun) next hnext, h.apart⟩

/-- Blank characters alone are laid out as no lexeme. -/
theorem laidOut_blank (h : allBlank rest = true) : LaidOut rest [] rest where
  text_eq := rfl
  blank_gap := List.forall_mem_nil _
  blank_rest := h
  writes := List.forall_mem_nil _
  apart := .nil

end

/-! ## Every text has a layout -/

/-- A character that is not blank begins a token, and a run that is as long as can be. -/
theorem exists_writes {c : Char} (cs : List Char) (h : isBlank c = false) :
    ∃ (token : Token) (text more : List Char), c :: cs = text ++ more ∧ Writes token text ∧
      (¬ token.IsParenthesis → AtBoundary more) := by
  by_cases hopen : c = '('
  · subst hopen
    exact ⟨_, _, cs, rfl, .lparen, fun hrun => absurd (.inl rfl) hrun⟩
  by_cases hclose : c = ')'
  · subst hclose
    exact ⟨_, _, cs, rfl, .rparen, fun hrun => absurd (.inr rfl) hrun⟩
  let stands : Char → Bool := fun c => decide (StandsInRun c)
  have hstands : stands c = true := decide_eq_true ⟨hopen, hclose, h⟩
  have hne : (c :: cs).takeWhile stands ≠ [] := by
    rw [List.takeWhile_cons_of_pos hstands]
    exact List.cons_ne_nil _ _
  have hrun : ∀ x ∈ (c :: cs).takeWhile stands, StandsInRun x := fun x hx =>
    of_decide_eq_true (List.all_eq_true.mp List.all_takeWhile x hx)
  have hfirst := List.head?_dropWhile_not stands (c :: cs)
  refine ⟨_, _, (c :: cs).dropWhile stands, List.takeWhile_append_dropWhile.symm,
    (writes_ofRun hne hrun).1, fun _ x hx => ?_⟩
  rw [Option.mem_def.mp hx] at hfirst
  exact of_decide_eq_false hfirst

/-- A text that is not blank begins with a lexeme, and a run that is as long as can be. -/
theorem exists_lexeme {text : List Char} (h : allBlank text = false) :
    ∃ (l : Lexeme) (more : List Char), text = l.chars ++ more ∧ allBlank l.gap = true ∧
      Writes l.token l.text ∧ (¬ l.token.IsParenthesis → AtBoundary more) := by
  have htext : text.takeWhile isBlank ++ text.dropWhile isBlank = text :=
    List.takeWhile_append_dropWhile
  have hgap : allBlank (text.takeWhile isBlank) = true := List.all_takeWhile
  have hfirst := List.head?_dropWhile_not isBlank text
  generalize text.takeWhile isBlank = gap at htext hgap
  generalize text.dropWhile isBlank = after at htext hfirst
  subst htext
  cases after with
  | nil =>
    rw [List.append_nil, hgap] at h
    cases h
  | cons c cs =>
    obtain ⟨token, text, more, hsplit, hwrites, hend⟩ := exists_writes cs hfirst
    refine ⟨⟨gap, token, text⟩, more, ?_, hgap, hwrites, hend⟩
    rw [hsplit, Lexeme.chars, List.append_assoc]

/-- Every text can be laid out. -/
theorem exists_laidOut (text : List Char) : ∃ lexemes rest, LaidOut text lexemes rest := by
  induction hlength : text.length using Nat.strongRecOn generalizing text with
  | ind length ih =>
    cases hblank : allBlank text with
    | true => exact ⟨[], text, laidOut_blank hblank⟩
    | false =>
      obtain ⟨l, more, rfl, hgap, hwrites, hend⟩ := exists_lexeme hblank
      have hshorter : more.length < length := by
        have hpositive := List.length_pos_iff.mpr hwrites.ne_nil
        rw [← hlength, Lexeme.chars, List.length_append, List.length_append]
        omega
      obtain ⟨lexemes, rest, hmore⟩ := ih more.length hshorter more rfl
      exact ⟨l :: lexemes, rest, hmore.cons hgap hwrites hend⟩

/-! ## The tokens of a layout -/

/-- Closing a run puts its token before the tokens that follow. -/
theorem closeRun_eq (run : List Char) (tokens : List Token) :
    closeRun run tokens = closeRun run [] ++ tokens := by
  unfold closeRun
  split <;> rfl

/-- The tokens that are finished stay in front. -/
theorem collect_eq_append (run : List Char) (tokens : List Token) (text : List Char) :
    collect run tokens text = tokens.reverse ++ collect run [] text := by
  induction text generalizing run tokens with
  | nil => simp [collect, closeRun_eq run tokens]
  | cons c text ih =>
    unfold collect
    rw [closeRun_eq run tokens]
    split
    · rw [ih [] (lparen :: _), ih [] (lparen :: closeRun run [])]
      simp
    · split
      · rw [ih [] (rparen :: _), ih [] (rparen :: closeRun run [])]
        simp
      · split
        · rw [ih [] (_ ++ _), ih [] (closeRun run [])]
          simp
        · exact ih (c :: run) tokens

/-- Blank characters in front are passed over. -/
theorem collect_gap {gap : List Char} (h : allBlank gap = true) (text : List Char) :
    collect [] [] (gap ++ text) = collect [] [] text := by
  induction gap with
  | nil => rfl
  | cons c gap ih =>
    obtain ⟨hc, hgap⟩ := Bool.and_eq_true_iff.mp h
    have hne : c ≠ '(' ∧ c ≠ ')' := by
      constructor <;> rintro rfl <;> cases hc
    rw [List.cons_append, collect, if_neg hne.1, if_neg hne.2, if_pos hc]
    exact ih hgap

/-- Characters of a run are added to the run that is being read. -/
theorem collect_append {text : List Char} (h : ∀ c ∈ text, StandsInRun c) (run more : List Char) :
    collect run [] (text ++ more) = collect (text.reverse ++ run) [] more := by
  induction text generalizing run with
  | nil => rfl
  | cons c text ih =>
    obtain ⟨⟨hopen, hclose, hblank⟩, htext⟩ := List.forall_mem_cons.mp h
    rw [List.cons_append, collect, if_neg hopen, if_neg hclose, hblank,
      if_neg Bool.false_ne_true, ih htext]
    simp

/-- At a boundary the run that is being read is finished. -/
theorem collect_of_atBoundary {text : List Char} (h : AtBoundary text) (run : List Char)
    (tokens : List Token) : collect run tokens text = collect [] (closeRun run tokens) text := by
  cases text with
  | nil => rfl
  | cons c text =>
    unfold collect
    split
    · rfl
    · next hopen =>
      split
      · rfl
      · next hclose =>
        split
        · rfl
        · next hblank => exact absurd ⟨hopen, hclose, Bool.eq_false_iff.mpr hblank⟩ (h c rfl)

/-- What a token is written as is read as the token, if a run is not gone on with. -/
theorem Writes.collect_append {token : Token} {text : List Char} (h : Writes token text)
    {more : List Char} (hend : ¬ token.IsParenthesis → AtBoundary more) :
    collect [] [] (text ++ more) = token :: collect [] [] more := by
  by_cases hparenthesis : token.IsParenthesis
  · rcases h.eq_of_isParenthesis hparenthesis with ⟨rfl, rfl⟩ | ⟨rfl, rfl⟩
    · exact collect_eq_append [] [.lparen] more
    · exact collect_eq_append [] [.rparen] more
  · obtain ⟨hne, hrun, htoken⟩ := h.run hparenthesis
    have hreverse : text.reverse.isEmpty = false := by simpa using hne
    rw [Token.collect_append hrun, List.append_nil, collect_of_atBoundary (hend hparenthesis),
      closeRun, hreverse, if_neg Bool.false_ne_true, List.reverse_reverse, htoken,
      collect_eq_append, List.reverse_singleton, List.singleton_append]

/-- The tokens of a text are those of its layout. -/
theorem LaidOut.collect_eq {text rest : List Char} {lexemes : List Lexeme}
    (h : LaidOut text lexemes rest) :
    collect [] [] text = lexemes.map Lexeme.token ++ [.endOfQuery] := by
  induction lexemes generalizing text with
  | nil =>
    have htext : text = rest := h.text_eq
    rw [htext, ← List.append_nil rest, collect_gap h.blank_rest]
    rfl
  | cons l lexemes ih =>
    have htext : text = l.gap ++ (l.text ++ (lexemes.flatMap Lexeme.chars ++ rest)) := by
      rw [h.text_eq, List.flatMap_cons, Lexeme.chars, List.append_assoc, List.append_assoc]
    have hend : ¬ l.token.IsParenthesis → AtBoundary (lexemes.flatMap Lexeme.chars ++ rest) := by
      intro hrun
      rw [h.tail.atBoundary_iff]
      exact fun next hnext => (List.isChain_cons.mp h.apart).1 next hnext hrun
    rw [htext, collect_gap (h.blank_gap l List.mem_cons_self),
      (h.writes l List.mem_cons_self).collect_append hend, ih h.tail, List.map_cons,
      List.cons_append]

/-! ## Queries -/

/-- The tokens of a query without its end, as they stand in the query. -/
theorem exists_laidOut_scan (query : String) :
    ∃ lexemes rest, LaidOut query.toList lexemes rest ∧
      scan query = lexemes.map Lexeme.token ++ [.endOfQuery] := by
  obtain ⟨lexemes, rest, hlaid⟩ := exists_laidOut query.toList
  exact ⟨lexemes, rest, hlaid, hlaid.collect_eq⟩

/-- Written one after the other, the tokens of a laid out text are the text without its blank
characters. -/
theorem LaidOut.flatMap_text {text rest : List Char} {lexemes : List Lexeme}
    (h : LaidOut text lexemes rest) :
    lexemes.flatMap Lexeme.text = text.filter fun c => !isBlank c := by
  have hgap : ∀ {gap : List Char}, allBlank gap = true → gap.filter (fun c => !isBlank c) = [] := by
    intro gap hblank
    rw [List.filter_eq_nil_iff]
    intro c hc
    simp [List.all_eq_true.mp hblank c hc]
  have hlexeme : ∀ l ∈ lexemes, l.chars.filter (fun c => !isBlank c) = l.text := by
    intro l hl
    have htext : l.text.filter (fun c => !isBlank c) = l.text :=
      List.filter_eq_self.mpr fun c hc => by rw [(h.writes l hl).not_isBlank c hc]; rfl
    rw [Lexeme.chars, List.filter_append, hgap (h.blank_gap l hl), htext, List.nil_append]
  rw [h.text_eq, List.filter_append, hgap h.blank_rest, List.append_nil, List.filter_flatMap]
  exact (List.flatMap_congr hlexeme).symm

/-- What is written of tokens and joined by single spaces is laid out as the tokens. -/
theorem exists_laidOut_intercalate {tokens : List Token} {texts : List (List Char)}
    (h : List.Forall₂ Writes tokens texts) {gap : List Char} (hgap : allBlank gap = true) :
    ∃ lexemes rest, LaidOut (gap ++ [' '].intercalate texts) lexemes rest ∧
      lexemes.map Lexeme.token = tokens := by
  induction h generalizing gap with
  | nil => exact ⟨[], gap, by simpa using laidOut_blank hgap, rfl⟩
  | @cons token text tokens texts hwrites hrest ih =>
    cases texts with
    | nil =>
      obtain rfl := List.forall₂_nil_right_iff.mp hrest
      have hnil : LaidOut [] [] [] := laidOut_blank rfl
      have hlaid := hnil.cons (l := ⟨gap, token, text⟩) hgap hwrites
        fun _ => by simp [AtBoundary]
      exact ⟨_, [], by simpa [Lexeme.chars] using hlaid, rfl⟩
    | cons next texts =>
      obtain ⟨lexemes, rest, hlaid, htokens⟩ := ih (show allBlank [' '] = true from rfl)
      have hcons := hlaid.cons (l := ⟨gap, token, text⟩) hgap hwrites
        fun _ => atBoundary_of_blank rfl (List.cons_ne_nil _ _)
      refine ⟨⟨gap, token, text⟩ :: lexemes, rest, ?_, by rw [List.map_cons, htokens]⟩
      simpa [Lexeme.chars, List.intercalate_cons_cons] using hcons

/-- Scanning texts of tokens with a space between them gives back the tokens. -/
theorem scan_intercalate {tokens : List Token} {texts : List String}
    (h : List.Forall₂ Writes tokens (texts.map String.toList)) :
    scan (" ".intercalate texts) = tokens ++ [.endOfQuery] := by
  obtain ⟨lexemes, rest, hlaid, htokens⟩ :=
    exists_laidOut_intercalate h (show allBlank [] = true from rfl)
  have htext : (" ".intercalate texts).toList = [' '].intercalate (texts.map String.toList) :=
    String.toList_intercalate
  rw [List.nil_append, ← htext] at hlaid
  rw [← htokens]
  exact hlaid.collect_eq

/-- Reading a query loses nothing but blank characters, and its tokens are read back as they are when
they are written down again. The end of the query is the last token and stands nowhere else. The other
tokens are laid out in the query, where only parentheses may touch other tokens, and what is written of
them is the query without its blank characters. They are operators exactly where the upper case of what
is written is an operator, and their terms are runs that are no operators in any letter case. Joined by
single spaces, the terms and parentheses and the operators in any letter case have the same tokens. -/
theorem scan_loses_nothing_and_is_stable (query : String) :
    ∃ lexemes rest, LaidOut query.toList lexemes rest ∧
      scan query = lexemes.map Lexeme.token ++ [.endOfQuery] ∧
      .endOfQuery ∉ lexemes.map Lexeme.token ∧
      lexemes.flatMap Lexeme.text = query.toList.filter (fun c => !isBlank c) ∧
      (∀ l ∈ lexemes, ∀ operator ∈ operators,
        l.token = operator.2 ↔ toUpper (.ofList l.text) = operator.1) ∧
      (∀ raw, .term raw ∈ scan query → TermText raw) ∧
      ∀ texts : List String,
        List.Forall₂ Writes (lexemes.map Lexeme.token) (texts.map String.toList) →
          scan (" ".intercalate texts) = scan query := by
  obtain ⟨lexemes, rest, hlaid, hscan⟩ := exists_laidOut_scan query
  have hend : .endOfQuery ∉ lexemes.map Lexeme.token := by
    rw [List.mem_map]
    rintro ⟨l, hl, htoken⟩
    exact not_writes_endOfQuery l.text (htoken ▸ hlaid.writes l hl)
  refine ⟨lexemes, rest, hlaid, hscan, hend, hlaid.flatMap_text, ?_, ?_, ?_⟩
  · intro l hl operator hoperator
    exact (hlaid.writes l hl).eq_operator_iff hoperator
  · intro raw hraw
    rw [hscan, List.mem_append, List.mem_map] at hraw
    rcases hraw with ⟨l, hl, htoken⟩ | hraw
    · exact (htoken ▸ hlaid.writes l hl).termText
    · cases List.mem_singleton.mp hraw
  · intro texts htexts
    rw [scan_intercalate htexts, hscan]

/-- A query without gaps around its parentheses, written again with other gaps and other cases. -/
theorem scan_loses_nothing_and_is_stable_respelled :
    let tokens : List Token := [.term "Cat", .and, .lparen, .not, .term "band", .rparen]
    let texts := ["Cat", "aNd", "(", "NOT", "band", ")"]
    scan "Cat\tAND(not band)" = tokens ++ [.endOfQuery] ∧
      List.Forall₂ Writes tokens (texts.map String.toList) ∧
      scan (" ".intercalate texts) = scan "Cat\tAND(not band)" := by
  intro tokens texts
  have hscan : scan "Cat\tAND(not band)" = tokens ++ [.endOfQuery] := by decide +kernel
  obtain ⟨lexemes, rest, -, hlexemes, -, -, -, hterms, hstable⟩ :=
    scan_loses_nothing_and_is_stable "Cat\tAND(not band)"
  have htokens : lexemes.map Lexeme.token = tokens :=
    List.append_cancel_right (hlexemes.symm.trans hscan)
  have hterm : ∀ raw, .term raw ∈ tokens → Writes (.term raw) raw.toList := fun raw hraw =>
    .term (hterms raw (by rw [hscan]; exact List.mem_append_left _ hraw))
  have hand : InAnyCase "AND" "aNd".toList := by
    rw [← upper_eq_iff_inAnyCase (by decide)]
    decide +kernel
  have hnot : InAnyCase "NOT" "NOT".toList := by
    rw [← upper_eq_iff_inAnyCase (by decide)]
    decide +kernel
  have htexts : List.Forall₂ Writes tokens (texts.map String.toList) :=
    .cons (hterm "Cat" (by simp [tokens])) <| .cons (.operator (by decide) hand) <|
      .cons .lparen <| .cons (.operator (by decide) hnot) <|
      .cons (hterm "band" (by simp [tokens])) <| .cons .rparen .nil
  exact ⟨hscan, htexts, hstable texts (htokens ▸ htexts)⟩

end BooleanRetrieval.Token
