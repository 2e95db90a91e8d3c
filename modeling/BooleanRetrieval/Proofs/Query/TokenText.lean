import BooleanRetrieval.Proofs.Query.Operators

/-!
# How tokens are written

A token is written as a parenthesis, as an operator in any letter case, or as the spelling of a term
(`Token.Writes`). All but parentheses are runs of characters that are neither blank nor parentheses, and
every run writes exactly the token as which it is read (`Writes.run`, `writes_ofRun`).
-/

set_option autoImplicit false

namespace BooleanRetrieval.Token

open Text (isBlank toUpper)

/-- A character that neither separates tokens nor is one. -/
def StandsInRun (c : Char) : Prop :=
  c ≠ '(' ∧ c ≠ ')' ∧ isBlank c = false

instance (c : Char) : Decidable (StandsInRun c) :=
  inferInstanceAs (Decidable (_ ∧ _ ∧ _))

/-- A text that can be a term: a run of characters that is no operator in any letter case. -/
structure TermText (raw : String) : Prop where
  nonempty : raw ≠ ""
  run : ∀ c ∈ raw.toList, StandsInRun c
  not_operator : ∀ word ∈ operatorTexts, ¬ InAnyCase word raw.toList

/-- The operators with the words they are written as. -/
def operators : List (String × Token) :=
  [("AND", .and), ("OR", .or), ("NOT", .not)]

/-- A text writes a token. The end of a query is not written. -/
inductive Writes : Token → List Char → Prop where
  | lparen : Writes .lparen ['(']
  | rparen : Writes .rparen [')']
  | operator {word : String} {token : Token} {text : List Char}
      (hword : (word, token) ∈ operators) (hcase : InAnyCase word text) : Writes token text
  | term {raw : String} (h : TermText raw) : Writes (.term raw) raw.toList

/-- The tokens that need no gap around them. -/
def IsParenthesis (token : Token) : Prop :=
  token = .lparen ∨ token = .rparen

/-- The table of the operators has three rows. -/
theorem mem_operators_iff {word : String} {token : Token} :
    (word, token) ∈ operators ↔ word = "AND" ∧ token = .and ∨ word = "OR" ∧ token = .or ∨
      word = "NOT" ∧ token = .not := by
  simp [operators]

/-- A word of the table is the text of an operator. -/
theorem mem_operatorTexts {word : String} {token : Token} (h : (word, token) ∈ operators) :
    word ∈ operatorTexts :=
  List.mem_map_of_mem (f := Prod.fst) h

/-- The token of a row tells its word. -/
theorem eq_of_mem_operators {word word' : String} {token : Token} (h : (word, token) ∈ operators)
    (h' : (word', token) ∈ operators) : word = word' := by
  rcases mem_operators_iff.mp h with ⟨rfl, rfl⟩ | ⟨rfl, rfl⟩ | ⟨rfl, rfl⟩ <;>
    simpa [mem_operators_iff, eq_comm] using h'

/-- A run is an operator if its upper case is that of one, and else a term. -/
theorem ofRun_cases (run : List Char) :
    (∃ word, (word, ofRun run) ∈ operators ∧ Text.upper run = word.toList) ∨
      ofRun run = .term (.ofList run) ∧ ∀ word ∈ operatorTexts, Text.upper run ≠ word.toList := by
  unfold ofRun
  dsimp only
  split
  · next hand => exact .inl ⟨"AND", by decide, hand⟩
  · next hand =>
    split
    · next hor => exact .inl ⟨"OR", by decide, hor⟩
    · next hor =>
      split
      · next hnot => exact .inl ⟨"NOT", by decide, hnot⟩
      · next hnot =>
        refine .inr ⟨rfl, ?_⟩
        simp only [operatorTexts, List.forall_mem_cons]
        exact ⟨hand, hor, hnot, List.forall_mem_nil _⟩

/-- A run whose upper-case form is the word of an operator is that operator. -/
theorem ofRun_of_upper {word : String} {token : Token} {run : List Char}
    (hword : (word, token) ∈ operators) (hupper : Text.upper run = word.toList) :
    ofRun run = token := by
  unfold ofRun
  rw [hupper]
  rcases mem_operators_iff.mp hword with ⟨rfl, rfl⟩ | ⟨rfl, rfl⟩ | ⟨rfl, rfl⟩ <;> rfl

/-- The letters of the operators stand in runs, in both letter cases. -/
theorem standsInRun_operatorLetters :
    Text.operatorLetters.Forall fun u => StandsInRun u ∧ StandsInRun u.toLower := by
  decide

/-- An operator in any letter case is a run. -/
theorem InAnyCase.standsInRun {word : String} {text : List Char} (h : InAnyCase word text)
    (hword : word ∈ operatorTexts) : ∀ c ∈ text, StandsInRun c := by
  have hletters := mem_operatorLetters_of_mem hword
  unfold InAnyCase at h
  generalize word.toList = letters at h hletters
  induction h with
  | nil => exact List.forall_mem_nil _
  | cons hcase _ ih =>
    obtain ⟨hletter, hletters⟩ := List.forall_mem_cons.mp hletters
    refine List.forall_mem_cons.mpr ⟨?_, ih hletters⟩
    obtain ⟨hcapital, hsmall⟩ :=
      List.forall_iff_forall_mem.mp standsInRun_operatorLetters _ hletter
    rcases hcase with rfl | rfl
    · exact hcapital
    · exact hsmall

/-- What is not written as a parenthesis is written as a run, and the run is read as the token. -/
theorem Writes.run {token : Token} {text : List Char} (h : Writes token text)
    (hrun : ¬ token.IsParenthesis) :
    text ≠ [] ∧ (∀ c ∈ text, StandsInRun c) ∧ ofRun text = token := by
  cases h with
  | lparen => exact absurd (.inl rfl) hrun
  | rparen => exact absurd (.inr rfl) hrun
  | @operator word _ _ hword hcase =>
    have hmem := mem_operatorTexts hword
    have hupper := (upper_eq_iff_inAnyCase hmem).mpr hcase
    refine ⟨?_, hcase.standsInRun hmem, ofRun_of_upper hword hupper⟩
    rintro rfl
    rcases mem_operators_iff.mp hword with ⟨rfl, -⟩ | ⟨rfl, -⟩ | ⟨rfl, -⟩ <;> cases hupper
  | @term raw h =>
    refine ⟨by simpa using h.nonempty, h.run, ?_⟩
    rcases ofRun_cases raw.toList with ⟨word, hword, hupper⟩ | ⟨hterm, -⟩
    · have hmem := mem_operatorTexts hword
      exact absurd ((upper_eq_iff_inAnyCase hmem).mp hupper) (h.not_operator word hmem)
    · rw [hterm, String.ofList_toList]

/-- Every run writes the token as which it is read. -/
theorem writes_ofRun {run : List Char} (hne : run ≠ []) (hrun : ∀ c ∈ run, StandsInRun c) :
    Writes (ofRun run) run ∧ ¬ (ofRun run).IsParenthesis := by
  rcases ofRun_cases run with ⟨word, hword, hupper⟩ | ⟨hterm, hother⟩
  · refine ⟨.operator hword ((upper_eq_iff_inAnyCase (mem_operatorTexts hword)).mp hupper), ?_⟩
    rcases mem_operators_iff.mp hword with ⟨-, htoken⟩ | ⟨-, htoken⟩ | ⟨-, htoken⟩ <;>
      simp [IsParenthesis, htoken]
  · rw [hterm]
    have hraw : TermText (.ofList run) :=
      { nonempty := by simpa using hne
        run := by rwa [String.toList_ofList]
        not_operator := fun word hword hcase => by
          rw [String.toList_ofList] at hcase
          exact hother word hword ((upper_eq_iff_inAnyCase hword).mpr hcase) }
    refine ⟨?_, by simp [IsParenthesis]⟩
    simpa only [String.toList_ofList] using Writes.term hraw

/-- A text of a parenthesis is that parenthesis. -/
theorem Writes.eq_of_isParenthesis {token : Token} {text : List Char} (h : Writes token text)
    (hparenthesis : token.IsParenthesis) :
    token = .lparen ∧ text = ['('] ∨ token = .rparen ∧ text = [')'] := by
  cases h with
  | lparen => exact .inl ⟨rfl, rfl⟩
  | rparen => exact .inr ⟨rfl, rfl⟩
  | operator hword =>
    rcases mem_operators_iff.mp hword with ⟨-, rfl⟩ | ⟨-, rfl⟩ | ⟨-, rfl⟩ <;>
      simp [IsParenthesis] at hparenthesis
  | term => simp [IsParenthesis] at hparenthesis

/-- The text of a token is not empty. -/
theorem Writes.ne_nil {token : Token} {text : List Char} (h : Writes token text) : text ≠ [] := by
  by_cases hparenthesis : token.IsParenthesis
  · rcases h.eq_of_isParenthesis hparenthesis with ⟨-, rfl⟩ | ⟨-, rfl⟩ <;>
      exact List.cons_ne_nil _ _
  · exact (h.run hparenthesis).1

/-- The text of a token has no blank character. -/
theorem Writes.not_isBlank {token : Token} {text : List Char} (h : Writes token text) :
    ∀ c ∈ text, isBlank c = false := by
  by_cases hparenthesis : token.IsParenthesis
  · rcases h.eq_of_isParenthesis hparenthesis with ⟨-, rfl⟩ | ⟨-, rfl⟩
    all_goals
      intro c hc
      rw [List.mem_singleton.mp hc]
      rfl
  · exact fun c hc => ((h.run hparenthesis).2.1 c hc).2.2

/-- What is written is an operator exactly if its upper case is that of the operator. -/
theorem Writes.eq_operator_iff {token operator : Token} {word : String} {text : List Char}
    (h : Writes token text) (hword : (word, operator) ∈ operators) :
    token = operator ↔ toUpper (.ofList text) = word := by
  have hupper : toUpper (.ofList text) = word ↔ Text.upper text = word.toList := by
    rw [toUpper, String.toList_ofList, ← String.toList_inj, String.toList_ofList]
  rw [hupper]
  by_cases hparenthesis : token.IsParenthesis
  · refine iff_of_false ?_ fun heq => ?_
    · rintro rfl
      rcases mem_operators_iff.mp hword with ⟨-, rfl⟩ | ⟨-, rfl⟩ | ⟨-, rfl⟩ <;>
        simp [IsParenthesis] at hparenthesis
    · have hmem := mem_operatorTexts hword
      have hrun := ((upper_eq_iff_inAnyCase hmem).mp heq).standsInRun hmem
      rcases h.eq_of_isParenthesis hparenthesis with ⟨-, rfl⟩ | ⟨-, rfl⟩ <;>
        simp [StandsInRun] at hrun
  · obtain ⟨-, -, rfl⟩ := h.run hparenthesis
    refine ⟨?_, ofRun_of_upper hword⟩
    rintro rfl
    rcases ofRun_cases text with ⟨word', hword', heq⟩ | ⟨hterm, -⟩
    · rw [heq, eq_of_mem_operators hword hword']
    · simp [mem_operators_iff, hterm] at hword

/-- No text writes the end of the query. -/
theorem not_writes_endOfQuery (text : List Char) : ¬ Writes .endOfQuery text := by
  rintro (_ | _ | ⟨hword, -⟩)
  simp [mem_operators_iff] at hword

/-- A text that writes a term is the text of a term. -/
theorem Writes.termText {raw : String} {text : List Char} (h : Writes (.term raw) text) :
    TermText raw := by
  cases h with
  | operator hword => simp [mem_operators_iff] at hword
  | term h => exact h

end BooleanRetrieval.Token
