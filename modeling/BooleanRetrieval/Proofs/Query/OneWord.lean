import BooleanRetrieval.Proofs.Query.Layout
import BooleanRetrieval.Proofs.Query.ParseOutcome
import BooleanRetrieval.Proofs.Search.Meaning

/-!
# Queries of one word

A query without blank characters and parentheses is a single token. Unless it reads as an operator or
normalizes to nothing, its tree is the term of the word, and a search for it finds the documents of that
term (`Search.run_of_parse_term`).
-/

set_option autoImplicit false

namespace BooleanRetrieval

open Text (isBlankText toUpper)

/-! ## Tokens -/

namespace Token

/-- A query of one run is one token. -/
theorem scan_eq_of_standsInRun {query : String} (hne : query ≠ "")
    (h : ∀ c ∈ query.toList, StandsInRun c) :
    scan query = [ofRun query.toList, endOfQuery] := by
  have hwrites := (writes_ofRun (by simpa using hne) h).1
  have hread : collect [] [] (query.toList ++ []) = ofRun query.toList :: collect [] [] [] :=
    hwrites.collect_append fun _ => by simp [AtBoundary]
  rwa [List.append_nil] at hread

/-- A run that does not read as an operator is a term in its spelling. -/
theorem ofRun_eq_term {query : String} (h : toUpper query ∉ operatorTexts) :
    ofRun query.toList = .term query := by
  rcases ofRun_cases query.toList with ⟨word, hword, hupper⟩ | ⟨hterm, -⟩
  · refine absurd ?_ h
    rw [toUpper, hupper, String.ofList_toList]
    exact mem_operatorTexts hword
  · rw [hterm, String.ofList_toList]

end Token

/-! ## Trees -/

namespace Parser

variable {normalize : String → String} {raw : String}

/-- A word that normalizes to something is read as a term. -/
theorem outcome_factor_term (inner : Reader) (hterm : isBlankText (normalize raw) = false)
    (rest : List Token) :
    outcome (factor normalize inner) (.term raw :: rest) = .ok (.term (normalize raw), rest) := by
  unfold outcome factor
  simp [hterm, Except.map]

/-- A term in front of the end of a query is a whole disjunction. -/
theorem outcome_expression_term (inner : Reader) (hterm : isBlankText (normalize raw) = false) :
    outcome (expression normalize inner) [.term raw, .endOfQuery] =
      .ok (.term (normalize raw), [.endOfQuery]) := by
  have hnegation : outcome (negation (factor normalize inner)) [.term raw, .endOfQuery] =
      .ok (.term (normalize raw), [.endOfQuery]) := by
    rw [outcome_negation]
    change (outcome (factor normalize inner) [.term raw, .endOfQuery]).map _ = _
    rw [outcome_factor_term inner hterm]
    rfl
  have hconjunction : outcome (level .and .and (negation (factor normalize inner)))
      [.term raw, .endOfQuery] = .ok (.term (normalize raw), [.endOfQuery]) := by
    rw [outcome_level, hnegation]
    exact chainOutcome_of_ne _ (by simp)
  unfold expression
  rw [outcome_level, hconjunction]
  exact chainOutcome_of_ne _ (by simp)

/-- A query whose only token is a term has the tree of that term. -/
theorem parse_eq_term {query : String} (hscan : Token.scan query = [.term raw, .endOfQuery])
    (hterm : isBlankText (normalize raw) = false) :
    parse normalize query = .ok (.term (normalize raw)) := by
  unfold parse
  rw [hscan, parseTokens_eq, if_neg Token.noConfusion]
  change (outcome (expression normalize _) _).bind _ = _
  rw [outcome_expression_term _ hterm]
  rfl

end Parser

/-! ## Searches -/

section

variable {normalize : String → String} {query : String}

/-- The tree of a query of one word is the term of the word. -/
theorem Parser.parse_of_word (hne : query ≠ "") (hrun : ∀ c ∈ query.toList, Token.StandsInRun c)
    (hoperator : toUpper query ∉ Token.operatorTexts)
    (hterm : isBlankText (normalize query) = false) :
    parse normalize query = .ok (.term (normalize query)) := by
  refine parse_eq_term ?_ hterm
  rw [Token.scan_eq_of_standsInRun hne hrun, Token.ofRun_eq_term hoperator]

/-- A search for one word finds the documents of its term. -/
theorem Search.run_of_parse_term {t : String} (h : Parser.parse normalize query = .ok (.term t))
    (accessor : Accessor) :
    run normalize accessor query = .ok (accessor.documentsForTerm t) :=
  run_eq_ok h rfl

end

end BooleanRetrieval
