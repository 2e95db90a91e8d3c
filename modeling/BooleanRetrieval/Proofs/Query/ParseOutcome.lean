import BooleanRetrieval.Proofs.Query.Readers
import BooleanRetrieval.Proofs.Query.Scan
import Mathlib.Data.List.Basic

/-!
# What parsing a query comes to

Parsing ends in one of five ways, and the tokens of the query tell which (`Outcome`). It returns a
tree exactly for the sentences of the grammar whose terms all normalize to something, and then the
tree of the one derivation. Any refusal but that of nesting names the first problem from the left:
a token with which the query cannot be gone on with, or a term that normalizes to nothing.
-/

set_option autoImplicit false

namespace BooleanRetrieval.Parser

variable {normalize : String → String} {tokens : List Token}

/-- There is a problem at a place of a token list: with this token the list can no longer be extended
to a query, or the token is a term that normalizes to nothing. -/
def Problem (normalize : String → String) (tokens : List Token) (i : Nat) : Prop :=
  i < tokens.length ∧
    (¬ Viable (tokens.take (i + 1)) ∨
      ∃ raw, tokens[i]? = some (.term raw) ∧ Text.isBlankText (normalize raw) = true)

/-- The token at a place is the first problem and cannot stand there. -/
structure SyntaxProblem (normalize : String → String) (tokens : List Token) (i : Nat)
    (expected : List TokenKind) (found : Token) (lookahead : String) : Prop where
  found_eq : tokens[i]? = some found
  /-- What is before the token can be extended to a query. -/
  viable : Viable (tokens.take i)
  /-- With the token it no longer can. -/
  not_viable : ¬ Viable (tokens.take (i + 1))
  /-- If the query ends there, it is not complete. -/
  incomplete : found = .endOfQuery → ∀ p : Phrase .disjunction, p.tokens ≠ tokens.take i
  /-- All terms before the token normalize to something. -/
  terms : TermsKept normalize (tokens.take i)
  /-- The context is the text of the token and the next two. -/
  lookahead_eq : lookahead = " ".intercalate (((tokens.drop i).take 3).map Token.text)
  /-- Every token that was expected could stand there instead. -/
  expected : expected ≠ [] ∧ ∀ t : Token, t.kind ∈ expected → Viable (tokens.take i ++ [t])

/-- The token at a place is the first problem: a term that normalizes to nothing, where a term can
stand. -/
structure TermProblem (normalize : String → String) (tokens : List Token) (i : Nat)
    (raw : String) : Prop where
  term_eq : tokens[i]? = some (.term raw)
  blank : Text.isBlankText (normalize raw) = true
  /-- All terms before it normalize to something. -/
  terms : TermsKept normalize (tokens.take i)
  /-- What leads up to the term and the term itself can be extended to a query. -/
  viable : Viable (tokens.take (i + 1))

/-- Where the tokens before a place are viable and their terms kept, no earlier place is a
problem. -/
theorem not_problem_of_lt {i : Nat} (hviable : Viable (tokens.take i))
    (hterms : TermsKept normalize (tokens.take i)) : ∀ j < i, ¬ Problem normalize tokens j := by
  rintro j hj ⟨hlength, hproblem⟩
  rcases hproblem with hnot | ⟨raw, hraw, hblank⟩
  · refine hnot (hviable.of_extension ?_)
    exact List.take_prefix_take_left (by omega)
  · have hmem : .term raw ∈ tokens.take i :=
      List.mem_of_getElem? (by rw [List.getElem?_take_of_lt hj]; exact hraw)
    rw [hterms raw hmem] at hblank
    cases hblank

/-- What parsing a token list comes to. -/
inductive Outcome (normalize : String → String) (tokens : List Token) :
    Except ParseError Query → Prop where
  /-- The tokens are a whole query, and its terms are kept. -/
  | tree (p : Phrase .disjunction) (htokens : tokens = p.sentence)
      (hterms : TermsKept normalize tokens) : Outcome normalize tokens (.ok (p.tree normalize))
  /-- The end of the query is the only token. -/
  | empty (htokens : tokens = [.endOfQuery]) : Outcome normalize tokens (.error .empty)
  /-- Too many parentheses are open. -/
  | nesting : Outcome normalize tokens (.error .nesting)
  | invalidTerm {i : Nat} {raw : String} (h : TermProblem normalize tokens i raw) :
      Outcome normalize tokens (.error (.invalidTerm raw))
  | unexpected {i : Nat} {expected : List TokenKind} {found : Token} {lookahead : String}
      (hne : tokens ≠ [.endOfQuery])
      (h : SyntaxProblem normalize tokens i expected found lookahead) :
      Outcome normalize tokens (.error (.unexpected expected found lookahead))

/-- For each list of kinds there is a token of one of them. -/
theorem exists_kind_mem {expected : List TokenKind} (h : expected ≠ []) :
    ∃ t : Token, t.kind ∈ expected := by
  obtain ⟨kind, kinds, rfl⟩ := List.exists_cons_of_ne_nil h
  cases kind with
  | term => exact ⟨.term "", List.mem_cons_self⟩
  | and => exact ⟨.and, List.mem_cons_self⟩
  | or => exact ⟨.or, List.mem_cons_self⟩
  | not => exact ⟨.not, List.mem_cons_self⟩
  | lparen => exact ⟨.lparen, List.mem_cons_self⟩
  | rparen => exact ⟨.rparen, List.mem_cons_self⟩
  | endOfQuery => exact ⟨.endOfQuery, List.mem_cons_self⟩

/-- The refusal of a token is a problem at its place, if what is before it is in order. -/
theorem syntaxProblem_of_append {before rest : List Token} {expected : List TokenKind}
    {found : Token} (hterms : TermsKept normalize before)
    (hstuck : (Position.operand 0).walk (before ++ [found]) = none) (hexpected : expected ≠ [])
    (hopens : ∀ t : Token, t.kind ∈ expected → Viable (before ++ [t])) :
    SyntaxProblem normalize (before ++ found :: rest) before.length expected found
      (" ".intercalate (((found :: rest).take lookaheadTokens).map Token.text)) := by
  have htake : (before ++ found :: rest).take before.length = before := by simp
  have htake' : (before ++ found :: rest).take (before.length + 1) = before ++ [found] := by
    rw [List.append_cons]
    exact List.take_left' (by simp)
  have hnot : ¬ Viable (before ++ [found]) := not_viable_of_walk hstuck
  obtain ⟨t, ht⟩ := exists_kind_mem hexpected
  exact
    { found_eq := by simp
      viable := by
        rw [htake]
        exact (hopens t ht).of_extension (List.prefix_append _ _)
      not_viable := by rwa [htake']
      incomplete := by
        rintro rfl p hp
        rw [htake] at hp
        exact hnot (hp ▸ viable_sentence p)
      terms := by rwa [htake]
      lookahead_eq := by simp [lookaheadTokens]
      expected := by
        rw [htake]
        exact ⟨hexpected, hopens⟩ }

/-- Parsing reads a disjunction and wants nothing but the end of the query behind it. -/
theorem parseTokens_eq (limit : Nat) (tokens : List Token) :
    parseTokens normalize limit tokens =
      if tokens.headD .endOfQuery = .endOfQuery then .error .empty
      else (outcome (disjunction normalize limit) tokens).bind fun read =>
        if read.2.headD .endOfQuery = .endOfQuery then .ok read.1
        else .error (refuse [.endOfQuery] read.2) := by
  unfold parseTokens outcome
  split
  · rfl
  · cases disjunction normalize limit tokens with
    | error e => rfl
    | ok read => rfl

/-- A failure in a token list that ends the query is the outcome it describes. -/
theorem Fails.outcome {e : ParseError} (h : Fails normalize .disjunction tokens e)
    (hend : .endOfQuery ∈ tokens) (hne : tokens ≠ [.endOfQuery]) :
    Outcome normalize tokens (.error e) := by
  cases h with
  | nesting => exact .nesting
  | @invalidTerm before rest raw htokens hterms hblank hopens =>
    subst htokens
    refine .invalidTerm (i := before.length) ⟨by simp, hblank, by simpa using hterms, ?_⟩
    rw [List.append_cons, List.take_left' (by simp)]
    exact hopens.viable
  | @unexpected before rest expected htokens hterms hstuck hexpected hopens =>
    have hviable (t : Token) (ht : t.kind ∈ expected) : Viable (before ++ [t]) :=
      (hopens t ht).viable
    cases rest with
    | cons found tail =>
      subst htokens
      exact .unexpected hne (syntaxProblem_of_append hterms (hstuck 0) hexpected hviable)
    | nil =>
      -- all tokens would begin a disjunction, and the end of the query is not part of one
      obtain ⟨t, ht⟩ := exists_kind_mem hexpected
      obtain ⟨p, hp⟩ := hopens t ht
      rw [htokens, List.append_nil] at hend
      exact absurd (hp.subset (List.mem_append_left _ hend)) p.endOfQuery_notMem_tokens

/-- Parsing a token list that ends with the end of the query, wherever else it does not stand, comes
to one of the outcomes, whatever the limit of nesting. -/
theorem outcome_parseTokens (limit : Nat) {body : List Token} (hbody : .endOfQuery ∉ body) :
    Outcome normalize (body ++ [.endOfQuery])
      (parseTokens normalize limit (body ++ [.endOfQuery])) := by
  rw [parseTokens_eq]
  by_cases hempty : body = []
  · subst hempty
    exact .empty rfl
  · obtain ⟨token, rest, rfl⟩ := List.exists_cons_of_ne_nil hempty
    have hne : token ≠ .endOfQuery := fun heq => hbody (heq ▸ List.mem_cons_self)
    rw [if_neg (by simpa using hne)]
    have hread := takes_disjunction normalize limit (token :: rest ++ [.endOfQuery])
    generalize Parser.outcome (disjunction normalize limit) (token :: rest ++ [.endOfQuery]) = read
      at hread
    cases hread with
    | failure h => exact h.outcome (by simp) (by simp)
    | phrase p left htokens hterms hends =>
      -- behind the tree stands the end of the query, or a token that cannot go on with it
      cases left with
      | nil =>
        have hend : .endOfQuery ∈ p.tokens := by
          rw [← List.append_nil p.tokens, ← htokens]
          simp
        exact absurd hend p.endOfQuery_notMem_tokens
      | cons found tail =>
        by_cases hfound : found = .endOfQuery
        · subst hfound
          have hsame := (List.append_cons_inj_of_notMem hbody List.not_mem_nil).mp htokens
          refine .tree p (by rw [htokens, ← hsame.2.2]; rfl) ?_
          rw [htokens, ← hsame.2.2]
          exact termsKept_append.mpr ⟨hterms, termsKept_singleton rfl⟩
        · have hstuck : (Position.operand 0).walk (p.tokens ++ [found]) = none :=
            p.walk_stuck 0 hends hfound
          rw [Except.bind, if_neg (by simpa using hfound), htokens]
          refine .unexpected ?_ (syntaxProblem_of_append hterms hstuck (List.cons_ne_nil _ _) ?_)
          · rw [← htokens]
            simp
          · intro t ht
            obtain rfl : t = .endOfQuery := by
              cases t <;> simp [Token.kind] at ht ⊢
            exact viable_sentence p

/-- Parsing a query comes to one of the outcomes, whatever the limit of nesting. -/
theorem outcome_scan (normalize : String → String) (limit : Nat) (query : String) :
    Outcome normalize (Token.scan query) (parseTokens normalize limit (Token.scan query)) := by
  obtain ⟨body, hscan, hbody⟩ := Token.exists_scan_eq query
  rw [hscan]
  exact outcome_parseTokens limit hbody

/-- So does parsing a query under the limit that is set. -/
theorem outcome_parse (normalize : String → String) (query : String) :
    Outcome normalize (Token.scan query) (parse normalize query) :=
  outcome_scan normalize nestingLimit query

/-- A whole query whose terms are kept has no problem. -/
theorem not_problem_sentence {p : Phrase .disjunction} (htokens : tokens = p.sentence)
    (hterms : TermsKept normalize tokens) (i : Nat) : ¬ Problem normalize tokens i := by
  intro hproblem
  have hviable : Viable (tokens.take tokens.length) := by
    rw [List.take_length, htokens]
    exact viable_sentence p
  exact not_problem_of_lt hviable (by rwa [List.take_length]) i hproblem.1 hproblem

/-- A query without a token has its problem at the end. -/
theorem problem_endOfQuery : Problem normalize [.endOfQuery] 0 :=
  ⟨Nat.zero_lt_one, .inl (not_viable_of_walk rfl)⟩

/-- A syntax problem is a problem of the query. -/
theorem SyntaxProblem.problem {i : Nat} {expected : List TokenKind} {found : Token}
    {lookahead : String} (h : SyntaxProblem normalize tokens i expected found lookahead) :
    Problem normalize tokens i :=
  ⟨(List.getElem?_eq_some_iff.mp h.found_eq).1, .inl h.not_viable⟩

/-- A term that normalizes to nothing is a problem of the query. -/
theorem TermProblem.problem {i : Nat} {raw : String} (h : TermProblem normalize tokens i raw) :
    Problem normalize tokens i :=
  ⟨(List.getElem?_eq_some_iff.mp h.term_eq).1, .inr ⟨raw, h.term_eq, h.blank⟩⟩

/-- The tokens before a term that normalizes to nothing can be extended to a query. -/
theorem TermProblem.viable_before {i : Nat} {raw : String}
    (h : TermProblem normalize tokens i raw) : Viable (tokens.take i) :=
  h.viable.of_extension (List.take_prefix_take_left (Nat.le_succ i))

/-- A whole query whose terms are kept has the tree of its derivation, unless it is refused for nesting. -/
theorem Outcome.eq_tree {result : Except ParseError Query} (h : Outcome normalize tokens result)
    (hnesting : result ≠ .error .nesting) {p : Phrase .disjunction} (htokens : tokens = p.sentence)
    (hterms : TermsKept normalize tokens) : result = .ok (p.tree normalize) := by
  have hproblem := not_problem_sentence htokens hterms
  cases h with
  | tree q hq _ => rw [Phrase.sentence_injective (hq.symm.trans htokens)]
  | nesting => exact absurd rfl hnesting
  | empty hend => exact absurd (hend ▸ problem_endOfQuery) (hproblem 0)
  | invalidTerm h => exact absurd h.problem (hproblem _)
  | unexpected hne h => exact absurd h.problem (hproblem _)

/-- Whatever the limit of nesting, a query whose parentheses do not nest beyond it has a tree exactly if its
tokens are a sentence of the grammar in which every term normalizes to something; the tree is that of the
derivation, and there is one derivation only. -/
theorem parse_eq_ok_iff (normalize : String → String) (limit : Nat) (query : String)
    (hnesting : parseTokens normalize limit (Token.scan query) ≠ .error .nesting) :
    (∀ n : Query, parseTokens normalize limit (Token.scan query) = .ok n ↔
      ∃ p : Phrase .disjunction, p.sentence = Token.scan query ∧
        (∀ raw, .term raw ∈ Token.scan query → Text.isBlankText (normalize raw) = false) ∧
        n = p.tree normalize) ∧
    ∀ p q : Phrase .disjunction, p.sentence = Token.scan query → q.sentence = Token.scan query →
      p = q := by
  have houtcome := outcome_scan normalize limit query
  refine ⟨fun n => ⟨fun hparse => ?_, ?_⟩, ?_⟩
  · rw [hparse] at houtcome
    cases houtcome with
    | tree p htokens hterms => exact ⟨p, htokens.symm, hterms, rfl⟩
  · rintro ⟨p, hp, hterms, rfl⟩
    exact houtcome.eq_tree hnesting hp.symm hterms
  · intro p q hp hq
    exact Phrase.sentence_injective (hp.trans hq.symm)

/-- A query with parentheses has the tree of its only derivation. -/
theorem parse_eq_ok_iff_grouped :
    parse Text.normalize "NOT Cat AND (dog OR bird)" ≠ .error .nesting ∧
      ∃ p : Phrase .disjunction, p.sentence = Token.scan "NOT Cat AND (dog OR bird)" ∧
        (∀ raw, .term raw ∈ Token.scan "NOT Cat AND (dog OR bird)" →
          Text.isBlankText (Text.normalize raw) = false) ∧
        .and (.not (.term "cat")) (.or (.term "dog") (.term "bird")) = p.tree Text.normalize :=
  have hnesting : parse Text.normalize "NOT Cat AND (dog OR bird)" ≠ .error .nesting := by
    decide +kernel
  ⟨hnesting, ((parse_eq_ok_iff _ nestingLimit _ hnesting).1 _).mp (by decide +kernel)⟩

/-- Whatever the limit of nesting, parsing reports the first problem of a query whose parentheses do not nest
beyond it. The query is called empty exactly if its end is its only token. A token that is refused is the first
problem and cannot stand where it does, a term that is refused is the first problem and normalizes to nothing
where a term can stand. A query has a tree exactly if it has no problem, and there is no other way for
parsing to end. -/
theorem parse_reports_first_problem (normalize : String → String) (limit : Nat) (query : String)
    (hnesting : parseTokens normalize limit (Token.scan query) ≠ .error .nesting) :
    let result := parseTokens normalize limit (Token.scan query)
    (result = .error .empty ↔ Token.scan query = [.endOfQuery]) ∧
    (∀ expected found lookahead, result = .error (.unexpected expected found lookahead) →
      ∃ i, SyntaxProblem normalize (Token.scan query) i expected found lookahead ∧
        ∀ j < i, ¬ Problem normalize (Token.scan query) j) ∧
    (∀ raw, result = .error (.invalidTerm raw) →
      ∃ i, TermProblem normalize (Token.scan query) i raw ∧
        ∀ j < i, ¬ Problem normalize (Token.scan query) j) ∧
    ((∃ n, result = .ok n) ↔ ∀ i, ¬ Problem normalize (Token.scan query) i) ∧
    ((∃ n, result = .ok n) ∨ result = .error .empty ∨
      (∃ expected found lookahead, result = .error (.unexpected expected found lookahead)) ∨
      ∃ raw, result = .error (.invalidTerm raw)) := by
  intro result
  have houtcome : Outcome normalize (Token.scan query) result := outcome_scan normalize limit query
  change result ≠ .error .nesting at hnesting
  refine ⟨⟨fun hparse => ?_, fun hscan => ?_⟩, fun expected found lookahead hparse => ?_,
    fun raw hparse => ?_, ⟨?_, fun hproblem => ?_⟩, ?_⟩
  · rw [hparse] at houtcome
    cases houtcome with
    | empty htokens => exact htokens
  · unfold result
    rw [hscan]
    rfl
  · rw [hparse] at houtcome
    cases houtcome with
    | @unexpected i expected found lookahead hne h =>
      exact ⟨i, h, not_problem_of_lt h.viable h.terms⟩
  · rw [hparse] at houtcome
    cases houtcome with
    | @invalidTerm i raw h => exact ⟨i, h, not_problem_of_lt h.viable_before h.terms⟩
  · rintro ⟨n, hparse⟩
    rw [hparse] at houtcome
    cases houtcome with
    | tree p htokens hterms => exact not_problem_sentence htokens hterms
  · generalize result = r at houtcome hnesting
    cases houtcome with
    | tree p _ _ => exact ⟨_, rfl⟩
    | nesting => exact absurd rfl hnesting
    | empty htokens => exact absurd (htokens ▸ problem_endOfQuery) (hproblem 0)
    | invalidTerm h => exact absurd h.problem (hproblem _)
    | unexpected hne h => exact absurd h.problem (hproblem _)
  · generalize result = r at houtcome hnesting
    cases houtcome with
    | tree p _ _ => exact .inl ⟨_, rfl⟩
    | nesting => exact absurd rfl hnesting
    | empty _ => exact .inr (.inl rfl)
    | unexpected _ _ => exact .inr (.inr (.inl ⟨_, _, _, rfl⟩))
    | invalidTerm _ => exact .inr (.inr (.inr ⟨_, rfl⟩))

/-- A number where a group should be closed is refused as a token; as a term it would be in order. -/
theorem parse_reports_first_problem_unclosed :
    parse Text.normalize "cat AND (dog 7" ≠ .error .nesting ∧
      ∃ i, SyntaxProblem Text.normalize (Token.scan "cat AND (dog 7") i [.rparen] (.term "7")
          "7 EndOfQuery" ∧
        ∀ j < i, ¬ Problem Text.normalize (Token.scan "cat AND (dog 7") j :=
  have hnesting : parse Text.normalize "cat AND (dog 7" ≠ .error .nesting := by decide +kernel
  ⟨hnesting, (parse_reports_first_problem _ nestingLimit _ hnesting).2.1 _ _ _ (by decide +kernel)⟩

end BooleanRetrieval.Parser
