import BooleanRetrieval.Proofs.Query.Layout
import BooleanRetrieval.Proofs.Query.ParseOutcome
import BooleanRetrieval.Proofs.Query.StackMachine
import BooleanRetrieval.Proofs.Query.Truth
import Mathlib.Data.List.Infix

/-!
# How deep parentheses may nest

Parsing is refused for nesting only where parentheses are open beyond the limit. Negations, and operands
with signs between them, are read one after the other, and a phrase closes all parentheses it opens; so a
reader meets the limit only if the running depth of its tokens does (`neverNests_disjunction`). And a
refusal for nesting stays when a query is put into parentheses: what was read of the query is then read
again, with one parenthesis less to open (`shadows_disjunction`).
-/

set_option autoImplicit false

namespace BooleanRetrieval

/-! ## The running depth -/

namespace Token

/-- How many more parentheses a list of tokens opens than it closes. -/
def depth (tokens : List Token) : Int :=
  tokens.count .lparen - tokens.count .rparen

/-- No token has no depth. -/
@[simp] theorem depth_nil : depth [] = 0 := rfl

/-- The depths of two parts add up. -/
@[simp] theorem depth_append (front back : List Token) :
    depth (front ++ back) = depth front + depth back := by
  unfold depth
  rw [List.count_append, List.count_append]
  omega

/-- The depth of a list is that of its first token and of the rest. -/
theorem depth_cons (token : Token) (tokens : List Token) :
    depth (token :: tokens) = depth [token] + depth tokens :=
  depth_append [token] tokens

/-- The running depth of a list of tokens never exceeds a limit. -/
def Shallow (limit : Int) (tokens : List Token) : Prop :=
  ∀ front, front <+: tokens → depth front ≤ limit

instance (limit : Int) (tokens : List Token) : Decidable (Shallow limit tokens) :=
  decidable_of_iff (∀ front ∈ tokens.inits, depth front ≤ limit)
    (forall_congr' fun _ => imp_congr_left (List.mem_inits _ _))

/-- Tokens that open no parentheses are as shallow as can be. -/
theorem shallow_of_notMem {tokens : List Token} (h : .lparen ∉ tokens) (limit : Nat) :
    Shallow limit tokens := by
  intro front hfront
  have hcount : front.count .lparen = 0 := List.count_eq_zero.mpr (mt (hfront.subset ·) h)
  unfold depth
  omega

namespace Shallow

variable {limit : Int} {front tokens : List Token}

/-- Behind tokens that open some parentheses, as many less may be opened. -/
theorem behind (h : Shallow limit (front ++ tokens)) : Shallow (limit - depth front) tokens := by
  intro further hfurther
  have hdepth := h (front ++ further) ((List.prefix_append_right_inj front).mpr hfurther)
  rw [depth_append] at hdepth
  omega

/-- Behind a token the limit is less by its depth. -/
theorem of_cons {token : Token} (h : Shallow limit (token :: tokens)) :
    Shallow (limit - depth [token]) tokens :=
  @behind limit [token] tokens h

/-- Behind a front that closes what it opens the limit stays the same. -/
theorem behind_level (h : Shallow limit (front ++ tokens)) (hlevel : depth front = 0) :
    Shallow limit tokens := by
  have hbehind := h.behind
  rwa [hlevel, Int.sub_zero] at hbehind

end Shallow

end Token

open Token (depth Shallow)

/-- A phrase closes all parentheses that it opens. -/
theorem Phrase.depth_tokens {c : Category} (p : Phrase c) : depth p.tokens = 0 := by
  induction p with
  | disjunction first more ihf ihm => rw [tokens, Token.depth_append, ihf, ihm, Int.add_zero]
  | noDisjunct => rfl
  | disjunct next more ihn ihm => rw [tokens, Token.depth_cons, Token.depth_append, ihn, ihm]; rfl
  | conjunction first more ihf ihm => rw [tokens, Token.depth_append, ihf, ihm, Int.add_zero]
  | noConjunct => rfl
  | conjunct next more ihn ihm => rw [tokens, Token.depth_cons, Token.depth_append, ihn, ihm]; rfl
  | not operand ih => rw [tokens, Token.depth_cons, ih]; rfl
  | plain body ih => exact ih
  | term raw => rfl
  | group body ih => rw [tokens, Token.depth_cons, Token.depth_append, ih]; rfl

namespace Parser

variable {normalize : String → String}

/-! ## Shallow tokens are never refused for nesting -/

/-- A reader does not refuse tokens for nesting whose running depth keeps to a limit. -/
def NeverNests (limit : Int) (reader : Reader) : Prop :=
  ∀ tokens, Shallow limit tokens → outcome reader tokens ≠ .error .nesting

/-- A refusal names what was expected and is no refusal for nesting. -/
theorem refuse_ne_nesting (expected : List TokenKind) (tokens : List Token) :
    refuse expected tokens ≠ .nesting :=
  ParseError.noConfusion

/-- Below a negative limit no tokens are shallow, so any reader will do. -/
theorem neverNests_of_neg {limit : Int} (h : limit < 0) (reader : Reader) :
    NeverNests limit reader := by
  intro tokens hshallow
  have hnil := hshallow [] List.nil_prefix
  rw [Token.depth_nil] at hnil
  omega

/-- A failure in two steps is one of the steps. -/
theorem bind_ne_nesting {α β : Type} {read : Except ParseError α}
    {next : α → Except ParseError β} (h : read ≠ .error .nesting)
    (hnext : ∀ a, read = .ok a → next a ≠ .error .nesting) : read.bind next ≠ .error .nesting := by
  cases read with
  | error e => exact fun heq => h (congrArg _ (Except.error.inj heq))
  | ok a => exact hnext a rfl

/-- Closing a group does not refuse for nesting. -/
theorem closeGroup_ne_nesting (q : Query) (tokens : List Token) :
    closeGroup q tokens ≠ .error .nesting := by
  unfold closeGroup
  split
  · exact nofun
  · exact fun heq => refuse_ne_nesting _ _ (Except.error.inj heq)

/-- A factor opens one parenthesis before the inner reader goes on. -/
theorem neverNests_factor {limit : Int} {inner : Reader} (h : NeverNests (limit - 1) inner) :
    NeverNests limit (factor normalize inner) := by
  intro tokens hshallow
  cases tokens with
  | nil => simp [outcome, factor, Except.map, refuse]
  | cons token rest =>
    cases token with
    | term raw =>
      cases hblank : Text.isBlankText (normalize raw) <;> simp [outcome, factor, hblank, Except.map]
    | lparen =>
      rw [outcome_factor_lparen]
      exact bind_ne_nesting (h rest hshallow.of_cons) fun read _ => closeGroup_ne_nesting _ _
    | and | or | not | rparen | endOfQuery => simp [outcome, factor, Except.map, refuse]

/-- Negation signs open nothing. -/
theorem neverNests_negation {limit : Int} {operand : Reader} (h : NeverNests limit operand) :
    NeverNests limit (negation operand) := by
  intro tokens hshallow
  have hsigns : depth (tokens.takeWhile (· == .not)) = 0 := by
    have hnot : ∀ token ∈ tokens.takeWhile (· == .not), token = .not := fun token htoken =>
      beq_iff_eq.mp (List.all_eq_true.mp List.all_takeWhile token htoken)
    rw [List.eq_replicate_of_mem hnot, depth, List.count_replicate, List.count_replicate]
    rfl
  rw [← List.takeWhile_append_dropWhile (p := (· == .not)) (l := tokens)] at hshallow
  have hoperand := h _ (hshallow.behind_level hsigns)
  rw [outcome_negation]
  cases hread : outcome operand (tokens.dropWhile (· == .not)) with
  | error e => exact fun heq => hoperand (hread.trans heq)
  | ok read => exact nofun

section

variable {sign : Token} {join : Query → Query → Query} {c : Category} {value : Phrase c → Query}
  {reader : Reader} {limit : Int}

/-- The operands of a chain close what they open, so that none starts deeper than the first. -/
theorem chainOutcome_ne_nesting (htakes : Takes normalize value reader)
    (h : NeverNests limit reader) (hsign : depth [sign] = 0) (left : Query) {tokens : List Token}
    (hshallow : Shallow limit tokens) :
    chainOutcome sign join reader left tokens ≠ .error .nesting := by
  induction hlength : tokens.length using Nat.strongRecOn generalizing left tokens with
  | ind length ih =>
    by_cases hhead : tokens.head? = some sign
    · obtain ⟨rest, rfl⟩ := List.head?_eq_some_iff.mp hhead
      have hrest : Shallow limit rest := @Shallow.behind_level limit [sign] rest hshallow hsign
      rw [chainOutcome_sign]
      refine bind_ne_nesting (h rest hrest) fun read hread => ?_
      have htake := htakes rest
      rw [hread] at htake
      cases htake with
      | phrase p after htokens _ _ =>
        -- the operand closes what it opens, so that the chain goes on at the depth of its sign
        rw [htokens] at hrest
        refine ih after.length ?_ _ (hrest.behind_level p.depth_tokens) rfl
        rw [← hlength, htokens, List.length_cons, List.length_append]
        omega
    · rw [chainOutcome_of_ne left hhead]
      exact nofun

/-- A chain of operands does not refuse for nesting where one operand does not. -/
theorem neverNests_level (htakes : Takes normalize value reader) (h : NeverNests limit reader)
    (hsign : depth [sign] = 0) : NeverNests limit (level sign join reader) := by
  intro tokens hshallow
  rw [outcome_level]
  refine bind_ne_nesting (h tokens hshallow) fun read hread => ?_
  have htake := htakes tokens
  rw [hread] at htake
  cases htake with
  | phrase p rest htokens _ _ =>
    rw [htokens] at hshallow
    exact chainOutcome_ne_nesting htakes h hsign _ (hshallow.behind_level p.depth_tokens)

end

/-- An expression does not refuse for nesting where the expressions in its groups do not at one level less. -/
theorem neverNests_expression {limit : Int} {inner : Reader}
    (htakes : Takes normalize (Phrase.tree normalize (c := .disjunction)) inner)
    (h : NeverNests (limit - 1) inner) : NeverNests limit (expression normalize inner) :=
  have hnegation := takes_negation htakes
  neverNests_level (takes_level (conjunctionLayer normalize) hnegation)
    (neverNests_level hnegation (neverNests_negation (neverNests_factor h)) rfl) rfl

/-- The reader of disjunctions with some parentheses allowed refuses for nesting only tokens that open
more. -/
theorem neverNests_disjunction (normalize : String → String) (limit : Nat) :
    NeverNests limit (disjunction normalize limit) := by
  induction limit with
  | zero =>
    exact neverNests_expression (fun _ => .failure .nesting) (neverNests_of_neg (by decide) _)
  | succ limit ih =>
    refine neverNests_expression (takes_disjunction normalize limit) ?_
    have hlimit : ((limit + 1 : Nat) : Int) - 1 = limit := by omega
    rwa [hlimit]

/-- Tokens whose running depth keeps to the limit are not refused for nesting. -/
theorem parseTokens_ne_nesting {limit : Nat} {tokens : List Token} (h : Shallow limit tokens) :
    parseTokens normalize limit tokens ≠ .error .nesting := by
  rw [parseTokens_eq]
  split
  · exact nofun
  · refine bind_ne_nesting (neverNests_disjunction normalize limit tokens h) fun read _ => ?_
    split
    · exact nofun
    · exact fun heq => refuse_ne_nesting _ _ (Except.error.inj heq)

/-! ## Refusals for nesting in parentheses -/

/-- Where the inner reader refuses for nesting, so does the reader that opens a parenthesis first. -/
theorem outcome_expression_lparen {inner : Reader} {tokens : List Token}
    (h : outcome inner tokens = .error .nesting) :
    outcome (expression normalize inner) (.lparen :: tokens) = .error .nesting := by
  unfold expression
  rw [outcome_level, outcome_level, outcome_negation]
  change ((((outcome (factor normalize inner) (.lparen :: tokens)).map _).bind _).bind _) = _
  rw [outcome_factor_lparen, h]
  rfl

/-- More parentheses than the limit are refused, whatever is behind them. -/
theorem outcome_replicate_lparen (normalize : String → String) (limit : Nat) (rest : List Token) :
    outcome (disjunction normalize limit) (List.replicate (limit + 1) .lparen ++ rest) =
      .error .nesting := by
  induction limit with
  | zero => exact outcome_expression_lparen rfl
  | succ limit ih => exact outcome_expression_lparen ih

/-- What one reader comes to on a query, and what another comes to on the query with a parenthesis
behind it: if the first goes on or refuses for nesting, the second does so too, unless it refuses for
nesting itself. -/
inductive Shadow : Except ParseError (Query × List Token) →
    Except ParseError (Query × List Token) → Prop where
  | nesting {read : Except ParseError (Query × List Token)} : Shadow read (.error .nesting)
  | read (q : Query) (rest : List Token) :
      Shadow (.ok (q, rest ++ [.endOfQuery])) (.ok (q, rest ++ [.rparen, .endOfQuery]))
  | refused {e : ParseError} {read : Except ParseError (Query × List Token)} (h : e ≠ .nesting) :
      Shadow (.error e) read

/-- One reader on every query is shadowed by another on the query with a parenthesis behind it. -/
def Shadows (reader reader' : Reader) : Prop :=
  ∀ body, Shadow (outcome reader (body ++ [.endOfQuery]))
    (outcome reader' (body ++ [.rparen, .endOfQuery]))

/-- Shadowing goes through a sequence of two readings. -/
theorem Shadow.bind {read read' : Except ParseError (Query × List Token)} (h : Shadow read read')
    {next next' : Query × List Token → Except ParseError (Query × List Token)}
    (hnext : ∀ q rest, read = .ok (q, rest ++ [.endOfQuery]) →
      Shadow (next (q, rest ++ [.endOfQuery])) (next' (q, rest ++ [.rparen, .endOfQuery]))) :
    Shadow (read.bind next) (read'.bind next') := by
  cases h with
  | nesting => exact .nesting
  | read q rest => exact hnext q rest rfl
  | refused h => exact .refused h

/-- A refusal for nesting is shadowed by nothing but itself. -/
theorem Shadow.eq_nesting {read' : Except ParseError (Query × List Token)}
    (h : Shadow (.error .nesting) read') : read' = .error .nesting := by
  cases h with
  | nesting => rfl
  | refused h => exact absurd rfl h

/-- Closing a group is shadowed on the query with one more parenthesis behind it. -/
theorem shadow_closeGroup (q : Query) (rest : List Token) :
    Shadow (closeGroup q (rest ++ [.endOfQuery]))
      (closeGroup q (rest ++ [.rparen, .endOfQuery])) := by
  cases rest with
  | nil =>
    -- the second reader takes the new parenthesis for the missing one, but the first is refused
    exact .refused (refuse_ne_nesting _ _)
  | cons token rest =>
    cases token with
    | rparen => exact .read q rest
    | term raw => exact .refused (refuse_ne_nesting _ _)
    | and | or | not | lparen | endOfQuery => exact .refused (refuse_ne_nesting _ _)

/-- Factors are shadowed when the expressions in their groups are. -/
theorem shadows_factor {inner inner' : Reader} (h : Shadows inner inner') :
    Shadows (factor normalize inner) (factor normalize inner') := by
  intro body
  cases body with
  | nil => exact .refused (refuse_ne_nesting _ _)
  | cons token rest =>
    cases token with
    | term raw =>
      cases hblank : Text.isBlankText (normalize raw) with
      | true =>
        have hrefused : outcome (factor normalize inner) (.term raw :: rest ++ [.endOfQuery]) =
            .error (.invalidTerm raw) := by
          simp [outcome, factor, hblank, Except.map]
        rw [hrefused]
        exact .refused ParseError.noConfusion
      | false =>
        have hread : ∀ (inner : Reader) (rest : List Token),
            outcome (factor normalize inner) (.term raw :: rest) =
              .ok (.term (normalize raw), rest) := fun inner rest => by
          simp [outcome, factor, hblank, Except.map]
        rw [List.cons_append, List.cons_append, hread, hread]
        exact .read _ rest
    | lparen =>
      rw [List.cons_append, List.cons_append, outcome_factor_lparen, outcome_factor_lparen]
      exact (h rest).bind fun q rest _ => shadow_closeGroup q rest
    | and | or | not | rparen | endOfQuery => exact .refused (refuse_ne_nesting _ _)

/-- The negation signs in front of a list of tokens are not changed by what is put behind it. -/
theorem signs_append {back : List Token} (h : back.head? ≠ some .not) (body : List Token) :
    (body ++ back).takeWhile (· == .not) = body.takeWhile (· == .not) ∧
      (body ++ back).dropWhile (· == .not) = body.dropWhile (· == .not) ++ back := by
  induction body with
  | nil =>
    cases back with
    | nil => exact ⟨rfl, rfl⟩
    | cons token back =>
      have hne : token ≠ .not := fun heq => h (congrArg some heq)
      simp [hne]
  | cons token body ih =>
    obtain ⟨htake, hdrop⟩ := ih
    by_cases hnot : token = .not <;> simp [hnot, htake, hdrop]

/-- Negations are shadowed when their operands are. -/
theorem shadows_negation {operand operand' : Reader} (h : Shadows operand operand') :
    Shadows (negation operand) (negation operand') := by
  intro body
  obtain ⟨hsigns, hrest⟩ := @signs_append [.endOfQuery] (by simp) body
  obtain ⟨hsigns', hrest'⟩ := @signs_append [.rparen, .endOfQuery] (by simp) body
  rw [outcome_negation, outcome_negation, hsigns, hrest, hsigns', hrest']
  have hoperand := h (body.dropWhile (· == .not))
  generalize outcome operand _ = read at hoperand ⊢
  generalize outcome operand' _ = read' at hoperand ⊢
  cases hoperand with
  | nesting => exact .nesting
  | read q rest => exact .read _ rest
  | refused he => exact .refused he

/-- A reader that succeeds has taken a token. -/
theorem length_lt_of_outcome {reader : Reader} {tokens rest : List Token} {q : Query}
    (h : outcome reader tokens = .ok (q, rest)) : rest.length < tokens.length := by
  unfold outcome at h
  cases hread : reader tokens with
  | error e => rw [hread] at h; cases h
  | ok read =>
    rw [hread] at h
    have hval : read.val = (q, rest) := Except.ok.inj h
    have hshorter := read.property
    rwa [hval] at hshorter

section

variable {sign : Token} {join : Query → Query → Query} {reader reader' : Reader}

/-- Chains of operands are shadowed when the operands are. The sign must be neither of the tokens that stand at
the end. -/
theorem shadow_chainOutcome (h : Shadows reader reader') (hend : sign ≠ .endOfQuery)
    (hrparen : sign ≠ .rparen) (left : Query) (body : List Token) :
    Shadow (chainOutcome sign join reader left (body ++ [.endOfQuery]))
      (chainOutcome sign join reader' left (body ++ [.rparen, .endOfQuery])) := by
  induction hlength : body.length using Nat.strongRecOn generalizing left body with
  | ind length ih =>
    by_cases hsign : body.head? = some sign
    · obtain ⟨rest, rfl⟩ := List.head?_eq_some_iff.mp hsign
      rw [List.cons_append, List.cons_append, chainOutcome_sign, chainOutcome_sign]
      refine (h rest).bind fun q after hread => ih after.length ?_ _ after rfl
      have hshorter := length_lt_of_outcome hread
      simp only [List.length_append, List.length_cons] at hshorter hlength
      omega
    · have hother : ∀ {back : List Token}, back.head? ≠ some sign →
          (body ++ back).head? ≠ some sign := by
        intro back hback
        cases body with
        | nil => exact hback
        | cons token body => exact hsign
      rw [chainOutcome_of_ne left (hother (by simpa using hend.symm)),
        chainOutcome_of_ne left (hother (by simpa using hrparen.symm))]
      exact .read left body

/-- A level of the grammar is shadowed when its operands are. -/
theorem shadows_level (h : Shadows reader reader') (hend : sign ≠ .endOfQuery)
    (hrparen : sign ≠ .rparen) : Shadows (level sign join reader) (level sign join reader') := by
  intro body
  rw [outcome_level, outcome_level]
  exact (h body).bind fun q rest _ => shadow_chainOutcome h hend hrparen q rest

end

/-- Expressions are shadowed when the expressions in their groups are. -/
theorem shadows_expression {inner inner' : Reader} (h : Shadows inner inner') :
    Shadows (expression normalize inner) (expression normalize inner') :=
  shadows_level (shadows_level (shadows_negation (shadows_factor h)) (by decide) (by decide))
    (by decide) (by decide)

/-- With one parenthesis less allowed, a query that is refused for nesting is refused for it again,
whatever closes it. -/
theorem shadows_disjunction (normalize : String → String) (limit : Nat) :
    Shadows (disjunction normalize (limit + 1)) (disjunction normalize limit) := by
  induction limit with
  | zero => exact shadows_expression fun _ => .nesting
  | succ limit ih => exact shadows_expression ih

/-- Parsing is refused for nesting only while a disjunction is read. -/
theorem outcome_of_parseTokens_eq_nesting {limit : Nat} {tokens : List Token}
    (h : parseTokens normalize limit tokens = .error .nesting) :
    outcome (disjunction normalize limit) tokens = .error .nesting := by
  rw [parseTokens_eq] at h
  by_contra hread
  split at h
  · cases h
  · refine bind_ne_nesting hread (fun read _ => ?_) h
    split
    · exact nofun
    · exact fun heq => refuse_ne_nesting _ _ (Except.error.inj heq)

/-- Tokens that are refused for nesting are refused for it in parentheses, too. -/
theorem parseTokens_group {limit : Nat} {body : List Token}
    (h : parseTokens normalize limit (body ++ [.endOfQuery]) = .error .nesting) :
    parseTokens normalize limit (.lparen :: (body ++ [.rparen, .endOfQuery])) =
      .error .nesting := by
  have hread := outcome_of_parseTokens_eq_nesting h
  have hgroup : outcome (disjunction normalize limit)
      (.lparen :: (body ++ [.rparen, .endOfQuery])) = .error .nesting := by
    cases limit with
    | zero => exact outcome_expression_lparen rfl
    | succ limit =>
      -- the parenthesis takes one from the limit, and what is read behind it is a shadow
      have hshadow := shadows_disjunction normalize limit body
      rw [hread] at hshadow
      exact outcome_expression_lparen hshadow.eq_nesting
  rw [parseTokens_eq, hgroup]
  rfl

end Parser

/-- A closing parenthesis behind a query is read as one, and nothing before it is read in another
way. -/
theorem Token.collect_append_rparen (run : List Char) (tokens : List Token) (cs : List Char) :
    ∃ body, collect run tokens cs = body ++ [.endOfQuery] ∧
      collect run tokens (cs ++ [')']) = body ++ [.rparen, .endOfQuery] := by
  induction cs generalizing run tokens with
  | nil => exact ⟨(closeRun run tokens).reverse, by simp [collect], by simp [collect, closeRun]⟩
  | cons c cs ih =>
    rw [List.cons_append]
    unfold collect
    split
    · exact ih _ _
    · split
      · exact ih _ _
      · split
        · exact ih _ _
        · exact ih _ _

/-- The tokens of a query in parentheses. -/
theorem Token.exists_scan_group (query : String) :
    ∃ body, scan query = body ++ [.endOfQuery] ∧
      scan ("(" ++ query ++ ")") = .lparen :: (body ++ [.rparen, .endOfQuery]) := by
  obtain ⟨body, hscan, hclosed⟩ := collect_append_rparen [] [] query.toList
  refine ⟨body, hscan, ?_⟩
  have hchars : ("(" ++ query ++ ")").toList = '(' :: (query.toList ++ [')']) := by simp
  rw [scan, hchars, ← hclosed]
  exact collect_eq_append [] [.lparen] _

/-- A text of opening parentheses is scanned to as many tokens. -/
theorem Token.scan_replicate_lparen (count : Nat) :
    scan (String.ofList (List.replicate count '(')) =
      List.replicate count .lparen ++ [.endOfQuery] := by
  rw [scan, String.toList_ofList]
  induction count with
  | zero => rfl
  | succ count ih =>
    rw [List.replicate_succ, List.replicate_succ, List.cons_append, ← ih]
    exact collect_eq_append [] [.lparen] _

namespace Parser

/-- No limit of nesting is out of reach. -/
theorem parseTokens_replicate_lparen (normalize : String → String) (limit : Nat) :
    parseTokens normalize limit
        (Token.scan (String.ofList (List.replicate (limit + 1) '('))) = .error .nesting := by
  rw [Token.scan_replicate_lparen, parseTokens_eq, outcome_replicate_lparen]
  rfl

/-- Only parentheses can exhaust a parser that admits at least 150 of them at a time. A query that
never has more than 150 open, however long it is and however many signs stand in it, is never refused
for nesting: it has a tree, and that has an answer on every collection, or it is refused for one of the
other reasons. And a query that is refused for nesting is refused for it in parentheses, too. `parse`
is the parser that admits `nestingLimit` of them. -/
theorem parse_is_exhausted_by_parentheses_only (normalize : String → String) {limit : Nat}
    (hlimit : 150 ≤ limit) (query : String) :
    (Shallow 150 (Token.scan query) →
      (∃ q, parseTokens normalize limit (Token.scan query) = .ok q ∧
        ∀ accessor, ∃ documents, (Machine.answer accessor q).result = .ok documents) ∨
      parseTokens normalize limit (Token.scan query) = .error .empty ∨
      (∃ expected found lookahead, parseTokens normalize limit (Token.scan query) =
        .error (.unexpected expected found lookahead)) ∨
      ∃ raw, parseTokens normalize limit (Token.scan query) = .error (.invalidTerm raw)) ∧
    (parseTokens normalize limit (Token.scan query) = .error .nesting →
      parseTokens normalize limit (Token.scan ("(" ++ query ++ ")")) = .error .nesting) := by
  constructor
  · intro hshallow
    have hnesting : parseTokens normalize limit (Token.scan query) ≠ .error .nesting :=
      parseTokens_ne_nesting fun front hfront =>
        Int.le_trans (hshallow front hfront) (Int.ofNat_le.mpr hlimit)
    obtain ⟨body, hscan, hbody⟩ := Token.exists_scan_eq query
    have houtcome := @outcome_parseTokens normalize limit body hbody
    rw [← hscan] at houtcome
    generalize parseTokens normalize limit (Token.scan query) = result at hnesting houtcome
    cases houtcome with
    | tree p _ _ =>
      refine .inl ⟨_, rfl, fun accessor => ?_⟩
      rw [Machine.answer_eq]
      exact ⟨_, Query.result_eq_documents accessor (p.proper_tree normalize)⟩
    | empty _ => exact .inr (.inl rfl)
    | nesting => exact absurd rfl hnesting
    | unexpected _ _ => exact .inr (.inr (.inl ⟨_, _, _, rfl⟩))
    | invalidTerm _ => exact .inr (.inr (.inr ⟨_, rfl⟩))
  · intro hnesting
    obtain ⟨body, hscan, hgroup⟩ := Token.exists_scan_group query
    rw [hgroup]
    rw [hscan] at hnesting
    exact parseTokens_group hnesting

/-- A query with negations of negations is read. One parenthesis more than the limit is refused, in a
pair of parentheses as well. -/
theorem parse_is_exhausted_by_parentheses_only_chain :
    (Shallow 150 (Token.scan "NOT NOT (a AND NOT b) OR c") ∧
      ((∃ q, parse Text.normalize "NOT NOT (a AND NOT b) OR c" = .ok q ∧
          ∀ accessor, ∃ documents, (Machine.answer accessor q).result = .ok documents) ∨
        parse Text.normalize "NOT NOT (a AND NOT b) OR c" = .error .empty ∨
        (∃ expected found lookahead, parse Text.normalize "NOT NOT (a AND NOT b) OR c" =
          .error (.unexpected expected found lookahead)) ∨
        ∃ raw, parse Text.normalize "NOT NOT (a AND NOT b) OR c" =
          .error (.invalidTerm raw))) ∧
    150 ≤ nestingLimit ∧
    parse Text.normalize (String.ofList (List.replicate (nestingLimit + 1) '(')) =
      .error .nesting ∧
    parse Text.normalize ("(" ++ String.ofList (List.replicate (nestingLimit + 1) '(') ++ ")") =
      .error .nesting := by
  have hlimit : 150 ≤ nestingLimit := by decide
  have hshallow : Shallow 150 (Token.scan "NOT NOT (a AND NOT b) OR c") := by
    decide +kernel
  have hdeep : parse Text.normalize (String.ofList (List.replicate (nestingLimit + 1) '(')) =
      .error .nesting :=
    parseTokens_replicate_lparen Text.normalize nestingLimit
  exact ⟨⟨hshallow, (parse_is_exhausted_by_parentheses_only _ hlimit _).1 hshallow⟩, hlimit, hdeep,
    (parse_is_exhausted_by_parentheses_only _ hlimit _).2 hdeep⟩

end Parser

end BooleanRetrieval
