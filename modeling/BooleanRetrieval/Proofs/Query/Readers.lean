import BooleanRetrieval.Proofs.Query.ViablePrefix

/-!
# What the readers of a query do

A reader of a category takes a phrase from the front of its tokens and returns the tree of the phrase,
or it fails for a reason that is in the tokens: a term that normalizes to nothing, or a token that
cannot stand where it does, while everything before it is in order. Each reader of the library is
shown to be a reader of its category in this sense, from the same fact about the readers it is made
of; for the readers in parentheses this is an induction on how many may be open.
-/

set_option autoImplicit false

namespace BooleanRetrieval.Parser

variable {normalize : String → String}

/-- Every term of a token list normalizes to something. -/
def TermsKept (normalize : String → String) (tokens : List Token) : Prop :=
  ∀ raw, .term raw ∈ tokens → Text.isBlankText (normalize raw) = false

/-- The terms of a list are kept when those of its parts are. -/
theorem termsKept_append {front back : List Token} :
    TermsKept normalize (front ++ back) ↔
      TermsKept normalize front ∧ TermsKept normalize back := by
  simp only [TermsKept, List.mem_append]
  constructor
  · intro h
    exact ⟨fun raw hraw => h raw (.inl hraw), fun raw hraw => h raw (.inr hraw)⟩
  · rintro ⟨hfront, hback⟩ raw (hraw | hraw)
    · exact hfront raw hraw
    · exact hback raw hraw

/-- A token that is no term keeps the terms. -/
theorem termsKept_singleton {token : Token} (h : token.value? = none) :
    TermsKept normalize [token] := by
  intro raw hraw
  obtain rfl := List.mem_singleton.mp hraw
  cases h

/-- No token keeps the terms. -/
theorem termsKept_nil : TermsKept normalize [] := by
  intro raw hraw
  cases hraw

/-- How reading a phrase of a category fails. -/
inductive Fails (normalize : String → String) (c : Category) (tokens : List Token) :
    ParseError → Prop where
  /-- Too many parentheses are open. -/
  | nesting : Fails normalize c tokens .nesting
  /-- A term normalizes to nothing; it begins a phrase together with what is before it. -/
  | invalidTerm {before rest : List Token} {raw : String}
      (htokens : tokens = before ++ .term raw :: rest) (hterms : TermsKept normalize before)
      (hblank : Text.isBlankText (normalize raw) = true)
      (hopens : c.Opens (before ++ [.term raw])) : Fails normalize c tokens (.invalidTerm raw)
  /-- A token leads nowhere, at any depth; with a token that was expected instead, what is before it
  begins a phrase. -/
  | unexpected {before rest : List Token} {expected : List TokenKind}
      (htokens : tokens = before ++ rest) (hterms : TermsKept normalize before)
      (hstuck : ∀ depth,
        (Position.operand depth).walk (before ++ [rest.headD .endOfQuery]) = none)
      (hexpected : expected ≠ [])
      (hopens : ∀ t : Token, t.kind ∈ expected → c.Opens (before ++ [t])) :
      Fails normalize c tokens (refuse expected rest)

/-- A front of a phrase of one category behind which a phrase of another category is due. -/
structure Front (normalize : String → String) (inner outer : Category) (front : List Token) :
    Prop where
  terms : TermsKept normalize front
  walk : ∀ depth, ∃ deeper, (Position.operand depth).walk front = some (.operand deeper)
  opens : ∀ tokens, inner.Opens tokens → outer.Opens (front ++ tokens)

/-- A failure behind a front is a failure of the whole. -/
theorem Fails.behind {inner outer : Category} {front tokens : List Token} {e : ParseError}
    (h : Fails normalize inner tokens e) (hfront : Front normalize inner outer front) :
    Fails normalize outer (front ++ tokens) e := by
  cases h with
  | nesting => exact .nesting
  | invalidTerm htokens hterms hblank hopens =>
    refine .invalidTerm (by rw [htokens, List.append_assoc])
      (termsKept_append.mpr ⟨hfront.terms, hterms⟩) hblank ?_
    rw [List.append_assoc]
    exact hfront.opens _ hopens
  | unexpected htokens hterms hstuck hexpected hopens =>
    refine .unexpected (by rw [htokens, List.append_assoc])
      (termsKept_append.mpr ⟨hfront.terms, hterms⟩) (fun depth => ?_) hexpected fun t ht => ?_
    · obtain ⟨deeper, hdeeper⟩ := hfront.walk depth
      rw [List.append_assoc, Position.walk_append, hdeeper]
      exact hstuck deeper
    · rw [List.append_assoc]
      exact hfront.opens _ (hopens t ht)

/-- What reading a phrase of a category comes to. -/
inductive Reading (normalize : String → String) {c : Category} (value : Phrase c → Query)
    (tokens : List Token) : Except ParseError (Query × List Token) → Prop where
  /-- A phrase is taken from the front, and what is left does not go on with it. -/
  | phrase (p : Phrase c) (rest : List Token) (htokens : tokens = p.tokens ++ rest)
      (hterms : TermsKept normalize p.tokens) (hends : c.EndsBefore rest) :
      Reading normalize value tokens (.ok (value p, rest))
  /-- There is no phrase at the front, or not one in order. -/
  | failure {e : ParseError} (h : Fails normalize c tokens e) :
      Reading normalize value tokens (.error e)

/-- What a reader returns, without the bound on what it leaves. -/
def outcome (reader : Reader) (tokens : List Token) : Except ParseError (Query × List Token) :=
  (reader tokens).map Subtype.val

/-- A reader takes the phrases of a category. -/
def Takes (normalize : String → String) {c : Category} (value : Phrase c → Query)
    (reader : Reader) : Prop :=
  ∀ tokens, Reading normalize value tokens (outcome reader tokens)

/-! ## Factors -/

/-- What is left behind a group, which must be closed. -/
def closeGroup (q : Query) : List Token → Except ParseError (Query × List Token)
  | .rparen :: rest => .ok (q, rest)
  | rest => .error (refuse [.rparen] rest)

/-- A factor that begins with a parenthesis is what the inner reader reads, closed. -/
theorem outcome_factor_lparen (inner : Reader) (rest : List Token) :
    outcome (factor normalize inner) (.lparen :: rest) =
      (outcome inner rest).bind fun read => closeGroup read.1 read.2 := by
  unfold outcome
  rw [factor]
  cases hinner : inner rest with
  | error e => rfl
  | ok read =>
    obtain ⟨⟨q, rest'⟩, hread⟩ := read
    cases rest' with
    | nil => rfl
    | cons token tail => cases token <;> rfl

/-- An opening parenthesis is a front of a factor, with a disjunction due behind it. -/
theorem front_lparen : Front normalize .disjunction .factor [.lparen] where
  terms := termsKept_singleton rfl
  walk depth := ⟨depth + 1, rfl⟩
  opens := by
    rintro tokens ⟨p, back, hp⟩
    exact ⟨.group p, back ++ [.rparen], by simp [Phrase.tokens, ← hp]⟩

/-- A term or a parenthesis begins a factor. -/
theorem opens_factor {t : Token} (h : t.kind ∈ [TokenKind.term, TokenKind.lparen]) :
    Category.Opens .factor [t] := by
  have hbody (raw : String) : Phrase .disjunction :=
    .disjunction (.conjunction (.plain (.term raw)) .noConjunct) .noDisjunct
  cases t with
  | term raw => exact ⟨.term raw, List.prefix_refl _⟩
  | lparen => exact ⟨.group (hbody ""), List.prefix_append [Token.lparen] _⟩
  | and | or | not | rparen | endOfQuery => simp [Token.kind] at h

/-- Where a factor is due, a token that begins none is refused. -/
theorem fails_factor {tokens : List Token}
    (h : ∀ depth, (Position.operand depth).walk [tokens.headD .endOfQuery] = none) :
    Fails normalize .factor tokens (refuse [.term, .lparen] tokens) :=
  .unexpected (show tokens = [] ++ tokens from rfl) termsKept_nil h (List.cons_ne_nil _ _)
    fun _ => opens_factor

/-- What is left behind a disjunction in parentheses either closes the group or is refused. -/
theorem reading_closeGroup (body : Phrase .disjunction) (rest : List Token)
    (hterms : TermsKept normalize body.tokens) (hends : Category.EndsBefore .disjunction rest) :
    Reading normalize (Phrase.tree normalize (c := .factor)) (.lparen :: (body.tokens ++ rest))
      (closeGroup (body.tree normalize) rest) := by
  have hopen : TermsKept normalize (.lparen :: body.tokens) :=
    termsKept_append.mpr ⟨front_lparen.terms, hterms⟩
  by_cases hclose : rest.head? = some .rparen
  · obtain ⟨tail, rfl⟩ := List.head?_eq_some_iff.mp hclose
    refine .phrase (.group body) tail (by simp [Phrase.tokens]) ?_
      (by simp [Category.EndsBefore, Category.signs])
    exact termsKept_append.mpr ⟨hopen, termsKept_singleton rfl⟩
  · have hrefuse : closeGroup (body.tree normalize) rest = .error (refuse [.rparen] rest) := by
      cases rest with
      | nil => rfl
      | cons token tail => cases token <;> first | rfl | exact absurd rfl hclose
    have hne : rest.headD .endOfQuery ≠ .rparen := by
      cases rest with
      | nil => exact Token.noConfusion
      | cons token tail => exact fun h => hclose (by rw [← h]; rfl)
    rw [hrefuse]
    refine .failure (.unexpected (List.cons_append).symm hopen (fun depth => ?_)
      (List.cons_ne_nil _ _) fun t ht => ?_)
    · exact body.walk_stuck (depth + 1) hends hne
    · obtain rfl : t = .rparen := by
        cases t <;> simp [Token.kind] at ht ⊢
      exact ⟨.group body, List.prefix_refl _⟩

/-- The reader of factors takes factors where no negation sign stands, if the inner reader takes
disjunctions. -/
theorem reading_factor {inner : Reader}
    (hinner : Takes normalize (Phrase.tree normalize (c := .disjunction)) inner)
    {tokens : List Token} (hnot : tokens.head? ≠ some .not) :
    Reading normalize (Phrase.tree normalize (c := .factor)) tokens
      (outcome (factor normalize inner) tokens) := by
  cases tokens with
  | nil => exact .failure (fails_factor fun _ => rfl)
  | cons token rest =>
    cases token with
    | term raw =>
      cases hblank : Text.isBlankText (normalize raw) with
      | true =>
        have hout : outcome (factor normalize inner) (.term raw :: rest) =
            .error (.invalidTerm raw) := by
          simp [outcome, factor, hblank, Except.map]
        rw [hout]
        exact .failure (.invalidTerm (List.nil_append _).symm termsKept_nil hblank
          ⟨.term raw, List.prefix_refl _⟩)
      | false =>
        have hout : outcome (factor normalize inner) (.term raw :: rest) =
            .ok (.term (normalize raw), rest) := by
          simp [outcome, factor, hblank, Except.map]
        rw [hout]
        refine .phrase (.term raw) rest rfl ?_ (by simp [Category.EndsBefore, Category.signs])
        intro raw' hraw
        obtain rfl := Token.term.inj (List.mem_singleton.mp hraw)
        exact hblank
    | lparen =>
      rw [outcome_factor_lparen]
      have hread := hinner rest
      generalize outcome inner rest = read at hread
      cases hread with
      | failure h => exact .failure (h.behind front_lparen)
      | phrase body rest' htokens hterms hends =>
        rw [htokens]
        exact reading_closeGroup body rest' hterms hends
    | not => exact absurd rfl hnot
    | and | or | rparen | endOfQuery => exact .failure (fails_factor fun _ => rfl)

/-! ## Negations -/

/-- A negation is what the operand's reader reads behind the negation signs, under as many
negations. -/
theorem outcome_negation (operand : Reader) (tokens : List Token) :
    outcome (negation operand) tokens =
      (outcome operand (tokens.dropWhile (· == .not))).map fun read =>
        (negate (tokens.takeWhile (· == .not)).length read.1, read.2) := by
  unfold outcome negation
  cases operand (tokens.dropWhile (· == .not)) with
  | error e => rfl
  | ok read => rfl

/-- A negation sign is a front of a negation, with a negation due behind it. -/
theorem front_not : Front normalize .negation .negation [.not] where
  terms := termsKept_singleton rfl
  walk depth := ⟨depth, rfl⟩
  opens := by
    rintro tokens ⟨p, back, hp⟩
    exact ⟨.not p, back, by simp [Phrase.tokens, ← hp]⟩

/-- Nothing at all is a front of a negation, with a factor due behind it. -/
theorem front_plain : Front normalize .factor .negation [] where
  terms := termsKept_nil
  walk depth := ⟨depth, rfl⟩
  opens := by
    rintro tokens ⟨p, hp⟩
    exact ⟨.plain p, hp⟩

/-- Reading a negation behind a negation sign reads its negation. -/
theorem reading_not {rest : List Token} {read : Except ParseError (Query × List Token)}
    (h : Reading normalize (Phrase.tree normalize (c := .negation)) rest read) :
    Reading normalize (Phrase.tree normalize (c := .negation)) (.not :: rest)
      (read.map fun read => (.not read.1, read.2)) := by
  cases h with
  | failure h => exact .failure (h.behind front_not)
  | phrase p rest' htokens hterms hends =>
    exact .phrase (.not p) rest' (by rw [htokens]; rfl)
      (termsKept_append.mpr ⟨front_not.terms, hterms⟩) hends

/-- The reader of negations takes negations, if the inner reader takes disjunctions. -/
theorem takes_negation {inner : Reader}
    (hinner : Takes normalize (Phrase.tree normalize (c := .disjunction)) inner) :
    Takes normalize (Phrase.tree normalize (c := .negation))
      (negation (factor normalize inner)) := by
  intro tokens
  rw [outcome_negation]
  induction tokens with
  | nil =>
    have hfails : Fails normalize .factor [] (refuse [.term, .lparen] []) :=
      fails_factor fun _ => rfl
    exact .failure (hfails.behind front_plain)
  | cons token rest ih =>
    by_cases hnot : token = .not
    · subst hnot
      rw [List.dropWhile_cons_of_pos rfl, List.takeWhile_cons_of_pos rfl, List.length_cons]
      have hstep := reading_not ih
      generalize outcome (factor normalize inner) (rest.dropWhile (· == .not)) = read at hstep ⊢
      cases read with
      | error e => exact hstep
      | ok read => exact hstep
    · rw [List.dropWhile_cons_of_neg (by simpa using hnot),
        List.takeWhile_cons_of_neg (by simpa using hnot)]
      have hhead : (token :: rest).head? ≠ some .not := by simpa using hnot
      have hread := reading_factor hinner hhead
      generalize outcome (factor normalize inner) (token :: rest) = read at hread
      cases hread with
      | failure h => exact .failure (h.behind front_plain)
      | phrase p rest' htokens hterms hends =>
        exact .phrase (.plain p) rest' htokens hterms hends

/-! ## Operands with a sign between them -/

/-- The tokens of operands that each stand behind a sign. -/
def repeated {c : Category} (sign : Token) (more : List (Phrase c)) : List Token :=
  more.flatMap fun p => sign :: p.tokens

/-- What a chain of operands returns, without the bound on what it leaves. -/
def chainOutcome (sign : Token) (join : Query → Query → Query) (operand : Reader) (left : Query)
    (tokens : List Token) : Except ParseError (Query × List Token) :=
  (chain sign join operand left tokens).map Subtype.val

/-- A layer of the grammar: a phrase is an operand and any number of further operands, each behind a
sign, and its tree joins theirs from the left. -/
structure Layer (normalize : String → String) (sign : Token) (join : Query → Query → Query)
    {operand whole : Category} (value : Phrase operand → Query) (tree : Phrase whole → Query) where
  phrase : Phrase operand → List (Phrase operand) → Phrase whole
  tokens_phrase : ∀ first more, (phrase first more).tokens = first.tokens ++ repeated sign more
  tree_phrase : ∀ first more, tree (phrase first more) = (more.map value).foldl join (value first)
  signs : whole.signs = sign :: operand.signs
  entry : ∀ depth, whole.entry depth = .operand depth
  next : ∀ depth, (Position.sign depth).next sign = some (.operand depth)
  value? : sign.value? = none

section Chain

variable {sign : Token} {join : Query → Query → Query} {operand : Category}
  {value : Phrase operand → Query} {reader : Reader}

/-- A chain of operands ends where no sign follows. -/
theorem chainOutcome_of_ne (left : Query) {tokens : List Token} (h : tokens.head? ≠ some sign) :
    chainOutcome sign join reader left tokens = .ok (left, tokens) := by
  unfold chainOutcome
  cases tokens with
  | nil => rw [chain]; rfl
  | cons token rest =>
    have hne : token ≠ sign := fun heq => h (by rw [heq]; rfl)
    rw [chain, if_neg hne]
    rfl

/-- A sign is followed by one more operand, which the chain joins to what it has. -/
theorem chainOutcome_sign (left : Query) (rest : List Token) :
    chainOutcome sign join reader left (sign :: rest) =
      (outcome reader rest).bind fun read =>
        chainOutcome sign join reader (join left read.1) read.2 := by
  unfold chainOutcome outcome
  rw [chain, if_pos rfl]
  cases reader rest with
  | error e => rfl
  | ok read =>
    obtain ⟨⟨right, after⟩, hafter⟩ := read
    simp only [Except.map, Except.bind]
    cases chain sign join reader (join left right) after with
    | error e => rfl
    | ok read => rfl

/-- What a chain of operands comes to: it takes further operands up to where no sign follows, or it
fails in one of them. -/
inductive Chained (normalize : String → String) (sign : Token) (join : Query → Query → Query)
    {operand : Category} (value : Phrase operand → Query) (left : Query) (tokens : List Token) :
    Except ParseError (Query × List Token) → Prop where
  | phrases (more : List (Phrase operand)) (rest : List Token)
      (htokens : tokens = repeated sign more ++ rest)
      (hterms : TermsKept normalize (repeated sign more)) (hends : operand.EndsBefore rest)
      (hsign : rest.head? ≠ some sign) :
      Chained normalize sign join value left tokens (.ok ((more.map value).foldl join left, rest))
  | failure (more : List (Phrase operand)) {inner : List Token} {e : ParseError}
      (htokens : tokens = repeated sign more ++ sign :: inner)
      (hterms : TermsKept normalize (repeated sign more)) (h : Fails normalize operand inner e) :
      Chained normalize sign join value left tokens (.error e)

/-- One more operand in front of a chain. -/
theorem Chained.cons {p : Phrase operand} {left : Query} {after : List Token}
    {read : Except ParseError (Query × List Token)} (hsign : sign.value? = none)
    (hterms : TermsKept normalize p.tokens)
    (h : Chained normalize sign join value (join left (value p)) after read) :
    Chained normalize sign join value left (sign :: (p.tokens ++ after)) read := by
  have hfront : TermsKept normalize (sign :: p.tokens) :=
    termsKept_append.mpr ⟨termsKept_singleton hsign, hterms⟩
  cases h with
  | phrases more rest htokens hmore hends hstop =>
    refine .phrases (p :: more) rest ?_ (termsKept_append.mpr ⟨hfront, hmore⟩) hends hstop
    simp [repeated, htokens]
  | failure more htokens hmore h =>
    refine .failure (p :: more) ?_ (termsKept_append.mpr ⟨hfront, hmore⟩) h
    simp [repeated, htokens]

/-- A chain of operands is read by going on as long as a sign follows. -/
theorem chained_chainOutcome (join : Query → Query → Query)
    (hreader : Takes normalize value reader) (hvalue : sign.value? = none) (left : Query)
    (tokens : List Token) (hends : operand.EndsBefore tokens) :
    Chained normalize sign join value left tokens (chainOutcome sign join reader left tokens) := by
  -- every operand is behind a sign, so that less is left after it
  induction hlength : tokens.length using Nat.strongRecOn generalizing left tokens with
  | ind length ih =>
    by_cases hsign : tokens.head? = some sign
    · obtain ⟨rest, rfl⟩ := List.head?_eq_some_iff.mp hsign
      rw [chainOutcome_sign]
      have hread := hreader rest
      generalize outcome reader rest = read at hread
      cases hread with
      | failure h => exact .failure [] rfl termsKept_nil h
      | phrase p after htokens hterms hafter =>
        rw [htokens]
        refine Chained.cons hvalue hterms (ih after.length ?_ _ after hafter rfl)
        rw [← hlength, htokens, List.length_cons, List.length_append]
        omega
    · rw [chainOutcome_of_ne left hsign]
      exact .phrases [] tokens rfl termsKept_nil hends hsign

/-- A level of the grammar reads one operand and goes on with a chain. -/
theorem outcome_level (tokens : List Token) :
    outcome (level sign join reader) tokens =
      (outcome reader tokens).bind fun read => chainOutcome sign join reader read.1 read.2 := by
  unfold chainOutcome outcome level
  cases reader tokens with
  | error e => rfl
  | ok read =>
    obtain ⟨⟨left, rest⟩, hrest⟩ := read
    simp only [bind, Except.bind, Except.map]
    cases chain sign join reader left rest with
    | error e => rfl
    | ok read => rfl

variable {whole : Category} {tree : Phrase whole → Query}

/-- Nothing stands before the first operand of a layer. -/
theorem Layer.front_first (layer : Layer normalize sign join value tree) :
    Front normalize operand whole [] where
  terms := termsKept_nil
  walk depth := ⟨depth, rfl⟩
  opens := by
    rintro tokens ⟨p, hp⟩
    refine ⟨layer.phrase p [], ?_⟩
    rw [layer.tokens_phrase]
    exact hp.trans (List.prefix_append _ _)

/-- A phrase and a sign stand before a further operand of a layer. -/
theorem Layer.front_further (layer : Layer normalize sign join value tree) {first : Phrase operand}
    {more : List (Phrase operand)} (hfirst : TermsKept normalize first.tokens)
    (hmore : TermsKept normalize (repeated sign more)) :
    Front normalize operand whole (first.tokens ++ repeated sign more ++ [sign]) where
  terms := termsKept_append.mpr
    ⟨termsKept_append.mpr ⟨hfirst, hmore⟩, termsKept_singleton layer.value?⟩
  walk depth := by
    have hphrase := (layer.phrase first more).walk_tokens depth
    rw [layer.entry, layer.tokens_phrase] at hphrase
    refine ⟨depth, ?_⟩
    rw [Position.walk_append, hphrase, Option.bind_some, Position.walk_cons, layer.next]
    rfl
  opens := by
    rintro tokens ⟨p, back, hp⟩
    refine ⟨layer.phrase first (more ++ [p]), back, ?_⟩
    rw [layer.tokens_phrase]
    simp [repeated, ← hp]

/-- The reader of a level takes the phrases of a layer, if its operand's reader takes operands. -/
theorem takes_level (layer : Layer normalize sign join value tree)
    (hreader : Takes normalize value reader) :
    Takes normalize tree (level sign join reader) := by
  intro tokens
  rw [outcome_level]
  have hread := hreader tokens
  generalize outcome reader tokens = read at hread
  cases hread with
  | failure h => exact .failure (h.behind layer.front_first)
  | phrase first rest htokens hterms hends =>
    have hchain := chained_chainOutcome join hreader layer.value? (value first) rest hends
    simp only [Except.bind]
    generalize chainOutcome sign join reader (value first) rest = read at hchain
    cases hchain with
    | phrases more rest' hrest hmore hends' hstop =>
      rw [← layer.tree_phrase]
      refine .phrase (layer.phrase first more) rest' ?_ ?_ ?_
      · rw [htokens, hrest, layer.tokens_phrase, List.append_assoc]
      · rw [layer.tokens_phrase]
        exact termsKept_append.mpr ⟨hterms, hmore⟩
      · intro token htoken
        rw [layer.signs] at htoken
        rcases List.mem_cons.mp htoken with rfl | htoken
        · exact hstop
        · exact hends' token htoken
    | failure more hrest hmore h =>
      have hfail := h.behind (layer.front_further hterms hmore)
      rw [htokens, hrest]
      simpa using Reading.failure hfail

end Chain

/-! ## Conjunctions and disjunctions -/

/-- Further conjuncts, from a list. -/
def conjuncts : List (Phrase .negation) → Phrase .conjuncts
  | [] => .noConjunct
  | p :: more => .conjunct p (conjuncts more)

/-- Further disjuncts, from a list. -/
def disjuncts : List (Phrase .conjunction) → Phrase .disjuncts
  | [] => .noDisjunct
  | p :: more => .disjunct p (disjuncts more)

/-- Conjunctions are a layer of negations. -/
def conjunctionLayer (normalize : String → String) :
    Layer normalize .and .and (Phrase.tree normalize (c := .negation))
      (Phrase.tree normalize (c := .conjunction)) where
  phrase first more := .conjunction first (conjuncts more)
  tokens_phrase first more := by
    have hmore : (conjuncts more).tokens = repeated .and more := by
      induction more with
      | nil => rfl
      | cons p more ih => simp [conjuncts, Phrase.tokens, repeated, ih]
    rw [Phrase.tokens, hmore]
  tree_phrase first more := by
    have hmore : (conjuncts more).tree normalize = more.map (Phrase.tree normalize) := by
      induction more with
      | nil => rfl
      | cons p more ih => simp [conjuncts, Phrase.tree, ih]
    rw [Phrase.tree, hmore]
  signs := rfl
  entry _ := rfl
  next _ := rfl
  value? := rfl

/-- Disjunctions are a layer of conjunctions. -/
def disjunctionLayer (normalize : String → String) :
    Layer normalize .or .or (Phrase.tree normalize (c := .conjunction))
      (Phrase.tree normalize (c := .disjunction)) where
  phrase first more := .disjunction first (disjuncts more)
  tokens_phrase first more := by
    have hmore : (disjuncts more).tokens = repeated .or more := by
      induction more with
      | nil => rfl
      | cons p more ih => simp [disjuncts, Phrase.tokens, repeated, ih]
    rw [Phrase.tokens, hmore]
  tree_phrase first more := by
    have hmore : (disjuncts more).tree normalize = more.map (Phrase.tree normalize) := by
      induction more with
      | nil => rfl
      | cons p more ih => simp [disjuncts, Phrase.tree, ih]
    rw [Phrase.tree, hmore]
  signs := rfl
  entry _ := rfl
  next _ := rfl
  value? := rfl

/-- The reader of expressions takes disjunctions, if the inner reader does. -/
theorem takes_expression {inner : Reader}
    (hinner : Takes normalize (Phrase.tree normalize (c := .disjunction)) inner) :
    Takes normalize (Phrase.tree normalize (c := .disjunction)) (expression normalize inner) :=
  takes_level (disjunctionLayer normalize)
    (takes_level (conjunctionLayer normalize) (takes_negation hinner))

/-- Whatever the number of parentheses that may be open, the reader of disjunctions takes them. -/
theorem takes_disjunction (normalize : String → String) (depth : Nat) :
    Takes normalize (Phrase.tree normalize (c := .disjunction)) (disjunction normalize depth) := by
  induction depth with
  | zero => exact takes_expression fun _ => .failure .nesting
  | succ depth ih => exact takes_expression ih

end BooleanRetrieval.Parser
