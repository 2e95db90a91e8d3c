import BooleanRetrieval.Proofs.Build.DocumentWords
import BooleanRetrieval.Proofs.Query.Nesting
import BooleanRetrieval.Proofs.Text.TermSpelling

/-!
# The texts of trees

A tree is written with its chains of negations in one go, and that is how it would be written node by node,
unless it has too many levels for the calls that write it (`render_eq`). If no term has a closing parenthesis,
the text of a tree can be cut off any text that it begins (`structural_append_injective`): what a node is shows
at the beginning or, for the two that have operands on both sides, behind the left operand, and a term ends at
the first closing parenthesis. So trees with such terms have different texts, and the parser makes no others:
its terms are made of letters. But it makes trees of any number of levels, since a conjunction may be as long
as one likes (`parse_conjunctionQuery`).
-/

set_option autoImplicit false

namespace BooleanRetrieval

namespace Query

/-! ## Node by node -/

/-- The text of a tree, written node by node. -/
def structural : Query → String
  | term t => "TERM(" ++ t ++ ")"
  | and left right => "(" ++ left.structural ++ " AND " ++ right.structural ++ ")"
  | or left right => "(" ++ left.structural ++ " OR " ++ right.structural ++ ")"
  | not operand => "NOT(" ++ operand.structural ++ ")"
  | foreign text => text

/-- No negation sign leaves the text as it is. -/
theorem negated_zero (text : String) : negated 0 text = text := by
  simp [negated]

/-- The innermost negation of a chain can be written with the text. -/
theorem negated_succ (n : Nat) (text : String) :
    negated (n + 1) text = negated n ("NOT(" ++ text ++ ")") := by
  unfold negated
  rw [List.replicate_succ', List.replicate_succ]
  simp [String.append_assoc]

/-- Whether a tree is a negation. -/
def isNegation : Query → Bool
  | not _ => true
  | _ => false

section

variable (t text : String) (left right operand : Query)

/-- A term is no negation. -/
@[simp] theorem isNegation_term : (term t).isNegation = false := rfl

/-- A conjunction is no negation. -/
@[simp] theorem isNegation_and : (and left right).isNegation = false := rfl

/-- A disjunction is no negation. -/
@[simp] theorem isNegation_or : (or left right).isNegation = false := rfl

/-- A negation is one. -/
@[simp] theorem isNegation_not : (not operand).isNegation = true := rfl

/-- A foreign operand is no negation. -/
@[simp] theorem isNegation_foreign : (foreign text).isNegation = false := rfl

end

/-- The levels of calls that write a tree. Negations that follow one another take one level together. -/
def levels : Query → Nat
  | term _ => 1
  | and left right | or left right => max left.levels right.levels + 1
  | not operand => operand.levels + if operand.isNegation then 0 else 1
  | foreign _ => 0

/-- A negation takes at least one level. -/
theorem levels_pos_of_isNegation {q : Query} (h : q.isNegation = true) : 0 < q.levels := by
  induction q with
  | term | and | or | foreign => cases h
  | not operand ih =>
    rw [levels]
    cases hoperand : operand.isNegation with
    | true => exact Nat.lt_of_lt_of_le (ih hoperand) (Nat.le_add_right _ _)
    | false => exact Nat.lt_add_left _ Nat.one_pos

/-- Two operands are written if both of them have few enough levels. -/
theorem bind_if_eq {limit m n : Nat} {left right : String} (join : String → String → String) :
    ((if m ≤ limit then .ok left else .error .query : Except NestingError String) >>= fun l =>
      (if n ≤ limit then .ok right else .error .query) >>= fun r => .ok (join l r)) =
    if max m n ≤ limit then .ok (join left right) else .error .query := by
  by_cases hm : m ≤ limit <;> by_cases hn : n ≤ limit <;> simp [hm, hn, bind, Except.bind]

/-- A tree under negations is written if it has few enough levels, where the negations at its top take none
of their own. -/
theorem renderUnder_eq (limit n : Nat) (q : Query) :
    q.renderUnder limit n =
      if q.levels ≤ limit + (if n ≠ 0 ∧ q.isNegation then 1 else 0) then .ok (negated n q.structural)
      else .error .query := by
  induction q generalizing limit n with
  | term t => cases limit <;> simp [renderUnder, levels, structural]
  | foreign text => simp [renderUnder, levels, structural]
  | and left right ihl ihr =>
    cases limit with
    | zero => simp [renderUnder, levels]
    | succ limit =>
      rw [renderUnder, ihl, ihr]
      simp only [ne_eq, not_true_eq_false, false_and, if_false, Nat.add_zero, negated_zero]
      rw [bind_if_eq fun l r => negated n ("(" ++ l ++ " AND " ++ r ++ ")")]
      simp [levels, structural]
  | or left right ihl ihr =>
    cases limit with
    | zero => simp [renderUnder, levels]
    | succ limit =>
      rw [renderUnder, ihl, ihr]
      simp only [ne_eq, not_true_eq_false, false_and, if_false, Nat.add_zero, negated_zero]
      rw [bind_if_eq fun l r => negated n ("(" ++ l ++ " OR " ++ r ++ ")")]
      simp [levels, structural]
  | not operand ih =>
    -- a negation below this one is written on the same level
    have hlevels : ∀ room, operand.levels ≤ room + (if operand.isNegation then 1 else 0) ↔
        operand.not.levels ≤ room + 1 := by
      intro room
      rw [levels]
      cases operand.isNegation <;> simp
    cases n with
    | succ n =>
      rw [renderUnder, ih]
      simp [hlevels, structural, negated_succ]
    | zero =>
      cases limit with
      | zero =>
        have hpos : ¬ operand.not.levels ≤ 0 := Nat.not_le.mpr (levels_pos_of_isNegation rfl)
        simp [renderUnder, hpos]
      | succ limit =>
        rw [renderUnder, ih]
        simp [hlevels, structural, negated_succ, negated_zero]

/-- A tree is written node by node if it has few enough levels, and not at all else. -/
theorem render_eq (limit : Nat) (q : Query) :
    q.render limit = if q.levels ≤ limit then .ok q.structural else .error .query := by
  rw [render, renderUnder_eq, negated_zero]
  simp

/-! ## Reading a tree off its text -/

/-- Nothing but terms with the property stands at the leaves of a tree. -/
def LeavesIn (P : String → Prop) : Query → Prop
  | term t => P t
  | and left right => left.LeavesIn P ∧ right.LeavesIn P
  | or left right => left.LeavesIn P ∧ right.LeavesIn P
  | not operand => operand.LeavesIn P
  | foreign _ => False

/-- A weaker property holds at the leaves when a stronger one does. -/
theorem LeavesIn.imp {P Q : String → Prop} (hPQ : ∀ t, P t → Q t) {q : Query} (h : q.LeavesIn P) :
    q.LeavesIn Q := by
  induction q with
  | term t => exact hPQ t h
  | and left right ihl ihr => exact ⟨ihl h.1, ihr h.2⟩
  | or left right ihl ihr => exact ⟨ihl h.1, ihr h.2⟩
  | not operand ih => exact ih h
  | foreign text => exact h

section

variable (t : String) (left right operand : Query) (rest : List Char)

/-- The characters of a term, with a rest behind them. -/
theorem toList_structural_term :
    (term t).structural.toList ++ rest =
      'T' :: 'E' :: 'R' :: 'M' :: '(' :: (t.toList ++ ')' :: rest) := by
  simp [structural]

/-- The characters of a conjunction, with a rest behind them. -/
theorem toList_structural_and :
    (and left right).structural.toList ++ rest =
      '(' :: (left.structural.toList ++ ' ' :: 'A' :: 'N' :: 'D' :: ' ' ::
        (right.structural.toList ++ ')' :: rest)) := by
  simp [structural]

/-- The characters of a disjunction, with a rest behind them. -/
theorem toList_structural_or :
    (or left right).structural.toList ++ rest =
      '(' :: (left.structural.toList ++ ' ' :: 'O' :: 'R' :: ' ' ::
        (right.structural.toList ++ ')' :: rest)) := by
  simp [structural]

/-- The characters of a negation, with a rest behind them. -/
theorem toList_structural_not :
    (not operand).structural.toList ++ rest =
      'N' :: 'O' :: 'T' :: '(' :: (operand.structural.toList ++ ')' :: rest) := by
  simp [structural]

end

/-- Two texts without a mark are equal if equal texts begin with them and the mark. -/
theorem eq_of_append_mark {mark : Char} {cs ds rest rest' : List Char} (hcs : mark ∉ cs) (hds : mark ∉ ds)
    (h : cs ++ mark :: rest = ds ++ mark :: rest') : cs = ds ∧ rest = rest' := by
  induction cs generalizing ds with
  | nil =>
    cases ds with
    | nil => exact ⟨rfl, (List.cons.inj h).2⟩
    | cons d ds =>
      obtain ⟨rfl, -⟩ := List.cons.inj h
      exact absurd List.mem_cons_self hds
  | cons c cs ih =>
    cases ds with
    | nil =>
      obtain ⟨rfl, -⟩ := List.cons.inj h
      exact absurd List.mem_cons_self hcs
    | cons d ds =>
      obtain ⟨rfl, htail⟩ := List.cons.inj h
      obtain ⟨rfl, hrest⟩ := ih (mt (List.mem_cons_of_mem _) hcs) (mt (List.mem_cons_of_mem _) hds) htail
      exact ⟨rfl, hrest⟩

/-- A tree and what follows it can be told from a text that begins with the text of the tree. -/
theorem structural_append_injective {p q : Query} (hp : p.LeavesIn (')' ∉ ·.toList))
    (hq : q.LeavesIn (')' ∉ ·.toList)) {rest rest' : List Char}
    (h : p.structural.toList ++ rest = q.structural.toList ++ rest') : p = q ∧ rest = rest' := by
  induction p generalizing q rest rest' with
  | foreign text => exact hp.elim
  | term t =>
    cases q with
    | foreign text => exact hq.elim
    | term u =>
      rw [toList_structural_term, toList_structural_term] at h
      obtain ⟨hterm, hrest⟩ := eq_of_append_mark hp hq (by simpa using h)
      exact ⟨congrArg term (String.toList_inj.mp hterm), hrest⟩
    | and left right => simp [toList_structural_term, toList_structural_and] at h
    | or left right => simp [toList_structural_term, toList_structural_or] at h
    | not operand => simp [toList_structural_term, toList_structural_not] at h
  | and left right ihl ihr =>
    cases q with
    | foreign text => exact hq.elim
    | term u => simp [toList_structural_term, toList_structural_and] at h
    | not operand => simp [toList_structural_and, toList_structural_not] at h
    | and left' right' =>
      rw [toList_structural_and, toList_structural_and] at h
      obtain ⟨rfl, hmore⟩ := ihl hp.1 hq.1 (List.cons.inj h).2
      obtain ⟨rfl, hrest⟩ := ihr hp.2 hq.2 (by simpa using hmore)
      exact ⟨rfl, (List.cons.inj hrest).2⟩
    | or left' right' =>
      rw [toList_structural_and, toList_structural_or] at h
      -- behind the same left operand the two signs differ
      obtain ⟨-, hmore⟩ := ihl hp.1 hq.1 (List.cons.inj h).2
      simp at hmore
  | or left right ihl ihr =>
    cases q with
    | foreign text => exact hq.elim
    | term u => simp [toList_structural_term, toList_structural_or] at h
    | not operand => simp [toList_structural_or, toList_structural_not] at h
    | and left' right' =>
      rw [toList_structural_or, toList_structural_and] at h
      obtain ⟨-, hmore⟩ := ihl hp.1 hq.1 (List.cons.inj h).2
      simp at hmore
    | or left' right' =>
      rw [toList_structural_or, toList_structural_or] at h
      obtain ⟨rfl, hmore⟩ := ihl hp.1 hq.1 (List.cons.inj h).2
      obtain ⟨rfl, hrest⟩ := ihr hp.2 hq.2 (by simpa using hmore)
      exact ⟨rfl, (List.cons.inj hrest).2⟩
  | not operand ih =>
    cases q with
    | foreign text => exact hq.elim
    | term u => simp [toList_structural_term, toList_structural_not] at h
    | and left right => simp [toList_structural_and, toList_structural_not] at h
    | or left right => simp [toList_structural_or, toList_structural_not] at h
    | not operand' =>
      rw [toList_structural_not, toList_structural_not] at h
      have hleaves : operand'.LeavesIn (')' ∉ ·.toList) := hq
      obtain ⟨rfl, hrest⟩ := ih hp hleaves (by simpa using h)
      exact ⟨rfl, (List.cons.inj hrest).2⟩

/-- Trees without a closing parenthesis in a term are told apart by their texts. -/
theorem structural_injective {p q : Query} (hp : p.LeavesIn (')' ∉ ·.toList))
    (hq : q.LeavesIn (')' ∉ ·.toList)) (h : p.structural = q.structural) : p = q :=
  (structural_append_injective hp hq (congrArg (·.toList ++ []) h)).1

/-- No term of a tree has a blank character or a parenthesis. -/
def Plain (q : Query) : Prop :=
  q.LeavesIn fun t => ∀ c ∈ t.toList, Token.StandsInRun c

/-- Trees with plain terms are told apart by their texts. -/
theorem Plain.structural_injective {p q : Query} (hp : p.Plain) (hq : q.Plain)
    (h : p.structural = q.structural) : p = q := by
  have hclosed : ∀ t : String, (∀ c ∈ t.toList, Token.StandsInRun c) → ')' ∉ t.toList :=
    fun t ht hmem => (ht _ hmem).2.1 rfl
  exact Query.structural_injective (hp.imp hclosed) (hq.imp hclosed) h

/-- What is written for a tree is its text node by node. -/
theorem structural_eq_of_render {limit : Nat} {q : Query} {text : String}
    (h : q.render limit = .ok text) : q.structural = text := by
  rw [render_eq] at h
  split at h
  · exact Except.ok.inj h
  · cases h

/-! ## Trees that are parsed -/

/-- Joining operands from the left keeps a property of the leaves. -/
theorem leavesIn_foldl {P : String → Prop} {join : Query → Query → Query}
    (hjoin : ∀ left right, left.LeavesIn P → right.LeavesIn P → (join left right).LeavesIn P)
    {qs : List Query} {left : Query} (hleft : left.LeavesIn P) (hqs : ∀ q ∈ qs, q.LeavesIn P) :
    (qs.foldl join left).LeavesIn P :=
  List.foldlRecOn qs join hleft fun joined hjoined q hq => hjoin joined q hjoined (hqs q hq)

end Query

/-- Whether only terms with the property stand at the leaves of what a phrase of a category stands for. -/
def Category.TreeLeavesIn (P : String → Prop) : (c : Category) → c.Tree → Prop
  | .disjuncts, qs | .conjuncts, qs => ∀ q ∈ (qs : List Query), q.LeavesIn P
  | .disjunction, q | .conjunction, q | .negation, q | .factor, q => Query.LeavesIn P q

/-- At the leaves of what a phrase stands for are normalized terms. -/
theorem Phrase.treeLeavesIn_tree {P : String → Prop} {normalize : String → String}
    (hnormalize : ∀ raw, P (normalize raw)) {c : Category} (p : Phrase c) :
    c.TreeLeavesIn P (p.tree normalize) := by
  induction p with
  | disjunction first more ihf ihm => exact Query.leavesIn_foldl (fun _ _ => And.intro) ihf ihm
  | noDisjunct => simp [tree, Category.TreeLeavesIn]
  | disjunct next more ihn ihm => exact List.forall_mem_cons.mpr ⟨ihn, ihm⟩
  | conjunction first more ihf ihm => exact Query.leavesIn_foldl (fun _ _ => And.intro) ihf ihm
  | noConjunct => simp [tree, Category.TreeLeavesIn]
  | conjunct next more ihn ihm => exact List.forall_mem_cons.mpr ⟨ihn, ihm⟩
  | not operand ih => exact ih
  | plain body ih => exact ih
  | term raw => exact hnormalize raw
  | group body ih => exact ih

/-- Folding leaves alone what separates the tokens of a query. -/
theorem Token.foldChar_of_not_standsInRun {c : Char} (h : ¬ StandsInRun c) : Text.foldChar c = [c] := by
  by_cases hblank : Text.isBlank c = true
  · exact Text.foldChar_of_isBlank hblank
  · have hparenthesis : c = '(' ∨ c = ')' := by
      by_contra hneither
      push Not at hneither
      exact h ⟨hneither.1, hneither.2, Bool.eq_false_iff.mpr hblank⟩
    rcases hparenthesis with rfl | rfl <;> decide +kernel

/-- Nothing in a term separates tokens: it would also be in the folded term, which is made of characters of
words. -/
theorem Token.standsInRun_of_mem_normalize {word : String} {c : Char}
    (hc : c ∈ (Text.normalize word).toList) : StandsInRun c := by
  by_contra hnot
  obtain ⟨pieces, hpieces, hfolded⟩ := Text.exists_pieces word
  have hmem : c ∈ (Text.foldCase (Text.normalize word)).toList := by
    rw [Text.foldCase, String.toList_ofList]
    refine List.mem_flatMap.mpr ⟨c, hc, ?_⟩
    rw [foldChar_of_not_standsInRun hnot]
    exact List.mem_singleton_self c
  rw [hfolded] at hmem
  obtain ⟨piece, hpiece, hc⟩ := List.mem_flatten.mp hmem
  exact hnot (standsInRun_of_isWordCharacter ((hpieces piece hpiece).isWordCharacter c hc))

/-- The trees of queries have terms without blank characters and parentheses. -/
theorem Parser.plain_of_parse {query : String} {q : Query}
    (h : parse Text.normalize query = .ok q) : q.Plain := by
  have houtcome := outcome_parse Text.normalize query
  rw [h] at houtcome
  cases houtcome with
  | tree p htokens hterms =>
    exact p.treeLeavesIn_tree fun raw c hc => Token.standsInRun_of_mem_normalize hc

/-! ## Long conjunctions -/

section

/-- The words of a conjunction of a letter with itself. -/
def conjunctionWords (n : Nat) : List String :=
  "a" :: (List.replicate n ["AND", "a"]).flatten

/-- The conjunction of a letter with itself, with so many operators. -/
def conjunctionQuery (n : Nat) : String :=
  " ".intercalate (conjunctionWords n)

example : conjunctionQuery 2 = "a AND a AND a" := by decide +kernel

/-- What it derives from. -/
def conjunctionPhrase (n : Nat) : Phrase .disjunction :=
  let letter : Phrase .negation := .plain (.term "a")
  .disjunction (.conjunction letter (Parser.conjuncts (List.replicate n letter))) .noDisjunct

variable (n : Nat)

/-- The phrase of a long conjunction has its words as tokens. -/
theorem tokens_conjunctionPhrase :
    (conjunctionPhrase n).tokens =
      .term "a" :: (List.replicate n [Token.and, .term "a"]).flatten := by
  have hmore : (Parser.conjuncts (List.replicate n (.plain (.term "a")))).tokens =
      (List.replicate n [Token.and, .term "a"]).flatten := by
    induction n with
    | zero => rfl
    | succ n ih =>
      rw [List.replicate_succ, List.replicate_succ, List.flatten_cons, ← ih]
      rfl
  rw [← hmore]
  simp [conjunctionPhrase, Phrase.tokens]

/-- The words of a conjunction are its tokens. -/
theorem scan_conjunctionQuery :
    Token.scan (conjunctionQuery n) = (conjunctionPhrase n).sentence := by
  have hletter : Token.Writes (Token.ofRun ['a']) ['a'] := by
    refine (Token.writes_ofRun (List.cons_ne_nil _ _) ?_).1
    exact List.forall_mem_singleton.mpr (by decide)
  have hand : Token.Writes (Token.ofRun ['A', 'N', 'D']) ['A', 'N', 'D'] := by
    refine (Token.writes_ofRun (List.cons_ne_nil _ _) ?_).1
    simp only [List.forall_mem_cons, List.not_mem_nil, false_imp_iff, implies_true, and_true]
    exact ⟨by decide, by decide, by decide⟩
  rw [show Token.ofRun ['a'] = .term "a" by decide +kernel] at hletter
  rw [show Token.ofRun ['A', 'N', 'D'] = .and by decide +kernel] at hand
  rw [Phrase.sentence, tokens_conjunctionPhrase]
  refine Token.scan_intercalate ?_
  rw [conjunctionWords, List.map_cons]
  refine .cons hletter ?_
  induction n with
  | zero => exact .nil
  | succ n ih =>
    rw [List.replicate_succ, List.replicate_succ, List.flatten_cons, List.flatten_cons]
    exact .cons hand (.cons hletter ih)

/-- Every further conjunct is one more level. -/
theorem Query.levels_foldl_and {left : Query} (hleft : 0 < left.levels) (t : String) :
    ((List.replicate n (Query.term t)).foldl .and left).levels = left.levels + n := by
  induction n generalizing left with
  | zero => rfl
  | succ n ih =>
    have hstep : (left.and (.term t)).levels = left.levels + 1 := by
      rw [levels, levels, Nat.max_eq_left hleft]
    rw [List.replicate_succ, List.foldl_cons, ih (hstep ▸ Nat.succ_pos _), hstep]
    omega

/-- The phrase of a long conjunction stands for one that is nested to the left. -/
theorem tree_conjunctionPhrase (normalize : String → String) :
    (conjunctionPhrase n).tree normalize =
      (List.replicate n (Query.term (normalize "a"))).foldl .and (.term (normalize "a")) := by
  have hmore : (Parser.conjuncts (List.replicate n (.plain (.term "a")))).tree normalize =
      List.replicate n (Query.term (normalize "a")) := by
    induction n with
    | zero => rfl
    | succ n ih =>
      rw [List.replicate_succ, List.replicate_succ, ← ih]
      rfl
  rw [← hmore]
  rfl

/-- A conjunction is read, however long it is, and its tree has as many levels as it has terms. -/
theorem Parser.parse_conjunctionQuery :
    ∃ q, parse Text.normalize (conjunctionQuery n) = .ok q ∧ q.levels = n + 1 := by
  have hmem : ∀ token ∈ (conjunctionPhrase n).sentence,
      token = .term "a" ∨ token = .and ∨ token = .endOfQuery := by
    intro token htoken
    rw [Phrase.sentence, tokens_conjunctionPhrase] at htoken
    simp only [List.mem_append, List.mem_cons, List.mem_flatten, List.mem_replicate] at htoken
    aesop
  have hparentheses : Token.lparen ∉ Token.scan (conjunctionQuery n) := by
    rw [scan_conjunctionQuery]
    intro hmem'
    simpa using hmem _ hmem'
  have hterms : TermsKept Text.normalize (Token.scan (conjunctionQuery n)) := by
    rw [scan_conjunctionQuery]
    intro raw hraw
    obtain rfl : raw = "a" := by simpa using hmem _ hraw
    decide +kernel
  have hnesting : parse Text.normalize (conjunctionQuery n) ≠ .error .nesting :=
    parseTokens_ne_nesting (Token.shallow_of_notMem hparentheses nestingLimit)
  refine ⟨_, (outcome_parse Text.normalize (conjunctionQuery n)).eq_tree hnesting
    (scan_conjunctionQuery n) hterms, ?_⟩
  rw [tree_conjunctionPhrase, Query.levels_foldl_and n (show 0 < (Query.term _).levels from Nat.one_pos)]
  exact Nat.add_comm _ _

end

/-- A tree is written as it is node by node exactly if it has few enough levels, and else it is not written at
all. If it has neither blank characters nor parentheses in its terms, as the trees of queries have none, its text
is that of no other such tree. -/
theorem Query.rendering_is_structural_and_unambiguous (limit : Nat) (q : Query) :
    (q.render limit = .ok q.structural ↔ q.levels ≤ limit) ∧
    (limit < q.levels → q.render limit = .error .query) ∧
    (∀ limit' p text, p.Plain → q.Plain → p.render limit' = .ok text → q.render limit = .ok text → p = q) ∧
    ∀ query, Parser.parse Text.normalize query = .ok q → q.Plain := by
  rw [render_eq]
  refine ⟨?_, fun hlevels => if_neg (Nat.not_le.mpr hlevels), ?_, fun _ => Parser.plain_of_parse⟩
  · split
    · next hlevels => exact iff_of_true rfl hlevels
    · next hlevels => exact iff_of_false nofun hlevels
  · intro limit' p text hp hq hpText hqText
    rw [← render_eq] at hqText
    refine hp.structural_injective hq ?_
    rw [structural_eq_of_render hpText, structural_eq_of_render hqText]

/-- Negations around an operator and inside it, over a term that reads like an operator. -/
theorem Query.rendering_is_structural_and_unambiguous_nested :
    let p : Query := .not (.not (.or (.not (.term "or")) (.term "a")))
    let text := "NOT(NOT((NOT(TERM(or)) OR TERM(a))))"
    ∃ q, Parser.parse Text.normalize "NOT NOT(NOT or. OR a)" = .ok q ∧ p.Plain ∧ q.Plain ∧
      p.levels = 4 ∧ p.render 4 = .ok text ∧ q.render 5 = .ok text ∧ p = q ∧
      p.render 3 = .error .query := by
  intro p text
  obtain ⟨hfour, -, -, hplain⟩ := rendering_is_structural_and_unambiguous 4 p
  obtain ⟨hfive, -, hunambiguous, -⟩ := rendering_is_structural_and_unambiguous 5 p
  obtain ⟨-, hdeep, -, -⟩ := rendering_is_structural_and_unambiguous 3 p
  have hparse : Parser.parse Text.normalize "NOT NOT(NOT or. OR a)" = .ok p := by
    decide +kernel
  have hp : p.Plain := hplain _ hparse
  have hfour : p.render 4 = .ok text := hfour.mpr (by decide)
  have hfive : p.render 5 = .ok text := hfive.mpr (by decide)
  exact ⟨p, hparse, hp, hp, rfl, hfour, hfive, hunambiguous 4 p text hp hp hfour hfive, hdeep (by decide)⟩

/-- A query of four hundred terms is read, but its tree has more levels than may be written. -/
theorem Query.long_conjunction_is_not_written :
    let limits : NestingLimits := {}
    ∃ q, Parser.parse Text.normalize (conjunctionQuery 399) = .ok q ∧ q.Plain ∧
      q.render limits.query = .error .query := by
  intro limits
  obtain ⟨q, hparse, hlevels⟩ := Parser.parse_conjunctionQuery 399
  refine ⟨q, hparse, Parser.plain_of_parse hparse, ?_⟩
  rw [render_eq, if_neg]
  rw [hlevels]
  decide

end BooleanRetrieval
