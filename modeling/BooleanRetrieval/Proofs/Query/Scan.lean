import BooleanRetrieval.Query.Token

/-!
# The tokens of a query

The tokens of every query end with the end of the query, which stands nowhere else.
-/

set_option autoImplicit false

namespace BooleanRetrieval.Token

/-- A run is never taken for the end of the query. -/
theorem ofRun_ne_endOfQuery (run : List Char) : ofRun run ≠ .endOfQuery := by
  unfold ofRun
  dsimp only
  split
  · exact Token.noConfusion
  · split
    · exact Token.noConfusion
    · split <;> exact Token.noConfusion

/-- Closing a run brings no end of the query among the tokens. -/
theorem endOfQuery_notMem_closeRun {run : List Char} {tokens : List Token}
    (h : .endOfQuery ∉ tokens) : .endOfQuery ∉ closeRun run tokens := by
  unfold closeRun
  split
  · exact h
  · rw [List.mem_cons]
    rintro (heq | hmem)
    · exact ofRun_ne_endOfQuery _ heq.symm
    · exact h hmem

/-- However much of a query has been read, its tokens end with the end of the query. -/
theorem exists_collect_eq (run : List Char) (tokens : List Token) (cs : List Char)
    (h : .endOfQuery ∉ tokens) :
    ∃ body, collect run tokens cs = body ++ [.endOfQuery] ∧ .endOfQuery ∉ body := by
  induction cs generalizing run tokens with
  | nil =>
    refine ⟨(closeRun run tokens).reverse, by rw [collect, List.reverse_cons], ?_⟩
    rw [List.mem_reverse]
    exact endOfQuery_notMem_closeRun h
  | cons c rest ih =>
    have hclose : .endOfQuery ∉ closeRun run tokens := endOfQuery_notMem_closeRun h
    rw [collect]
    split
    · exact ih [] _ (by simp [hclose])
    · split
      · exact ih [] _ (by simp [hclose])
      · split
        · exact ih [] _ hclose
        · exact ih (c :: run) tokens h

/-- The tokens of a query end with the end of the query, which stands nowhere else. -/
theorem exists_scan_eq (query : String) :
    ∃ body, scan query = body ++ [.endOfQuery] ∧ .endOfQuery ∉ body :=
  exists_collect_eq [] [] query.toList (List.not_mem_nil)

end BooleanRetrieval.Token
