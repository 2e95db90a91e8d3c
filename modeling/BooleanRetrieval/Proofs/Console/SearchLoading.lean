import BooleanRetrieval.Proofs.Console.Sessions
import BooleanRetrieval.Proofs.Saved.Shape

/-!
# What the search program does with saved files

Whatever the two files hold, or if they are missing, the search program asks for queries or gives up with
a message, unless it reads a JSON file that is misshapen: then it breaks off with an error that it does
not handle (`search_breaks_iff_misshapen`).
-/

set_option autoImplicit false

namespace BooleanRetrieval.SearchProgram

/-- A saved file is misshapen that is reached: that of the matrix is only read when there is an index. How
deep a file may nest depends on the limits. -/
def ReadsMisshapen (limits : NestingLimits) (tree : FileTree) (a : SearchArguments) : Prop :=
  Misshapen limits.json (¬ InvertedIndex.HasIndexShape limits.shown ·) tree a.index ∨
    (∃ index, (InvertedIndex.load tree a.index limits).outcome = .ok index) ∧
      Misshapen limits.json IncidenceMatrix.Shapeless tree a.matrix

/-- What the program does by the outcomes of the two loadings. -/
def continuationOf (index : Except LoadError InvertedIndex) (matrix : Except LoadError IncidenceMatrix) :
    Continuation :=
  match index, matrix with
  | .error e, _ => .stop (loadEnding e)
  | .ok _, .error e => .stop (loadEnding e)
  | .ok index, .ok matrix => .ask (Stores.mk index (some matrix)).collections .finished

/-- What a search does behind its loadings depends on their outcomes only. -/
theorem load_continuation (env : Environment) (a : SearchArguments) {s : Session}
    (h : s.logging.file = none) :
    (load env a s).2 = continuationOf (InvertedIndex.load s.tree a.index env.limits).outcome
      (IncidenceMatrix.load s.tree a.matrix env.limits).outcome := by
  unfold load
  dsimp only
  rw [Session.tree_logAll h]
  cases (InvertedIndex.load s.tree a.index env.limits).outcome with
  | error e => rfl
  | ok index =>
    dsimp only
    cases (IncidenceMatrix.load s.tree a.matrix env.limits).outcome with
    | error e => rfl
    | ok matrix => rfl

/-- A search that builds nothing starts with its loadings. -/
theorem start_continuation {line : List String} {a : SearchArguments}
    (hread : SearchArguments.read line = .ok a) (htexts : a.texts = none) (env : Environment)
    (tree : FileTree) :
    (start env line (.start tree)).2 = continuationOf (InvertedIndex.load tree a.index env.limits).outcome
      (IncidenceMatrix.load tree a.matrix env.limits).outcome := by
  unfold start
  rw [hread]
  dsimp only
  rw [Session.setUpLogging_start, htexts]
  dsimp only
  rw [load_continuation env a rfl]

/-- An error of loading ends the program with a message if it is foreseen. -/
theorem stop_loadEnding (e : LoadError) :
    (e.isForeseen ≠ false → ∃ reason, Continuation.stop (loadEnding e) =
      .stop (.message ("Could not load the index: " ++ reason))) ∧
    (e.isForeseen = false → Continuation.stop (loadEnding e) = .stop (.broken (.load e))) := by
  unfold loadEnding giveUp
  cases e.isForeseen with
  | true => simp
  | false => simp

/-- On every tree, if the command line is understood and names no directory to build from, the program
either asks for queries with the stores that it has loaded, or it ends with a message, unless a file that
it reads is misshapen. Then it breaks off with an error of loading that is not foreseen. -/
theorem search_breaks_iff_misshapen {line : List String} {a : SearchArguments}
    (hread : SearchArguments.read line = .ok a) (htexts : a.texts = none) (env : Environment)
    (tree : FileTree) :
    (¬ ReadsMisshapen env.limits tree a →
      (∃ index matrix, (InvertedIndex.load tree a.index env.limits).outcome = .ok index ∧
        (IncidenceMatrix.load tree a.matrix env.limits).outcome = .ok matrix ∧
        (start env line (.start tree)).2 =
          .ask (Stores.mk index (some matrix)).collections .finished) ∨
      ∃ reason, (start env line (.start tree)).2 =
        .stop (.message ("Could not load the index: " ++ reason))) ∧
    (ReadsMisshapen env.limits tree a → ∃ e : LoadError, e.isForeseen = false ∧
      (start env line (.start tree)).2 = .stop (.broken (.load e))) := by
  rw [start_continuation hread htexts env tree]
  unfold ReadsMisshapen
  rw [← InvertedIndex.unforeseen_iff, ← IncidenceMatrix.unforeseen_iff]
  cases (InvertedIndex.load tree a.index env.limits).outcome with
  | error e =>
    obtain ⟨hmessage, hbroken⟩ := stop_loadEnding e
    refine ⟨fun hnot => .inr (hmessage fun h => hnot (.inl ⟨e, rfl, h⟩)), ?_⟩
    rintro (⟨e', herror, h⟩ | ⟨⟨index, herror⟩, -⟩)
    · obtain rfl := Except.error.inj herror
      exact ⟨e, h, hbroken h⟩
    · cases herror
  | ok index =>
    cases (IncidenceMatrix.load tree a.matrix env.limits).outcome with
    | error e =>
      obtain ⟨hmessage, hbroken⟩ := stop_loadEnding e
      refine ⟨fun hnot => .inr (hmessage fun h => hnot (.inr ⟨⟨index, rfl⟩, e, rfl, h⟩)), ?_⟩
      rintro (⟨e', herror, -⟩ | ⟨-, e', herror, h⟩)
      · cases herror
      · obtain rfl := Except.error.inj herror
        exact ⟨e, h, hbroken h⟩
    | ok matrix =>
      refine ⟨fun _ => .inl ⟨index, matrix, rfl, rfl, rfl⟩, ?_⟩
      rintro (⟨e, herror, -⟩ | ⟨-, e, herror, -⟩)
      · cases herror
      · cases herror

/-- Two files that are read, one with a frequency that is left out; a file with a number that is too
long for one that is missing; and an index whose member is no object. -/
theorem search_breaks_iff_misshapen_files :
    let line := ["--index", "i.json", "--matrix", "m.txt"]
    let a : SearchArguments := ⟨⟨"", ["i.json"]⟩, ⟨"", ["m.txt"]⟩, none, false, false⟩
    let env : Environment := ⟨⟨"", "", "", "", ""⟩, 1, false, [], {}⟩
    let tree (index : String) (rest : List (Place × FileNode)) : FileTree :=
      { entries := (["i.json"], .file (Encoding.encodeUtf8 index.toList)) :: rest }
    let matrix : Place × FileNode := (["m.txt"], .file (Encoding.encodeUtf8 "[cat]\na.txt\n".toList))
    let good := tree "\x7b\"cat\": \x7b\"a.txt\": 2, \"b.txt\": 0\x7d\x7d" [matrix]
    let lacking := tree "\x7b\x7d" []
    let misshapen := tree "\x7b\"cat\": 1\x7d" [matrix]
    SearchArguments.read line = .ok a ∧ a.texts = none ∧
      (¬ ReadsMisshapen env.limits good a ∧
        ∃ collections, (start env line (.start good)).2 = .ask collections .finished) ∧
      (¬ ReadsMisshapen env.limits lacking a ∧ (start env line (.start lacking)).2 =
        .stop (.message "Could not load the index: Index file not found: m.txt")) ∧
      ReadsMisshapen env.limits misshapen a ∧ (start env line (.start misshapen)).2 =
        .stop (.broken (.load (.noMembers "int"))) := by
  intro line a env tree matrix good lacking misshapen
  have hread : SearchArguments.read line = .ok a := by decide +kernel
  have htexts : a.texts = none := rfl
  have hgood : (start env line (.start good)).2.ending? = none := by decide +kernel
  have hlacking : (start env line (.start lacking)).2.ending? =
      some (.message "Could not load the index: Index file not found: m.txt") := by decide +kernel
  have hmisshapen : (start env line (.start misshapen)).2.ending? =
      some (.broken (.load (.noMembers "int"))) := by decide +kernel
  have hsound : ∀ tree, ¬ (∃ e, (start env line (.start tree)).2.ending? = some (.broken (.load e))) →
      ¬ ReadsMisshapen env.limits tree a := by
    intro tree hnot h
    obtain ⟨e, -, hnext⟩ := (search_breaks_iff_misshapen hread htexts env tree).2 h
    exact hnot ⟨e, Continuation.ending?_eq_some_iff.mpr hnext⟩
  have hgoodSound : ¬ ReadsMisshapen env.limits good a := hsound good (by simp [hgood])
  have hlackingSound : ¬ ReadsMisshapen env.limits lacking a := hsound lacking (by simp [hlacking])
  refine ⟨hread, htexts, ⟨hgoodSound, ?_⟩, ⟨hlackingSound, ?_⟩, ?_, ?_⟩
  · rcases (search_breaks_iff_misshapen hread htexts env good).1 hgoodSound with
      ⟨index, matrix, -, -, hnext⟩ | ⟨reason, hnext⟩
    · exact ⟨_, hnext⟩
    · rw [hnext] at hgood
      cases hgood
  · exact Continuation.ending?_eq_some_iff.mp hlacking
  · by_contra hnot
    rcases (search_breaks_iff_misshapen hread htexts env misshapen).1 hnot with
      ⟨index, matrix, -, -, hnext⟩ | ⟨reason, hnext⟩
    · rw [hnext] at hmisshapen
      cases hmisshapen
    · rw [hnext] at hmisshapen
      cases hmisshapen
  · exact Continuation.ending?_eq_some_iff.mp hmisshapen

/-- A JSON array in place of an index, and a number in place of the documents of a term or of one of them,
are errors that the program does not handle. -/
theorem search_breaks_off_at_arrays :
    let env : Environment := ⟨⟨"", "", "", "", ""⟩, 1, false, [], {}⟩
    let next (index matrix : List Char) : Continuation :=
      (start env ["--index", "i.json", "--matrix", "m.json"] (.start { entries := [
        (["i.json"], .file (Encoding.encodeUtf8 index)),
        (["m.json"], .file (Encoding.encodeUtf8 matrix))] })).2
    let emptyObject := "\x7b\x7d".toList
    next "[]".toList emptyObject = .stop (.broken (.load (.noMembers "list"))) ∧
    next emptyObject "\x7b\"cat\": 1\x7d".toList = .stop (.broken (.load (.noItems "int"))) ∧
    next emptyObject "\x7b\"cat\": [1]\x7d".toList = .stop (.broken (.load (.noText "int"))) := by
  intro env next emptyObject
  refine ⟨?_, ?_, ?_⟩ <;> apply Continuation.ending?_eq_some_iff.mp <;> decide +kernel

end BooleanRetrieval.SearchProgram
