import BooleanRetrieval.Proofs.Build.Course

/-!
# Cancelled builds

A build looks for a cancellation before every file, before every word and after the last file. Together
these looks miss none, wherever it comes from: from before the build, from between two words, from the last
word of the last file or from right before a failure. A cancelled build has no result, and nothing has been
filed behind the cancellation; a build with a result has been to all of its files
(`build_is_cancelled_or_complete`).
-/

set_option autoImplicit false

namespace BooleanRetrieval.Builder

/-- All that happens in the visits is quiet unless a reader cancels in one of them. -/
theorem all_isQuiet_happenings_iff {visits : List Visit} :
    (happenings visits).all isQuiet = true ↔ ¬ ∃ v ∈ visits, ReadEvent.cancel ∈ v.events := by
  have hvisit : ∀ v : Visit, v.happenings.all isQuiet = true ↔ ReadEvent.cancel ∉ v.events :=
    fun v => all_isQuiet_iff
  simp only [happenings, List.all_flatMap, List.all_eq_true, not_exists, not_and]
  exact forall₂_congr fun v _ => by rw [← hvisit, List.all_eq_true]

/-- Whether the build is set to be cancelled, beforehand or at one of its visits, decides which of two ends
it has, be it a build of both stores or of the index alone. If so, it has no result, and its stores have
what was filed before the first cancellation; nothing that goes on from a cancelled state files anything. If
not, it has a result, which holds everything that happened at its files and knows what became of each of its
paths. -/
theorem build_is_cancelled_or_complete (builder : Builder) (treeAfter : List LogRecord → FileTree)
    (paths : List String) (cancelled : Bool) :
    let visits := builder.visits treeAfter [opening paths.length 1] paths
    let set := cancelled = true ∨ ∃ v ∈ visits, ReadEvent.cancel ∈ v.events
    visits.map Visit.path = paths ∧
    ((∃ log, builder.build treeAfter paths cancelled 1 = .error (.cancelled log)) ↔ set) ∧
    ((∃ built, builder.build treeAfter paths cancelled 1 = .ok built ∧
        built.stores = ((happenings visits).filterMap (occurrence? builder.termOf)).foldl
          Stores.fill (.empty builder.withMatrix) ∧
        ∀ v ∈ visits, built.report.Knows v.path v.outcome) ↔ ¬ set) ∧
    (builder.course treeAfter paths cancelled).intake.stores =
      (if cancelled then [] else filed builder.termOf (happenings visits)).foldl Stores.fill
        (.empty builder.withMatrix) ∧
    (∀ doc stores events, (builder.takeEvents doc ⟨stores, true⟩ events).1.stores = stores) ∧
    ∀ stores report log rest,
      (builder.takeFiles treeAfter ⟨⟨stores, true⟩, report, log⟩ rest).intake.stores = stores := by
  intro visits set
  have hcourse := course_intake builder treeAfter paths cancelled
  have hset : (builder.course treeAfter paths cancelled).intake.cancelled = true ↔ set := by
    rw [hcourse, Bool.or_eq_true, Bool.not_eq_true', ← Bool.not_eq_true, all_isQuiet_happenings_iff,
      not_not]
  refine ⟨map_path_visits .., ⟨?_, fun h => ⟨_, build_of_cancelled (hset.mpr h)⟩⟩, ⟨?_, ?_⟩, ?_, ?_, ?_⟩
  · rintro ⟨log, hbuild⟩
    rw [← hset]
    by_contra hnot
    obtain ⟨built, hbuild', -⟩ := build_of_not_cancelled (Bool.not_eq_true _ ▸ hnot)
    rw [hbuild] at hbuild'
    cases hbuild'
  · rintro ⟨built, hbuild, -⟩ h
    rw [build_of_cancelled (hset.mpr h)] at hbuild
    cases hbuild
  · intro h
    obtain ⟨built, hbuild, -⟩ := build_of_not_cancelled (Bool.eq_false_iff.mpr (mt hset.mp h))
    obtain ⟨hstores, hreport⟩ := of_build_eq_ok hbuild
    refine ⟨built, hbuild, hstores, fun v hv => ?_⟩
    rw [hreport]
    exact BuildReport.knows_foldl hv _
  · rw [hcourse]
  · intro doc stores events
    rw [takeEvents_cancelled]
  · intro stores report log rest
    rw [takeFiles_cancelled]

/-- A reader that cancels the build at its last word and then fails, behind a file that is skipped. -/
theorem build_is_cancelled_or_complete_last_word :
    let torn : Reader :=
      ⟨.other "torn", [".txt"], fun _ => ⟨[.word "cat", .cancel], some (.custom "torn")⟩⟩
    let tree : FileTree := { entries := [(["a.txt"], .file [])] }
    let builder : Builder := ⟨[torn], .ok, true⟩
    (∃ v ∈ builder.visits (fun _ => tree) [opening 2 1] ["notes.md", "a.txt"],
      ReadEvent.cancel ∈ v.events) ∧
    ∃ log, builder.build (fun _ => tree) ["notes.md", "a.txt"] false 1 = .error (.cancelled log) := by
  intro torn tree builder
  have hset : ∃ v ∈ builder.visits (fun _ => tree) [opening 2 1] ["notes.md", "a.txt"],
      ReadEvent.cancel ∈ v.events := by
    decide +kernel
  exact ⟨hset, (build_is_cancelled_or_complete builder (fun _ => tree) ["notes.md", "a.txt"]
    false).2.1.mpr (.inr hset)⟩

end BooleanRetrieval.Builder
