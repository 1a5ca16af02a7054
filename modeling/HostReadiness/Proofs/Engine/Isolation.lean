import HostReadiness.Engine.Parallel

/-! Checks do not get in each other's way: each ends as if it were the only one, and a schedule changes
nothing but the order in which things happen. -/

namespace HostReadiness

namespace Journal

structure Perm (a b : Journal) : Prop where
  trace : a.trace.Perm b.trace
  records : a.records.Perm b.records

theorem Perm.refl (a : Journal) : Perm a a :=
  ⟨List.Perm.refl _, List.Perm.refl _⟩

theorem Perm.trans {a b c : Journal} (first : Perm a b) (second : Perm b c) : Perm a c :=
  ⟨first.trace.trans second.trace, first.records.trans second.records⟩

theorem Perm.append_left {b c : Journal} (a : Journal) (same : Perm b c) :
    Perm (a ++ b) (a ++ c) :=
  ⟨same.trace.append_left a.trace, same.records.append_left a.records⟩

theorem perm_append_left_comm (a b c : Journal) : Perm (a ++ (b ++ c)) (b ++ (a ++ c)) :=
  ⟨List.perm_append_comm_assoc _ _ _, List.perm_append_comm_assoc _ _ _⟩

def concat : List Journal → Journal
  | [] => empty
  | journal :: rest => journal ++ concat rest

/-- What one of several runs does first may as well come before all of them. -/
theorem append_concat_set_perm {journals : List Journal} {turn : Nat} {first rest : Journal}
    (found : journals[turn]? = some (first ++ rest)) :
    Perm (first ++ concat (journals.set turn rest)) (concat journals) := by
  induction journals generalizing turn with
  | nil => simp at found
  | cons journal journals ih =>
    cases turn with
    | zero =>
      simp only [List.getElem?_cons_zero, Option.some.injEq] at found
      subst found
      simp only [List.set_cons_zero, concat, append_assoc]
      exact Perm.refl _
    | succ turn =>
      simp only [List.getElem?_cons_succ] at found
      simp only [List.set_cons_succ, concat]
      exact (perm_append_left_comm first journal _).trans ((ih found).append_left journal)

end Journal

namespace Probe

/-- A step is the beginning of a run: it leaves the outcome alone and writes the front of the journal. -/
theorem run_eq_step {α : Type} (site : Site) (p : Probe α) :
    p.run site =
      ⟨((p.step site).1.run site).outcome,
        (p.step site).2 ++ ((p.step site).1.run site).journal⟩ := by
  cases p with
  | done outcome => rfl
  | ask question next => rfl
  | note record next => rfl

theorem runEach_eq {α : Type} (site : Site) (probes : List (Probe α)) :
    runEach site probes =
      (probes.map fun p => (p.run site).outcome,
        Journal.concat (probes.map fun p => (p.run site).journal)) := by
  induction probes with
  | nil => rfl
  | cons p rest ih => simp only [runEach, ih, List.map_cons, Journal.concat]

/-- Under every schedule each probe ends as it does alone. -/
theorem runTogether_outcomes {α : Type} (site : Site) (schedule : Schedule)
    (probes : List (Probe α)) :
    (runTogether site schedule probes).1 = probes.map fun p => (p.run site).outcome := by
  induction schedule generalizing probes with
  | nil => rw [runTogether, runEach_eq]
  | cons turn schedule ih =>
    rw [runTogether]
    cases found : probes[turn]? with
    | none => exact ih probes
    | some p =>
      have same : (probes.map fun p => (p.run site).outcome)[turn]? =
          some ((p.step site).1.run site).outcome := by
        rw [List.getElem?_map, found, Option.map_some, run_eq_step site p]
      obtain ⟨bound, value⟩ := List.getElem?_eq_some_iff.1 same
      dsimp only
      rw [ih, List.map_set, ← value, List.set_getElem_self]

/-- A schedule only moves around what the probes do. -/
theorem runTogether_journal_perm {α : Type} (site : Site) (schedule : Schedule)
    (probes : List (Probe α)) :
    (runTogether site schedule probes).2.Perm
      (Journal.concat (probes.map fun p => (p.run site).journal)) := by
  induction schedule generalizing probes with
  | nil =>
    rw [runTogether, runEach_eq]
    exact Journal.Perm.refl _
  | cons turn schedule ih =>
    rw [runTogether]
    cases found : probes[turn]? with
    | none => exact ih probes
    | some p =>
      dsimp only
      have rest := ih (probes.set turn (p.step site).1)
      rw [List.map_set] at rest
      refine (rest.append_left (p.step site).2).trans (Journal.append_concat_set_perm ?_)
      rw [List.getElem?_map, found, Option.map_some, run_eq_step site p]

end Probe

namespace Engine

def resultAt (site : Site) (check : Check) : CheckResult :=
  resultOf check.name (check.probe.run site).outcome

/-- Whatever a check ends with, carrying it out ends with a result. -/
theorem outcome_runCheck (site : Site) (check : Check) :
    ((runCheck check).run site).outcome = .ok (resultAt site check) := by
  rw [runCheck, Probe.run_andThen]
  cases ends : (check.probe.run site).outcome with
  | ok message =>
    rw [resultAt, ends]
    rfl
  | error fault =>
    rw [resultAt, ends]
    rfl

/-- Carrying out checks in order ends with a result for each, and the journals follow each other. -/
theorem run_runInOrder (site : Site) (checks : List Check) :
    (runInOrder checks).run site =
      ⟨.ok (checks.map (resultAt site)),
        Journal.concat (checks.map fun check => ((runCheck check).run site).journal)⟩ := by
  induction checks with
  | nil => rfl
  | cons check rest ih =>
    have later : ((runInOrder rest).run site).outcome = .ok (rest.map (resultAt site)) := by
      rw [ih]
    rw [runInOrder, Probe.run_bind_ok _ (outcome_runCheck site check), Probe.run_bind_ok _ later, ih]
    change Run.mk _ (_ ++ (_ ++ Journal.empty)) = _
    rw [Journal.append_empty]
    rfl

theorem collect_map_ok (results : List CheckResult) : collect (results.map Except.ok) = results := by
  rw [collect, List.filterMap_map]
  exact List.filterMap_some

/-- The results of checks are those that they have alone, in order, in either mode. -/
theorem run_results (site : Site) (mode : Mode) (checks : List Check) :
    (run site mode checks).1 = checks.map (resultAt site) := by
  have inOrder : (run.runInOrderAt site checks).1 = checks.map (resultAt site) := by
    rw [run.runInOrderAt, run_runInOrder]
    rfl
  cases mode with
  | inOrder => exact inOrder
  | together schedule =>
    rw [run]
    split
    · exact inOrder
    · dsimp only
      rw [Probe.runTogether_outcomes, List.map_map, ← collect_map_ok (checks.map (resultAt site)),
        List.map_map]
      congr 1
      apply List.map_congr_left
      intro check _
      exact outcome_runCheck site check

/-- What happens during checks is what happens during each alone, in an order of the schedule's. -/
theorem run_journal_perm (site : Site) (mode : Mode) (checks : List Check) :
    (run site mode checks).2.Perm
      (Journal.concat (checks.map fun check => ((runCheck check).run site).journal)) := by
  have inOrder : (run.runInOrderAt site checks).2.Perm
      (Journal.concat (checks.map fun check => ((runCheck check).run site).journal)) := by
    rw [run.runInOrderAt, run_runInOrder]
    exact Journal.Perm.refl _
  cases mode with
  | inOrder => exact inOrder
  | together schedule =>
    rw [run]
    split
    · exact inOrder
    · have together := Probe.runTogether_journal_perm site schedule (checks.map runCheck)
      rw [List.map_map] at together
      exact together

/-- The first two parts say that a check has one result, at its own position and the same as alone,
whatever the other checks do. The next two say that no fault is lost on the way to the results. The
last says that a schedule does not show, except in the order in which things happen. -/
theorem run_isolates_checks (site : Site) (checks : List Check) :
    (∀ mode, (run site mode checks).1.length = checks.length) ∧
      (∀ (mode : Mode) (position : Nat) (check : Check), checks[position]? = some check →
        ∃ result, ((runCheck check).run site).outcome = .ok result ∧
          (run site mode checks).1[position]? = some result) ∧
      ((runInOrder checks).run site).outcome = .ok (run site .inOrder checks).1 ∧
      (∀ schedule, (Probe.runTogether site schedule (checks.map runCheck)).1 =
        (run site (.together schedule) checks).1.map Except.ok) ∧
      ∀ schedule,
        (run site (.together schedule) checks).1 = (run site .inOrder checks).1 ∧
          (run site (.together schedule) checks).2.trace.Perm (run site .inOrder checks).2.trace ∧
          (run site (.together schedule) checks).2.records.Perm
            (run site .inOrder checks).2.records := by
  refine ⟨fun mode => ?_, fun mode position check found => ?_, ?_, fun schedule => ?_,
    fun schedule => ?_⟩
  · rw [run_results, List.length_map]
  · refine ⟨resultAt site check, outcome_runCheck site check, ?_⟩
    rw [run_results, List.getElem?_map, found, Option.map_some]
  · rw [run_results, run_runInOrder]
  · rw [Probe.runTogether_outcomes, run_results, List.map_map, List.map_map]
    apply List.map_congr_left
    intro check _
    exact outcome_runCheck site check
  · have inOrder := run_journal_perm site .inOrder checks
    have together := run_journal_perm site (.together schedule) checks
    refine ⟨?_, together.trace.trans inOrder.trace.symm,
      together.records.trans inOrder.records.symm⟩
    rw [run_results, run_results]

end Engine

end HostReadiness
