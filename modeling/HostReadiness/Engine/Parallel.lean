import HostReadiness.Engine.Run

/-! Checks carried out side by side. Which of them gets to ask the host next is up to a schedule; the
results come in the order of the checks whatever the schedule is. -/

namespace HostReadiness

def Probe.step {α : Type} (site : Site) : Probe α → Probe α × Journal
  | .done outcome => (.done outcome, .empty)
  | .ask question next => (next (site.answer question), .ofAccess (site.access question))
  | .note record next => (next, .ofRecord record)

/-- Whose turn it is, one number a step: the position of a probe. When the schedule is over the probes
run to their ends in order. -/
abbrev Schedule := List Nat

namespace Probe

def runEach {α : Type} (site : Site) : List (Probe α) → List (Except Fault α) × Journal
  | [] => ([], .empty)
  | p :: rest =>
    let run := p.run site
    let (outcomes, journal) := runEach site rest
    (run.outcome :: outcomes, run.journal ++ journal)

/-- Runs probes side by side. A turn that belongs to no probe is lost. -/
def runTogether {α : Type} (site : Site) : Schedule → List (Probe α) →
    List (Except Fault α) × Journal
  | [], probes => runEach site probes
  | turn :: schedule, probes =>
    match probes[turn]? with
    | none => runTogether site schedule probes
    | some p =>
      let (next, first) := p.step site
      let (outcomes, journal) := runTogether site schedule (probes.set turn next)
      (outcomes, first ++ journal)

end Probe

namespace Engine

inductive Mode where
  | inOrder
  | together (schedule : Schedule)
deriving DecidableEq, Repr

def collect (outcomes : List (Except Fault CheckResult)) : List CheckResult :=
  outcomes.filterMap Except.toOption

/-- Puts a host through checks: the results in the order of the checks, and what happened. A single
check has nothing to run beside. -/
def run (site : Site) (mode : Mode) (checks : List Check) : List CheckResult × Journal :=
  match mode with
  | .inOrder => runInOrderAt
  | .together schedule =>
    if checks.length < 2 then runInOrderAt
    else
      let (outcomes, journal) := Probe.runTogether site schedule (checks.map runCheck)
      (collect outcomes, journal)
where
  runInOrderAt : List CheckResult × Journal :=
    let finished := (runInOrder checks).run site
    (finished.outcome.toOption.getD [], finished.journal)

end Engine

end HostReadiness
