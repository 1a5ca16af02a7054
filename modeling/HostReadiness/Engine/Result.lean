import HostReadiness.Json.Shown

/-! The result of a check, and the payload made of many results. -/

namespace HostReadiness

inductive Status where
  | pass
  | fail
  | error
deriving DecidableEq, Repr

def Status.name : Status → String
  | .pass => "pass"
  | .fail => "fail"
  | .error => "error"

def Status.all : List Status := [.pass, .fail, .error]

def Status.ofName? (name : String) : Option Status :=
  all.find? fun status => status.name = name

def Status.unknownText (value : Json) : String :=
  value.shown ++ " is not a valid Status"

structure CheckResult where
  name : String
  status : Status
  message : String
  error : Option String
  details : List (String × Json)
deriving Repr

namespace CheckResult

def passed (name : String) : CheckResult :=
  ⟨name, .pass, "", none, []⟩

def failed (name message : String) : CheckResult :=
  ⟨name, .fail, message, none, []⟩

def couldNotRun (name error className : String) : CheckResult :=
  ⟨name, .error, "", some error, [("exception", .text className)]⟩

end CheckResult

def countStatus (status : Status) (results : List CheckResult) : Nat :=
  results.countP fun result => result.status = status

structure Summary where
  pass : Nat
  fail : Nat
  error : Nat
deriving DecidableEq, Repr

def Summary.add (summary : Summary) : Status → Summary
  | .pass => { summary with pass := summary.pass + 1 }
  | .fail => { summary with fail := summary.fail + 1 }
  | .error => { summary with error := summary.error + 1 }

def summarize (results : List CheckResult) : Summary :=
  results.foldl (fun summary result => summary.add result.status) ⟨0, 0, 0⟩

theorem foldl_add_status (start : Summary) (results : List CheckResult) :
    results.foldl (fun summary result => summary.add result.status) start =
      ⟨start.pass + countStatus .pass results, start.fail + countStatus .fail results,
        start.error + countStatus .error results⟩ := by
  induction results generalizing start with
  | nil => rfl
  | cons result rest ih =>
    rw [List.foldl_cons, ih]
    cases status : result.status <;>
      simp [Summary.add, countStatus, status, Nat.add_assoc, Nat.add_comm 1]

theorem summarize_eq (results : List CheckResult) :
    summarize results =
      ⟨countStatus .pass results, countStatus .fail results, countStatus .error results⟩ := by
  simp [summarize, foldl_add_status]

def allPassed (results : List CheckResult) : Bool :=
  results.all fun result => result.status = .pass

end HostReadiness
