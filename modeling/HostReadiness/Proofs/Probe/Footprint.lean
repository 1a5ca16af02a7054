import HostReadiness.Probe.Run

/-! What a probe asks. The questions that come up in a run are all that a probe learns of a host, so
hosts that answer them alike are the same to it. -/

namespace HostReadiness.Probe

def questions {α : Type} (site : Site) : Probe α → List Question
  | .done _ => []
  | .ask question next => question :: (next (site.answer question)).questions site
  | .note _ next => next.questions site

variable {α β : Type} {site other : Site}

@[simp] theorem questions_done (outcome : Except Fault α) : (done outcome).questions site = [] := rfl

@[simp] theorem questions_ofExcept (outcome : Except Fault α) :
    (ofExcept outcome).questions site = [] := rfl

@[simp] theorem questions_query (question : Question) :
    (query question).questions site = [question] := rfl

theorem questions_andThen (p : Probe α) (next : Except Fault α → Probe β) :
    (p.andThen next).questions site =
      p.questions site ++ (next (p.run site).outcome).questions site := by
  induction p with
  | done outcome => rfl
  | ask question rest ih => simp only [andThen, questions, run, ih, List.cons_append]
  | note record rest ih => simp only [andThen, questions, run, ih]

@[simp] theorem questions_attempt (p : Probe α) : p.attempt.questions site = p.questions site := by
  rw [attempt, questions_andThen, questions_done, List.append_nil]

theorem questions_bind_ok {p : Probe α} {value : α} (next : α → Probe β)
    (ends : (p.run site).outcome = .ok value) :
    (p >>= next).questions site = p.questions site ++ (next value).questions site := by
  change (p.andThen _).questions site = _
  rw [questions_andThen, ends]

theorem questions_bind_error {p : Probe α} {fault : Fault} (next : α → Probe β)
    (ends : (p.run site).outcome = .error fault) :
    (p >>= next).questions site = p.questions site := by
  change (p.andThen _).questions site = _
  rw [questions_andThen, ends, questions_done, List.append_nil]

/-- What follows a probe adds no question if it asks none, whatever the probe hands on. -/
theorem questions_bind_of_silent (p : Probe α) {next : α → Probe β}
    (silent : ∀ value, (next value).questions site = []) :
    (p >>= next).questions site = p.questions site := by
  cases ends : (p.run site).outcome with
  | ok value => rw [questions_bind_ok next ends, silent, List.append_nil]
  | error fault => exact questions_bind_error next ends

/-- A trace shows the questions and nothing else. -/
theorem trace_run (p : Probe α) :
    (p.run site).journal.trace = (p.questions site).map site.access := by
  induction p with
  | done outcome => rfl
  | ask question rest ih =>
    simp only [run, questions, Journal.trace_append, ih, List.map_cons]
    rfl
  | note record rest ih =>
    simp only [run, questions, Journal.trace_append, ih]
    rfl

/-- Sites that agree on what a probe asks on one of them are not told apart by it. Nothing is assumed
about the questions on the other site: the first answers settle which ones come next. -/
theorem run_eq_of_agree (p : Probe α)
    (agree : ∀ question ∈ p.questions site, other.answer question = site.answer question) :
    p.questions other = p.questions site ∧ (p.run other).outcome = (p.run site).outcome ∧
      (p.run other).journal.records = (p.run site).journal.records := by
  induction p with
  | done outcome => exact ⟨rfl, rfl, rfl⟩
  | ask question rest ih =>
    simp only [questions, List.mem_cons, forall_eq_or_imp] at agree
    obtain ⟨same, later⟩ := agree
    obtain ⟨asked, outcome, records⟩ := ih (site.answer question) later
    simp only [questions, run, same, Journal.records_append, asked, outcome, records]
    exact ⟨trivial, trivial, rfl⟩
  | note record rest ih =>
    obtain ⟨asked, outcome, records⟩ := ih agree
    simp only [questions, run, Journal.records_append, asked, outcome, records]
    exact ⟨trivial, trivial, trivial⟩

end HostReadiness.Probe
