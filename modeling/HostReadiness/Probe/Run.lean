import HostReadiness.Probe.Basic

/-! Running probes on a host, and the trace that a run leaves. -/

namespace HostReadiness

inductive Access where
  | command (argv : List String) (timeout : Option Quantity)
  | file (path : String)
  | lookUp (path : String)
deriving DecidableEq, Repr

structure Site where
  host : Host
  timeout : Option Quantity

namespace Site

def answer (site : Site) : (question : Question) → question.Answer
  | .run argv => site.host.run site.timeout argv
  | .readWhole path => site.host.readWhole path
  | .readLines path => site.host.readLines path
  | .lookUp path => site.host.lookUp path

def access (site : Site) : Question → Access
  | .run argv => .command argv site.timeout
  | .readWhole path => .file path
  | .readLines path => .file path
  | .lookUp path => .lookUp path

end Site

structure Journal where
  trace : List Access
  records : List Record
deriving DecidableEq, Repr

namespace Journal

def empty : Journal := ⟨[], []⟩

def append (a b : Journal) : Journal :=
  ⟨a.trace ++ b.trace, a.records ++ b.records⟩

instance : Append Journal := ⟨append⟩

def ofAccess (access : Access) : Journal := ⟨[access], []⟩

def ofRecord (record : Record) : Journal := ⟨[], [record]⟩

@[simp] theorem trace_empty : empty.trace = [] := rfl

@[simp] theorem records_empty : empty.records = [] := rfl

@[simp] theorem trace_append (a b : Journal) : (a ++ b).trace = a.trace ++ b.trace := rfl

@[simp] theorem records_append (a b : Journal) : (a ++ b).records = a.records ++ b.records := rfl

@[simp] theorem empty_append (a : Journal) : empty ++ a = a := rfl

@[simp] theorem append_empty (a : Journal) : a ++ empty = a := by
  change Journal.mk (a.trace ++ []) (a.records ++ []) = a
  rw [List.append_nil, List.append_nil]

theorem append_assoc (a b c : Journal) : a ++ b ++ c = a ++ (b ++ c) := by
  change Journal.mk (a.trace ++ b.trace ++ c.trace) (a.records ++ b.records ++ c.records) =
    Journal.mk (a.trace ++ (b.trace ++ c.trace)) (a.records ++ (b.records ++ c.records))
  rw [List.append_assoc, List.append_assoc]

end Journal

structure Run (α : Type) where
  outcome : Except Fault α
  journal : Journal

def Probe.run {α : Type} (site : Site) : Probe α → Run α
  | .done outcome => ⟨outcome, .empty⟩
  | .ask question next =>
    let rest := (next (site.answer question)).run site
    ⟨rest.outcome, .ofAccess (site.access question) ++ rest.journal⟩
  | .note record next =>
    let rest := next.run site
    ⟨rest.outcome, .ofRecord record ++ rest.journal⟩

namespace Probe

@[simp] theorem run_done {α : Type} (site : Site) (outcome : Except Fault α) :
    (done outcome).run site = ⟨outcome, .empty⟩ := rfl

@[simp] theorem run_query (site : Site) (question : Question) :
    (query question).run site = ⟨site.answer question, .ofAccess (site.access question)⟩ := rfl

/-- What follows a probe runs on the probe's outcome, and its journal comes after the probe's. -/
theorem run_andThen {α β : Type} (site : Site) (p : Probe α) (next : Except Fault α → Probe β) :
    (p.andThen next).run site =
      ⟨((next (p.run site).outcome).run site).outcome,
        (p.run site).journal ++ ((next (p.run site).outcome).run site).journal⟩ := by
  induction p with
  | done outcome => rfl
  | ask question rest ih => simp only [andThen, run, ih, Journal.append_assoc]
  | note record rest ih => simp only [andThen, run, ih, Journal.append_assoc]

/-- A probe that ends with a value hands it on. -/
theorem run_bind_ok {α β : Type} {site : Site} {p : Probe α} {value : α} (next : α → Probe β)
    (ends : (p.run site).outcome = .ok value) :
    (p >>= next).run site =
      ⟨((next value).run site).outcome, (p.run site).journal ++ ((next value).run site).journal⟩ := by
  change (p.andThen _).run site = _
  rw [run_andThen, ends]

theorem run_bind_error {α β : Type} {site : Site} {p : Probe α} {fault : Fault}
    (next : α → Probe β) (ends : (p.run site).outcome = .error fault) :
    (p >>= next).run site = ⟨.error fault, (p.run site).journal⟩ := by
  change (p.andThen _).run site = _
  rw [run_andThen, ends]
  simp only [run_done, Journal.append_empty]

end Probe

end HostReadiness
