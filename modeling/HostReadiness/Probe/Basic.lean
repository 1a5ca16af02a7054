import HostReadiness.Host.Basic

/-! Probes: programs that ask a host questions and leave records. A probe is data, so what it asks can
be followed on any host and under any schedule. -/

namespace HostReadiness

inductive Question where
  | run (argv : List String)
  | readWhole (path : String)
  | readLines (path : String)
  | lookUp (path : String)
deriving DecidableEq, Repr

abbrev Question.Reply : Question → Type
  | .run _ => String
  | .readWhole _ => String
  | .readLines _ => LineReading
  | .lookUp _ => Unit

abbrev Question.Answer (q : Question) : Type :=
  Except Fault q.Reply

inductive Level where
  | debug
  | info
  | warning
deriving DecidableEq, Repr

def Level.name : Level → String
  | .debug => "DEBUG"
  | .info => "INFO"
  | .warning => "WARNING"

def Level.rank : Level → Nat
  | .debug => 10
  | .info => 20
  | .warning => 30

structure Record where
  level : Level
  source : String
  text : String
deriving DecidableEq, Repr

def Record.line (record : Record) : String :=
  record.level.name ++ " " ++ record.source ++ ": " ++ record.text

/-- A program that asks a host and leaves records until it ends with a value or a fault. -/
inductive Probe (α : Type) where
  | done (outcome : Except Fault α)
  | ask (question : Question) (next : question.Answer → Probe α)
  | note (record : Record) (next : Probe α)

namespace Probe

def andThen {α β : Type} (p : Probe α) (next : Except Fault α → Probe β) : Probe β :=
  match p with
  | .done outcome => next outcome
  | .ask question rest => .ask question fun answer => (rest answer).andThen next
  | .note record rest => .note record (rest.andThen next)

instance : Monad Probe where
  pure value := .done (.ok value)
  bind p next := p.andThen fun
    | .ok value => next value
    | .error fault => .done (.error fault)

def ofExcept {α : Type} (outcome : Except Fault α) : Probe α :=
  .done outcome

def query (question : Question) : Probe question.Reply :=
  .ask question .done

def record (level : Level) (source text : String) : Probe Unit :=
  .note ⟨level, source, text⟩ (.done (.ok ()))

/-- The outcome of a probe as a value, so that a fault does not end what follows. -/
def attempt {α : Type} (p : Probe α) : Probe (Except Fault α) :=
  p.andThen fun outcome => .done (.ok outcome)

end Probe

end HostReadiness
