/-! Signals that end a process, with the names that Linux gives them. -/

namespace HostReadiness

def signalNames : List String := [
  "SIGHUP", "SIGINT", "SIGQUIT", "SIGILL", "SIGTRAP", "SIGABRT", "SIGBUS", "SIGFPE", "SIGKILL",
  "SIGUSR1", "SIGSEGV", "SIGUSR2", "SIGPIPE", "SIGALRM", "SIGTERM", "SIGSTKFLT", "SIGCHLD",
  "SIGCONT", "SIGSTOP", "SIGTSTP", "SIGTTIN", "SIGTTOU", "SIGURG", "SIGXCPU", "SIGXFSZ",
  "SIGVTALRM", "SIGPROF", "SIGWINCH", "SIGIO", "SIGPWR", "SIGSYS"]

/-- The name of a signal. Of the real-time signals only the first and the last have one. -/
def signalName? (number : Nat) : Option String :=
  if number = 0 then none
  else if number = 34 then some "SIGRTMIN"
  else if number = 64 then some "SIGRTMAX"
  else signalNames[number - 1]?

end HostReadiness
