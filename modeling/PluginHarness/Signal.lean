/-!
# Signals

The numbers and names of the signals that can end a process, and the sentence that says how a
process ended.

## Main definitions

* `Signal.name?`: the name of a signal number.
* `exitText`: how a process ended, by its exit code; a negative code is a signal.
-/

namespace PluginHarness

namespace Signal

/-- The names of the signals 1 to 31, in order. -/
def standardNames : List String :=
  ["SIGHUP", "SIGINT", "SIGQUIT", "SIGILL", "SIGTRAP", "SIGABRT", "SIGBUS", "SIGFPE", "SIGKILL",
   "SIGUSR1", "SIGSEGV", "SIGUSR2", "SIGPIPE", "SIGALRM", "SIGTERM", "SIGSTKFLT", "SIGCHLD",
   "SIGCONT", "SIGSTOP", "SIGTSTP", "SIGTTIN", "SIGTTOU", "SIGURG", "SIGXCPU", "SIGXFSZ",
   "SIGVTALRM", "SIGPROF", "SIGWINCH", "SIGIO", "SIGPWR", "SIGSYS"]

/-- The name of a signal, if it has one. The real-time signals have names only at both ends. -/
def name? (n : Nat) : Option String :=
  if n = 0 then none
  else if n = 34 then some "SIGRTMIN"
  else if n = 64 then some "SIGRTMAX"
  else standardNames[n - 1]?

end Signal

/-- How a process with this exit code ended. -/
def exitText (code : Int) : String :=
  if code < 0 then
    match Signal.name? code.natAbs with
    | some name => "died with <Signals." ++ name ++ ": " ++ toString code.natAbs ++ ">."
    | none => "died with unknown signal " ++ toString code.natAbs ++ "."
  else "returned non-zero exit status " ++ toString code ++ "."

end PluginHarness
