/-!
The signals by which programs are told something, by number and by name.
-/

namespace CallbackWeave.Signal

/-- The names of the signals from one on. -/
def names : List String :=
  ["HUP", "INT", "QUIT", "ILL", "TRAP", "ABRT", "BUS", "FPE", "KILL", "USR1", "SEGV", "USR2", "PIPE",
    "ALRM", "TERM", "STKFLT", "CHLD", "CONT", "STOP", "TSTP", "TTIN", "TTOU", "URG", "XCPU", "XFSZ",
    "VTALRM", "PROF", "WINCH", "IO", "PWR", "SYS"]

def kill : Nat := 9
def terminate : Nat := 15

/-- The signal of a name, which may be written with the letters that all names begin with. -/
def ofName? (name : String) : Option Nat :=
  let upper := name.toUpper
  let short := if upper.startsWith "SIG" then (upper.drop 3).toString else upper
  if short = "EXIT" then some 0
  else if short = "IOT" then some 6
  else if short = "POLL" then some 29
  else (names.idxOf? short).map (· + 1)

/-- Whether a program that has made no other arrangement ends at a signal. -/
def isDeadly (signal : Nat) : Bool :=
  signal ≠ 0 && !([17, 18, 19, 20, 21, 22, 23, 28].contains signal)

/-- Whether a program may arrange something else for a signal. -/
def isArrangeable (signal : Nat) : Bool := signal ≠ kill && signal ≠ 19

end CallbackWeave.Signal
