/-!
# How a program ends

A program ends with a code, zero if it succeeded, or by a signal.
-/

namespace Kennel

/-- How a program ended. -/
inductive Exit where
  | code (n : Nat)
  | signal (n : Nat)
  deriving DecidableEq, Inhabited

/-- The signals that end a program, by the names they are sent under. -/
def signalNumbers : List (String × Nat) :=
  [("HUP", 1), ("INT", 2), ("QUIT", 3), ("ILL", 4), ("TRAP", 5), ("ABRT", 6), ("BUS", 7),
    ("FPE", 8), ("KILL", 9), ("USR1", 10), ("SEGV", 11), ("USR2", 12), ("PIPE", 13),
    ("ALRM", 14), ("TERM", 15)]

def signalName (n : Nat) : Option String :=
  (signalNumbers.find? (·.2 == n)).map fun e => "SIG" ++ e.1

/-- The exit as it is shown. -/
def Exit.text : Exit → String
  | code n => "exit status: " ++ toString n
  | signal n =>
    "signal: " ++ toString n ++
      match signalName n with
      | some name => " (" ++ name ++ ")"
      | none => ""

end Kennel
