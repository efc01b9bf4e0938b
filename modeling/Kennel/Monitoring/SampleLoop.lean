/-!
# The loop that takes samples in

Samples come to the daemon on two lines, one for the slow kind and one for the fast. The loop
takes what comes until both lines are closed or until it is stopped.
-/

namespace Kennel

structure SampleLoop where
  slowOpen : Bool := true
  fastOpen : Bool := true
  isStopped : Bool := false
  deriving DecidableEq, Inhabited

namespace SampleLoop

/-- Whether the loop takes no more samples of either kind. -/
def hasEnded (l : SampleLoop) : Bool := l.isStopped || (!l.slowOpen && !l.fastOpen)

/-- Whether a sample of this kind would be taken. -/
def accepts (l : SampleLoop) (slow : Bool) : Bool :=
  !l.hasEnded && if slow then l.slowOpen else l.fastOpen

/-- The loop after the line of one kind was closed. -/
def closeLine (l : SampleLoop) (slow : Bool) : SampleLoop :=
  if slow then { l with slowOpen := false } else { l with fastOpen := false }

/-- The loop after it was told to stop. -/
def stop (l : SampleLoop) : SampleLoop := { l with isStopped := true }

end SampleLoop

end Kennel
