/-!
# Request handles

A handle names one request context of the transport. Signals that space was freed are routed
by it.
-/
namespace Sluice

structure HandleId where
  number : Nat
deriving DecidableEq, Inhabited

namespace HandleId

/-- Handles are ordered by number. -/
protected def compare (a b : HandleId) : Ordering := Ord.compare a.number b.number

/-- The short form used in the log. -/
def display (id : HandleId) : String := "#" ++ toString id.number

end HandleId

/-- What the transport is told when a handle is given back for good. -/
inductive Completion where
  | ok
  | error
deriving DecidableEq, Inhabited

end Sluice
