/-!
# Faults of input

What can be wrong with a name, a value or a number that comes from outside, and the one word by
which each fault is known.
-/
namespace Sluice

inductive InputFault where
  | name
  | value
  | status
  | method
  | target
  /-- A word that names nothing to do. -/
  | word
  /-- A document that is no configuration. -/
  | document
deriving DecidableEq, Inhabited

def InputFault.text : InputFault → String
  | .name => "InvalidName"
  | .value => "InvalidValue"
  | .status => "InvalidStatus"
  | .method => "InvalidMethod"
  | .target => "InvalidUri"
  | .word => "BadStep"
  | .document => "Parse"

end Sluice
