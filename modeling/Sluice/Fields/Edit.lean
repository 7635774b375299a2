import Sluice.Fields.Basic
import Sluice.InputFault

/-!
# Edits of a header section

An edit as it is asked for names its kind by a word and gives the name and the value as bytes.
Reading it checks these in a fixed order, so that of two faults the earlier one is told.
-/
namespace Sluice

namespace Fields

/-- A change of a header section. -/
inductive Edit where
  | insert (name : FieldName) (value : FieldValue)
  | append (name : FieldName) (value : FieldValue) (times : Nat)
  | remove (name : FieldName)
  | clear
deriving DecidableEq, Inhabited

def apply (f : Fields) : Edit → Fields
  | .insert name value => f.insert name value
  | .append name value times => f.append name value times
  | .remove name => f.remove name
  | .clear => empty

end Fields

/-- An edit as it is asked for. -/
structure EditRequest where
  word : String
  name : ByteArray := .empty
  value : ByteArray := .empty
  times : Nat := 1
deriving Inhabited

/-- A section is cleared whatever else the request holds. Otherwise the name is read first, then
the value where the edit needs one, and the word last. -/
def EditRequest.read (r : EditRequest) : Except InputFault Fields.Edit :=
  if r.word = "clear" then .ok .clear
  else match FieldName.ofBytes? r.name with
  | none => .error .name
  | some name =>
    if r.word = "remove" then .ok (.remove name)
    else match FieldValue.ofBytes? r.value with
    | none => .error .value
    | some value =>
      if r.word = "insert" then .ok (.insert name value)
      else if r.word = "append" then .ok (.append name value r.times)
      else .error .word

end Sluice
