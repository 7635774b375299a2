import Sluice.Document.Value

/-!
# Records in a document

A record is a value with a fixed list of named fields, any of which may be missing. It is
written as an object, or as an array of its fields in order, of which the last ones may be
missing.
-/
namespace Sluice.Document

/-- The value of a field in an object; `none` if the field is given twice. -/
def uniqueField? (members : List (Option String × Value)) (name : String) :
    Option (Option Value) :=
  match members.filter fun m => m.1 = some name with
  | [] => some none
  | [(_, value)] => some (some value)
  | _ => none

/-- The values of the named fields, in the order of the names. Members with other names do not
count, however often they are given; but every key must have a text. -/
def Value.fields? (names : List String) : Value → Option (List (Option Value))
  | .object members =>
    if members.all (fun m => m.1.isSome) then names.mapM (uniqueField? members) else none
  | .array items =>
    if items.length ≤ names.length then
      some ((items.map some) ++ List.replicate (names.length - items.length) none)
    else
      none
  | _ => none

/-- The largest number a field may hold. -/
def maxWord : Nat := 18446744073709551615

def Value.word? : Value → Option Nat
  | .number (.natural n) => if n ≤ maxWord then some n else none
  | _ => none

def Value.bool? : Value → Option Bool
  | .bool b => some b
  | _ => none

/-- A number, or nothing written as `null`. -/
def Value.wordOrNull? : Value → Option (Option Nat)
  | .null => some none
  | v => v.word?.map some

/-- The value read from a field that is given, and otherwise the default. -/
def fieldOr {α : Type} (default : α) (read : Value → Option α) : Option Value → Option α
  | none => some default
  | some v => read v

end Sluice.Document
