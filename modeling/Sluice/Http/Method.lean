import Sluice.Http.Token

/-!
# Request methods
-/
namespace Sluice.Http

/-- A method name: one or more token characters. Names that differ in case differ. -/
structure Method where
  name : String
  valid : name ≠ "" ∧ name.toList.all (fun c => isToken c.toNat) = true
deriving DecidableEq

namespace Method

def get : Method := ⟨"GET", by decide⟩

instance : Inhabited Method := ⟨get⟩

def ofString? (text : String) : Option Method :=
  if h : text ≠ "" ∧ text.toList.all (fun c => isToken c.toNat) = true then some ⟨text, h⟩
  else none

theorem name_ofString? {text : String} {m : Method} (h : ofString? text = some m) :
    m.name = text := by
  unfold ofString? at h
  split at h <;> simp_all
  rw [← h]

end Method

end Sluice.Http
