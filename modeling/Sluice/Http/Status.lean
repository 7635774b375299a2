/-!
# Status codes
-/
namespace Sluice.Http

/-- A status code has three digits. -/
structure Status where
  code : Nat
  lower : 100 ≤ code := by decide
  upper : code ≤ 999 := by decide
deriving DecidableEq

namespace Status

def ok : Status := { code := 200 }

def internalServerError : Status := { code := 500 }

instance : Inhabited Status := ⟨ok⟩

def ofNat? (n : Nat) : Option Status :=
  if h : 100 ≤ n ∧ n ≤ 999 then some ⟨n, h.1, h.2⟩ else none

@[simp] theorem ofNat?_code (s : Status) : ofNat? s.code = some s := by
  simp [ofNat?, s.lower, s.upper]

end Status

end Sluice.Http
