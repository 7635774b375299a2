import Sluice.Http.Method
import Sluice.Http.Target
import Sluice.InputFault

/-!
# Requests
-/
namespace Sluice

/-- What is known of a request: its method and the path of its target. -/
structure Request where
  method : Http.Method
  path : String
deriving DecidableEq, Inhabited

namespace Request

/-- Reads the method first. -/
def read (method target : String) : Except InputFault Request :=
  match Http.Method.ofString? method with
  | none => .error .method
  | some method =>
    match Http.Target.path? target with
    | none => .error .target
    | some path => .ok ⟨method, path⟩

/-- Only answers to GET are kept, under the path; the query is no part of the key. -/
def cacheKey? (r : Request) : Option String := if r.method = .get then some r.path else none

theorem cacheKey?_eq_some {r : Request} {key : String} (h : r.cacheKey? = some key) :
    r.method = .get ∧ r.path = key := by
  unfold cacheKey? at h
  split at h
  · rename_i hmethod
    exact ⟨hmethod, Option.some.inj h⟩
  · cases h

end Request

end Sluice
