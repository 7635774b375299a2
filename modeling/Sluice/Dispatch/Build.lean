import Sluice.Cache.Sweeper
import Sluice.Dispatch.Basic

/-!
# Building a dispatcher

Nothing is asked of the transport before the settings were found valid. A pool that cannot be
filled is dropped, so that a build that fails leaves no handle behind.
-/
namespace Sluice

/-- What a dispatcher is built with, beside its settings. -/
structure BuildContext where
  /-- The board on which its writers will register. -/
  board : BoardName := .shared
  /-- Whether there is a runtime that could run a sweeper. -/
  runtime : Bool := true
deriving DecidableEq, Inhabited

namespace Dispatcher

variable {τ : Type} [Transport τ]

/-- The pool, filled if the settings ask for it. -/
def buildPool (s : PoolSettings) (l : Link τ) : Link τ × Except BuildError Pool :=
  match Pool.new? s.capacity with
  | .error e => (l, .error (.settings e))
  | .ok pool =>
    if s.prefill then
      match pool.prefill l with
      | (pool, l, .error e) => (pool.drop l, .error (.prefill e))
      | (pool, l, .ok _) => (l, .ok pool)
    else
      (l, .ok pool)

/-- A dispatcher, and the interval of its sweeper if it has one. -/
def build (s : Settings) (c : BuildContext) (l : Link τ) :
    Link τ × Except BuildError (Dispatcher × Option Duration) :=
  match s.validate with
  | .error e => (l, .error (.settings e))
  | .ok () =>
    match buildPool s.pool l with
    | (l, .error e) => (l, .error e)
    | (l, .ok pool) =>
      let cache := if s.cache.enabled then some (Cache.ofSettings s.cache) else none
      let interval := if s.cache.enabled then s.cache.sweepInterval else none
      let l := if interval.isSome && !c.runtime then l.report .sweeperDisabled else l
      let l := l.report (.dispatcherBuilt pool.capacity cache.isSome s.writer.chunkSize)
      (l, .ok (⟨c.board, pool, cache, s⟩, if c.runtime then interval else none))

/-- A pool that was built is empty, or holds all the handles that it wants. -/
theorem buildPool_eq_ok {s : PoolSettings} {l l' : Link τ} {pool : Pool}
    (h : buildPool s l = (l', .ok pool)) :
    pool.handles = [] ∧ l' = l ∨
      ∃ l₁, Pool.allocateMany l [] s.capacity = (l₁, pool.handles, none) ∧
        l'.transport = l₁.transport := by
  by_cases hcapacity : s.capacity = 0
  · simp [buildPool, Pool.new?, hcapacity] at h
  · have hnew : Pool.new? s.capacity = .ok { capacity := s.capacity } := if_neg hcapacity
    cases hprefill : s.prefill with
    | false =>
      simp only [buildPool, hnew, hprefill] at h
      cases h
      exact .inl ⟨rfl, rfl⟩
    | true =>
      simp only [buildPool, hnew, hprefill, Pool.prefill, List.length_nil, Nat.sub_zero,
        List.nil_append, if_true] at h
      rcases hmany : Pool.allocateMany l [] s.capacity with ⟨l₁, added, _ | e⟩
      · rw [hmany] at h
        cases h
        exact .inr ⟨l₁, rfl, rfl⟩
      · rw [hmany] at h
        cases h

/-- What a build that succeeds has done. -/
structure Builds (s : Settings) (l l' : Link τ) (d : Dispatcher) : Prop where
  valid : s.validate = .ok ()
  /-- Once there was a pool the transport was left alone. -/
  pool : ∃ l₁, buildPool s.pool l = (l₁, .ok d.pool) ∧ l'.transport = l₁.transport
  cache_eq : d.cache = if s.cache.enabled then some (Cache.ofSettings s.cache) else none
  settings_eq : d.settings = s

theorem builds_build {s : Settings} {c : BuildContext} {l l' : Link τ} {d : Dispatcher}
    {interval : Option Duration} (h : build s c l = (l', .ok (d, interval))) : Builds s l l' d := by
  unfold build at h
  split at h
  · cases h
  · rename_i hvalid
    split at h
    · cases h
    · rename_i l₁ pool hpool
      dsimp only at h
      cases h
      have htransport (disabled : Bool) :
          (if disabled then l₁.report .sweeperDisabled else l₁).transport = l₁.transport := by
        cases disabled <;> rfl
      exact ⟨hvalid, ⟨l₁, hpool, by rw [Link.transport_report, htransport]⟩, rfl, rfl⟩

/-- The dispatcher is dropped, with its pool. -/
def drop (d : Dispatcher) (l : Link τ) : Link τ := d.pool.drop l

end Dispatcher

end Sluice
