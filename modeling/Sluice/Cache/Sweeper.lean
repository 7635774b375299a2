import Sluice.Cache.Basic

/-!
# Sweepers

A sweeper is a task that purges a cache again and again. It sleeps for its interval, purges, and
sleeps for the interval from that moment on, so a late wake-up costs one purge only. When its
cache is gone it ends. The first sleep begins when the task has its first turn, which need not
be when it was started. The end of a sleep, from its beginning and its length, is up to the
clock it is slept by.
-/
namespace Sluice

structure Sweeper where
  interval : Duration
  /-- When it wakes up next. Before its first turn it is not asleep. -/
  wake : Option Instant
  finished : Bool := false
deriving DecidableEq, Inhabited

namespace Sweeper

def start (interval : Duration) : Sweeper := ⟨interval, none, false⟩

def isDue (s : Sweeper) (now : Instant) : Bool :=
  !s.finished && s.wake.any fun wake => decide (wake ≤ now)

variable (sleep : Instant → Duration → Instant)

/-- Falls asleep, if that was still to come. -/
def lieDown (s : Sweeper) (now : Instant) : Sweeper :=
  { s with wake := some (s.wake.getD (sleep now s.interval)) }

/-- One turn: wakes up, if it is time, with the cache if there still is one. -/
def run (s : Sweeper) (now : Instant) (cache : Option Cache) :
    Sweeper × Option Cache × List Event :=
  let s := s.lieDown sleep now
  if s.isDue now then
    match cache with
    | none => ({ s with finished := true }, none, [.sweeperExits])
    | some c =>
      let (c, events, _) := c.purge now
      ({ s with wake := some (sleep now s.interval) }, some c, events)
  else
    (s, cache, [])

@[simp] theorem interval_run (s : Sweeper) (now : Instant) (cache : Option Cache) :
    (s.run sleep now cache).1.interval = s.interval := by
  unfold run
  dsimp only
  split
  · cases cache <;> rfl
  · rfl

end Sweeper

end Sluice
