import Sluice.Proofs.Caching.Eager

/-!
# How long the dead stay

A cache with a sweeper. The clock may jump over many of the sweeper's turns at once, and what is
stored or removed between two turns is up to the users of the cache. The sweeper begins to count at
its first turn, and the clock may move before that as well. From then on the next sweep never lies
more than one interval after the expiry of any entry, unless the entry was dead when the first sleep
began; and so an entry that is left after a turn has not been dead for an interval, or the sweeper
has not been at work for one.
-/
namespace Sluice

/-- A cache with the clock it goes by, and its sweeper. -/
structure SweptCache extends ClockedCache where
  sweeper : Sweeper

namespace SweptCache

/-- What can happen next. Entries get their time from the cache. -/
inductive Step where
  | store (key : String) (recording : Recording)
  | get (key : String)
  | remove (key : String)
  | purge
  | advance (d : Duration)
  /-- The sweeper's task is polled. It goes on if it is new, or if its timer is due. -/
  | turn
deriving DecidableEq

/-- An empty cache and the sweeper that was started for it just now. -/
def start (ttl : Duration) (maxEntries : Nat) (interval : Duration) (now : Instant) :
    SweptCache where
  cache := .new ttl maxEntries
  now
  sweeper := .start interval

def does (s : SweptCache) (op : Cache.Op) : SweptCache :=
  { s with toClockedCache := (s.toClockedCache.act op).1 }

/-- The entry stands in the cache. -/
def Has (s : SweptCache) (key : String) (entry : Cache.Entry) : Prop :=
  s.cache.entries.find? key = some entry

instance (s : SweptCache) (key : String) (entry : Cache.Entry) : Decidable (s.Has key entry) :=
  inferInstanceAs (Decidable (_ = _))

variable (sleep : Instant → Duration → Instant)

def act (s : SweptCache) : Step → SweptCache
  | .store key recording => s.does (.store key recording)
  | .get key => s.does (.get key)
  | .remove key => s.does (.remove key)
  | .purge => s.does .purge
  | .advance d => s.does (.advance d)
  | .turn =>
    { s.does (.sweep sleep s.sweeper) with
      sweeper := (s.sweeper.run sleep s.now (some s.cache)).1 }

def run (s : SweptCache) (steps : List Step) : SweptCache := steps.foldl (act sleep) s

theorem run_concat (s : SweptCache) (steps : List Step) (step : Step) :
    s.run sleep (steps ++ [step]) = (s.run sleep steps).act sleep step := by
  simp [run]

/-- When the sweeper has its first turn. If it has none in the run it is still to come, at the
end of it. -/
def firstTurn (s : SweptCache) : List Step → Instant
  | [] => s.now
  | step :: rest => if step = .turn then s.now else (s.act sleep step).firstTurn rest

/-- The sweeper has lain down to sleep, if it had not before. -/
def asleep (s : SweptCache) : SweptCache := { s with sweeper := s.sweeper.lieDown sleep s.now }

variable {sleep} {s : SweptCache}

/-! ## A turn of the sweeper -/

/-- A new sweeper falls asleep with its turn. -/
theorem turn_asleep (s : SweptCache) : (s.asleep sleep).act sleep .turn = s.act sleep .turn := rfl

/-- What a sweep leaves is fresh, and was there before. -/
theorem has_purge_iff {key : String} {entry : Cache.Entry} :
    (s.cache.purge s.now).1.entries.find? key = some entry ↔
      s.Has key entry ∧ s.now < entry.expires := by
  have hfilter := Table.find?_filter (fun _ e => e.isFresh s.now) s.cache.entries key
  show (s.cache.entries.filter _).find? key = some entry ↔ _
  rw [hfilter, Option.filter_eq_some_iff]
  simp [Has, Cache.Entry.isFresh]

theorem turn_of_due {wake : Instant} (hrunning : s.sweeper.finished = false)
    (hwake : s.sweeper.wake = some wake) (hdue : wake ≤ s.now) :
    s.act sleep .turn =
      { s with
        cache := (s.cache.purge s.now).1
        sweeper := { s.sweeper with wake := some (sleep s.now s.sweeper.interval) } } := by
  simp [act, does, ClockedCache.act, Sweeper.run, Sweeper.lieDown, Sweeper.isDue, hrunning, hwake,
    hdue]

theorem turn_of_not_due {wake : Instant} (hwake : s.sweeper.wake = some wake)
    (hlate : s.now < wake) : s.act sleep .turn = s := by
  have hdue : ¬ wake ≤ s.now := Nat.not_le_of_lt hlate
  obtain ⟨⟨cache, now⟩, interval, _, finished⟩ := s
  cases hwake
  simp [act, does, ClockedCache.act, Sweeper.run, Sweeper.lieDown, Sweeper.isDue, hdue]

/-! ## What a step leaves -/

/-- Only the sweeper's own turn changes when it wakes up. -/
theorem sweeper_act {step : Step} (hstep : step ≠ .turn) :
    (s.act sleep step).sweeper = s.sweeper := by
  cases step with
  | turn => exact absurd rfl hstep
  | _ => rfl

/-- The clock does not go back. -/
theorem now_le_act (s : SweptCache) (step : Step) : s.now ≤ (s.act sleep step).now := by
  cases step with
  | advance d => exact Nat.le_add_right ..
  | store key recording =>
    simp only [act, does, ClockedCache.act]
    split <;> exact Nat.le_refl _
  | _ => exact Nat.le_refl _

/-- An entry that stands after a step stood before it, or its life has just begun. -/
theorem has_act {step : Step} {key : String} {entry : Cache.Entry}
    (h : (s.act sleep step).Has key entry) : s.Has key entry ∨ s.now ≤ entry.expires := by
  cases step with
  | store other recording =>
    simp only [act, does, ClockedCache.act] at h
    split at h
    · exact .inl h
    · rename_i cache events hstore
      obtain ⟨expires, hafter, hset⟩ := Option.map_eq_some_iff.1 hstore
      obtain ⟨-, rfl⟩ := Instant.after?_eq_some_iff.1 hafter
      obtain rfl : (s.cache.set s.now other ⟨recording, s.now.after s.cache.ttl⟩).1 = cache :=
        congrArg Prod.fst hset
      rcases Cache.find?_set h with ⟨-, rfl⟩ | ⟨-, hold⟩
      · exact .inr (Nat.le_add_right ..)
      · exact .inl hold
  | get other => exact .inl ((s.cache.covers_get s.now other).find?_eq key entry h)
  | remove other => exact .inl ((s.cache.covers_erase other).find?_eq key entry h)
  | purge => exact .inl ((s.cache.covers_purge s.now).find?_eq key entry h)
  | advance d => exact .inl h
  | turn =>
    simp only [act, does, ClockedCache.act, Sweeper.run] at h
    split at h
    · exact .inl (has_purge_iff.1 h).1
    · exact .inl h

/-- No entry has expired before this moment, and the clock shows no earlier one. -/
structure Since (t : Instant) (s : SweptCache) : Prop where
  le_now : t ≤ s.now
  le_expires : ∀ key entry, s.Has key entry → t ≤ entry.expires

theorem Since.act {t : Instant} (h : Since t s) (step : Step) : Since t (s.act sleep step) :=
  ⟨Nat.le_trans h.le_now (s.now_le_act step), fun key entry hentry =>
    (has_act hentry).elim (h.le_expires key entry) fun hnow => Nat.le_trans h.le_now hnow⟩

theorem Since.run {t : Instant} (h : Since t s) (steps : List Step) :
    Since t (s.run sleep steps) := by
  induction steps generalizing s with
  | nil => exact h
  | cons step rest ih => exact ih (h.act step)

/-! ## The next sweep and the entries -/

/-- The sweeper is at work since `first`. Its next turn comes within an interval from now, and
within an interval from the end of each entry or from its own beginning, but for the time by which a
sleep may be late. -/
structure Tended (late : Duration) (first : Instant) (s : SweptCache) : Prop where
  running : s.sweeper.finished = false
  asleep : ∃ wake, s.sweeper.wake = some wake ∧
    wake ≤ (s.now.after s.sweeper.interval).after late ∧
    ∀ key entry, s.Has key entry → wake ≤ (entry.expires.after s.sweeper.interval).after late ∨
      wake ≤ (first.after s.sweeper.interval).after late

variable {late : Duration} {first : Instant}

theorem after_le_after {t u : Instant} (h : t ≤ u) (d late : Duration) :
    (t.after d).after late ≤ (u.after d).after late :=
  Instant.after_le_after (Instant.after_le_after h d) late

/-- A sweeper is at work from its first turn on. -/
theorem tended_asleep (hsleep : ∀ t d, sleep t d ≤ (t.after d).after late)
    (hrunning : s.sweeper.finished = false) (hnew : s.sweeper.wake = none) :
    Tended late s.now (s.asleep sleep) := by
  have hwake : (s.asleep sleep).sweeper.wake = some (sleep s.now s.sweeper.interval) := by
    simp [SweptCache.asleep, Sweeper.lieDown, hnew]
  exact ⟨hrunning, _, hwake, hsleep _ _, fun _ _ _ => .inr (hsleep _ _)⟩

namespace Tended

/-- A step of others puts the next sweep off for nobody. -/
theorem others (h : Tended late first s) {step : Step} (hstep : step ≠ .turn) :
    Tended late first (s.act sleep step) := by
  obtain ⟨wake, hwake, hnow, hentries⟩ := h.asleep
  have hsweeper : (s.act sleep step).sweeper = s.sweeper := sweeper_act hstep
  refine ⟨hsweeper ▸ h.running, wake, hsweeper ▸ hwake, ?_, fun key entry hentry => ?_⟩
  · rw [hsweeper]
    exact Nat.le_trans hnow (after_le_after (s.now_le_act step) ..)
  · rw [hsweeper]
    rcases has_act hentry with hold | hyoung
    · exact hentries key entry hold
    · exact .inl (Nat.le_trans hnow (after_le_after hyoung ..))

/-- A sweep is late by any time, but the next one counts from it, and it leaves only entries that
live on. -/
theorem turn (hsleep : ∀ t d, sleep t d ≤ (t.after d).after late) (h : Tended late first s) :
    Tended late first (s.act sleep .turn) := by
  obtain ⟨wake, hwake, -⟩ := h.asleep
  by_cases hdue : wake ≤ s.now
  · rw [turn_of_due h.running hwake hdue]
    refine ⟨h.running, _, rfl, hsleep _ _, fun key entry hentry => .inl ?_⟩
    obtain ⟨-, hfresh⟩ := has_purge_iff.1 hentry
    exact Nat.le_trans (hsleep _ _) (after_le_after (Nat.le_of_lt hfresh) ..)
  · rw [turn_of_not_due hwake (Nat.lt_of_not_le hdue)]
    exact h

theorem run (hsleep : ∀ t d, sleep t d ≤ (t.after d).after late) (h : Tended late first s)
    (steps : List Step) : Tended late first (s.run sleep steps) := by
  induction steps generalizing s with
  | nil => exact h
  | cons step rest ih =>
    by_cases hstep : step = .turn
    · subst hstep
      exact ih (h.turn hsleep)
    · exact ih (h.others hstep)

/-- After a turn no entry has been dead for an interval, or the sweeper has not been at work for
one. -/
theorem lt_of_turn (h : Tended late first s) {key : String} {entry : Cache.Entry}
    (hentry : (s.act sleep .turn).Has key entry) :
    s.now < (entry.expires.after s.sweeper.interval).after late ∨
      s.now < (first.after s.sweeper.interval).after late := by
  obtain ⟨wake, hwake, -, hentries⟩ := h.asleep
  by_cases hdue : wake ≤ s.now
  · -- the sweep has just been
    rw [turn_of_due h.running hwake hdue] at hentry
    obtain ⟨-, hfresh⟩ := has_purge_iff.1 hentry
    simp only [Instant.lt_def, Instant.after] at hfresh ⊢
    omega
  · -- the sweep is still to come
    have hlate : s.now < wake := Nat.lt_of_not_le hdue
    rw [turn_of_not_due hwake hlate] at hentry
    exact (hentries key entry hentry).imp (Nat.lt_of_lt_of_le hlate) (Nat.lt_of_lt_of_le hlate)

end Tended

/-! ## From the beginning -/

theorem interval_act (s : SweptCache) (step : Step) :
    (s.act sleep step).sweeper.interval = s.sweeper.interval := by
  by_cases hstep : step = .turn
  · subst hstep
    exact s.sweeper.interval_run sleep s.now _
  · rw [sweeper_act hstep]

theorem interval_run (s : SweptCache) (steps : List Step) :
    (s.run sleep steps).sweeper.interval = s.sweeper.interval := by
  induction steps generalizing s with
  | nil => rfl
  | cons step rest ih => exact (ih _).trans (s.interval_act step)

/-- However long a new sweeper has to wait for its first turn, it counts from there. -/
theorem lt_of_new (hsleep : ∀ t d, sleep t d ≤ (t.after d).after late)
    (hrunning : s.sweeper.finished = false) (hnew : s.sweeper.wake = none) (steps : List Step)
    {key : String} {entry : Cache.Entry}
    (hentry : ((s.run sleep steps).act sleep .turn).Has key entry) :
    (s.run sleep steps).now < (entry.expires.after s.sweeper.interval).after late ∨
      (s.run sleep steps).now <
        ((s.firstTurn sleep steps).after s.sweeper.interval).after late := by
  induction steps generalizing s with
  | nil =>
    rw [run, List.foldl_nil, ← turn_asleep] at hentry
    exact (tended_asleep hsleep hrunning hnew).lt_of_turn hentry
  | cons step rest ih =>
    by_cases hstep : step = .turn
    · subst hstep
      have htended := ((tended_asleep hsleep hrunning hnew).turn hsleep).run hsleep rest
      have hlt := htended.lt_of_turn hentry
      rw [interval_run, interval_act] at hlt
      exact hlt
    · have hsweeper : (s.act sleep step).sweeper = s.sweeper := sweeper_act hstep
      have hlt := ih (hsweeper ▸ hrunning) (hsweeper ▸ hnew) hentry
      rw [hsweeper] at hlt
      simp only [firstTurn, if_neg hstep]
      exact hlt

/-- No turn of the sweeper costs an entry that lives. -/
theorem has_turn {key : String} {entry : Cache.Entry} (hentry : s.Has key entry)
    (hfresh : s.now < entry.expires) : (s.act sleep .turn).Has key entry := by
  simp only [Has, act, does, ClockedCache.act, Sweeper.run]
  split
  · exact has_purge_iff.2 ⟨hentry, hfresh⟩
  · exact hentry

/-- The sweeper bounds how long a dead entry stays, from its first turn on. Whatever is done with a
cache since it was empty and got its sweeper, however far the clock jumps and however long the first
turn has to wait, after each turn every entry that is left lives, or has been dead for less than an
interval, or it has been less than an interval since the first turn; a sleep that is late adds as
much. If the clock has not moved before the first turn then the last of these is no exception. What
lives is left. -/
theorem lt_expires_after_interval (hsleep : ∀ t d, sleep t d ≤ (t.after d).after late)
    (ttl : Duration) (maxEntries : Nat) (interval : Duration) (now : Instant)
    (steps : List Step) :
    let s₀ := start ttl maxEntries interval now
    let first := s₀.firstTurn sleep steps
    let s := s₀.run sleep steps
    let s' := s₀.run sleep (steps ++ [.turn])
    (∀ key entry, s'.Has key entry →
      s'.now < (entry.expires.after interval).after late ∨
        s'.now < (first.after interval).after late) ∧
      (first = now → ∀ key entry, s'.Has key entry →
        s'.now < (entry.expires.after interval).after late) ∧
      ∀ key entry, s.Has key entry → s.now < entry.expires → s'.Has key entry := by
  intro s₀ first s s'
  have hs' : s' = s.act sleep .turn := run_concat ..
  have hnow : (s.act sleep .turn).now = s.now := rfl
  have hsince : Since now s₀ := ⟨Nat.le_refl _, nofun⟩
  have hlt : ∀ key entry, s'.Has key entry →
      s'.now < (entry.expires.after interval).after late ∨
        s'.now < (first.after interval).after late := fun key entry hentry => by
    rw [hs'] at hentry
    rw [hs', hnow]
    exact lt_of_new hsleep rfl rfl steps hentry
  refine ⟨hlt, fun hfirst key entry hentry => ?_, fun key entry hentry hfresh => ?_⟩
  · refine (hlt key entry hentry).elim id fun hyoung => ?_
    have hexpires : now ≤ entry.expires :=
      (hsince.run (steps ++ [.turn])).le_expires key entry hentry
    rw [hfirst] at hyoung
    exact Nat.lt_of_lt_of_le hyoung (after_le_after hexpires ..)
  · rw [hs']
    exact has_turn hentry hfresh

/-- A page of whose life the end falls between two milliseconds, and sweeps in between. -/
def graduated : List Step :=
  [.turn, .advance ⟨500000⟩, .store "/a" default, .advance ⟨9999600000⟩, .turn,
    .advance ⟨1000500000⟩]

/-- By timers that know whole milliseconds only the page is left when it has been dead for an
interval, but not for a millisecond more. -/
theorem lt_expires_after_interval_graduated :
    let s := (start (.ofSecs 10) 4 (.ofSecs 1) .start).run Instant.timer (graduated ++ [.turn])
    let expires : Instant := ⟨10000500000⟩
    s.Has "/a" ⟨default, expires⟩ ∧ ¬ s.now < expires.after (.ofSecs 1) ∧
      s.now < (expires.after (.ofSecs 1)).after Instant.graduation := by
  intro s expires
  have hhas : s.Has "/a" ⟨default, expires⟩ := by decide +kernel
  obtain ⟨-, hpunctual, -⟩ := lt_expires_after_interval Instant.timer_le_after (.ofSecs 10) 4
    (.ofSecs 1) .start graduated
  exact ⟨hhas, by decide +kernel, hpunctual (by decide +kernel) "/a" _ hhas⟩

/-- Of a sweeper that has to wait for its first turn until a page is dead. Its clock is exact, but
the page is left when it has been dead for longer than an interval. -/
theorem not_lt_expires_after_interval_idle :
    let s := (start (.ofSecs 10) 4 (.ofSecs 1) .start).run Instant.after
      [.store "/a" default, .advance (.ofSecs 12), .turn]
    let expires : Instant := Instant.start.after (.ofSecs 10)
    s.Has "/a" ⟨default, expires⟩ ∧ ¬ s.now < expires.after (.ofSecs 1) := by
  decide +kernel

end SweptCache

end Sluice
