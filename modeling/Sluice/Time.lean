/-!
# Time

Lengths of time and moments of a clock, both counted in whole nanoseconds, and the written
form of a length. A moment counts from when its clock was started. Waits with a limit and sleeps
end by timers, which know fewer moments than the clock: whole milliseconds only, and not all of
those.
-/
namespace Sluice

/-- A length of time. -/
structure Duration where
  /-- Whole nanoseconds. -/
  nanos : Nat
deriving DecidableEq, Inhabited

namespace Duration

def ofSecs (n : Nat) : Duration := ⟨n * 1000000000⟩

def ofMillis (n : Nat) : Duration := ⟨n * 1000000⟩

/-- `secs` seconds and `nanos` nanoseconds together. -/
def ofParts (secs nanos : Nat) : Duration := ⟨secs * 1000000000 + nanos⟩

/-- The whole seconds. -/
def secs (d : Duration) : Nat := d.nanos / 1000000000

/-- What is left beside the whole seconds, in nanoseconds. -/
def subsecNanos (d : Duration) : Nat := d.nanos % 1000000000

/-- The whole milliseconds; a started one does not count. -/
def wholeMillis (d : Duration) : Nat := d.nanos / 1000000

@[simp] theorem wholeMillis_ofMillis (n : Nat) : (ofMillis n).wholeMillis = n := by
  simp [wholeMillis, ofMillis]

theorem ofParts_secs_subsecNanos (d : Duration) : ofParts d.secs d.subsecNanos = d := by
  obtain ⟨n⟩ := d
  simp only [ofParts, secs, subsecNanos, mk.injEq]
  omega

/-- The last `width` decimal digits of `n`, with leading zeros, most significant first. -/
def digits : (width n : Nat) → List Char
  | 0, _ => []
  | width + 1, n => digits width (n / 10) ++ [Nat.digitChar (n % 10)]

/-- A whole part and the `width` digits after the point. Trailing zeros are left out, and the
point with them when nothing follows it. -/
def decimal (whole width rest : Nat) : String :=
  match ((digits width rest).reverse.dropWhile (· == '0')).reverse with
  | [] => toString whole
  | shown => toString whole ++ "." ++ String.ofList shown

/-- The written form: exact, in the largest of s, ms, µs and ns that leaves a whole part. -/
def text (d : Duration) : String :=
  if 1000000000 ≤ d.nanos then decimal (d.nanos / 1000000000) 9 d.nanos ++ "s"
  else if 1000000 ≤ d.nanos then decimal (d.nanos / 1000000) 6 d.nanos ++ "ms"
  else if 1000 ≤ d.nanos then decimal (d.nanos / 1000) 3 d.nanos ++ "µs"
  else toString d.nanos ++ "ns"

/-! ## Some written lengths -/

example : (ofMillis 0).text = "0ns" := by decide +kernel

example : (ofParts 0 1500).text = "1.5µs" := by decide +kernel

example : (ofParts 0 1234567).text = "1.234567ms" := by decide +kernel

example : (ofMillis 3600250).text = "3600.25s" := by decide +kernel

end Duration

/-- A moment of a clock. -/
structure Instant where
  /-- Whole nanoseconds since the clock was started. -/
  nanos : Nat
deriving DecidableEq, Inhabited

namespace Instant

/-- The moment at which the clock was started. -/
def start : Instant := ⟨0⟩

instance : LE Instant := ⟨fun a b => a.nanos ≤ b.nanos⟩

instance : LT Instant := ⟨fun a b => a.nanos < b.nanos⟩

instance (a b : Instant) : Decidable (a ≤ b) := inferInstanceAs (Decidable (a.nanos ≤ b.nanos))

instance (a b : Instant) : Decidable (a < b) := inferInstanceAs (Decidable (a.nanos < b.nanos))

theorem le_def {a b : Instant} : a ≤ b ↔ a.nanos ≤ b.nanos := Iff.rfl

theorem lt_def {a b : Instant} : a < b ↔ a.nanos < b.nanos := Iff.rfl

/-- The moment `d` later, on a clock without an end. -/
def after (t : Instant) (d : Duration) : Instant := ⟨t.nanos + d.nanos⟩

theorem after_le_after {t u : Instant} (h : t ≤ u) (d : Duration) : t.after d ≤ u.after d :=
  Nat.add_le_add_right h _

/-- The clock counts its seconds in a signed 64-bit word. -/
def limit : Nat := Nat.pow 2 63 * 1000000000

/-- The moment `d` later, where the clock can still name it. -/
def after? (t : Instant) (d : Duration) : Option Instant :=
  if t.nanos + d.nanos < limit then some (t.after d) else none

theorem after?_eq_some_iff {t u : Instant} {d : Duration} :
    t.after? d = some u ↔ t.nanos + d.nanos < limit ∧ u = t.after d := by
  unfold after?
  grind

/-- The first whole millisecond that is not before `t`. -/
def roundUp (t : Instant) : Instant := ⟨(t.nanos + 999999) / 1000000 * 1000000⟩

theorem le_roundUp (t : Instant) : t ≤ t.roundUp := by
  simp only [le_def, roundUp]
  omega

theorem roundUp_le_roundUp {t u : Instant} (h : t ≤ u) : t.roundUp ≤ u.roundUp := by
  simp only [le_def, roundUp] at h ⊢
  omega

/-- What rounding up adds at the most. -/
def graduation : Duration := ⟨999999⟩

theorem roundUp_le_after (t : Instant) : t.roundUp ≤ t.after graduation := by
  simp only [le_def, roundUp, after, graduation]
  omega

/-- A timer counts whole milliseconds in a 64-bit word, whose last two values are not moments. -/
def lastTimer : Instant := ⟨(Nat.pow 2 64 - 3) * 1000000⟩

/-- The moment at which a timer goes off that is set at `t` to run for `d`: the first whole
millisecond at which its time is over. What lies beyond the last moment a timer can be set to is
taken for that moment. -/
def timer (t : Instant) (d : Duration) : Instant :=
  ⟨min (t.after d).roundUp.nanos lastTimer.nanos⟩

/-- Of two timers the one with the later end is not the first to go off. -/
theorem timer_le_timer {t u : Instant} {d e : Duration} (h : t.after d ≤ u.after e) :
    t.timer d ≤ u.timer e :=
  Nat.le_min.2 ⟨Nat.le_trans (Nat.min_le_left ..) (roundUp_le_roundUp h), Nat.min_le_right ..⟩

/-- Up to its last moment a timer is not early. -/
theorem after_le_timer {t : Instant} {d : Duration} (h : t.after d ≤ lastTimer) :
    t.after d ≤ t.timer d :=
  Nat.le_min.2 ⟨(t.after d).le_roundUp, h⟩

/-- A timer is late by what the rounding adds at the most. -/
theorem timer_le_roundUp (t : Instant) (d : Duration) : t.timer d ≤ (t.after d).roundUp :=
  Nat.min_le_left ..

theorem timer_le_after (t : Instant) (d : Duration) :
    t.timer d ≤ (t.after d).after graduation :=
  Nat.le_trans (t.timer_le_roundUp d) (t.after d).roundUp_le_after

/-- How long after the start the moment lies. -/
def sinceStart (t : Instant) : Duration := ⟨t.nanos⟩

/-- The whole milliseconds since the start. -/
def millis (t : Instant) : Nat := t.nanos / 1000000

/-! ## Some timers -/

example : start.timer (.ofMillis 1000000000000) = ⟨1000000000000 * 1000000⟩ := by decide

/-- Half a millisecond after the start there is none for half a millisecond more and one. -/
example : (Instant.mk 500000).timer (.ofMillis 1) = ⟨2000000⟩ := by decide

example : start.timer (.ofMillis (2 ^ 64 - 1)) = lastTimer := by decide

example : lastTimer.timer (.ofMillis 1) = lastTimer := by decide

end Instant

end Sluice
