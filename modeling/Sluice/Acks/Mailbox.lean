/-!
# Mailboxes

A mailbox holds the acknowledgments that reached one waiter and were not yet taken, oldest
first. It has two places: one for a wake-up that is due and one for another that races with it.
A third would wake the waiter no sooner, so it is dropped.
-/
namespace Sluice

/-- A waiter is known by the number of its mailbox. -/
structure WaiterId where
  number : Nat
deriving DecidableEq, Inhabited

structure Mailbox where
  counts : List Nat
  bounded : counts.length ≤ 2
deriving DecidableEq

namespace Mailbox

def empty : Mailbox := ⟨[], by decide⟩

instance : Inhabited Mailbox := ⟨empty⟩

/-- Adds a count, unless both places are taken. -/
def post (m : Mailbox) (count : Nat) : Mailbox :=
  if h : m.counts.length < 2 then
    ⟨m.counts ++ [count], by rw [List.length_append, List.length_singleton]; omega⟩
  else
    m

/-- The oldest count and what is left. -/
def take? (m : Mailbox) : Option (Nat × Mailbox) :=
  match h : m.counts with
  | [] => none
  | count :: rest =>
    some (count, ⟨rest, by have := m.bounded; rw [h, List.length_cons] at this; omega⟩)

theorem counts_post (m : Mailbox) (count : Nat) :
    (m.post count).counts = if m.counts.length < 2 then m.counts ++ [count] else m.counts := by
  unfold post
  split <;> rfl

theorem take?_eq_none_iff (m : Mailbox) : m.take? = none ↔ m.counts = [] := by
  unfold take?
  split <;> simp_all

theorem counts_eq_of_take? {m rest : Mailbox} {count : Nat} (h : m.take? = some (count, rest)) :
    m.counts = count :: rest.counts := by
  unfold take? at h
  split at h
  · cases h
  · rename_i c r hc
    cases h
    exact hc

end Mailbox

end Sluice
