import Sluice.Proofs.Waking.Registrations

/-!
# What lies in a mailbox

A notification puts its count behind those that lie there, and a waiter takes them out from the
front. Nothing else touches them, so that whoever looks at a mailbox twice finds what was left of
the first look, and what came in since behind it.
-/
namespace Sluice

namespace AckBoard

/-- The counts that lie in the mailbox of a waiter, oldest first: none if the waiter is gone. -/
def counts (b : AckBoard) (waiter : WaiterId) : List Nat :=
  (b.mailboxes.find? waiter).elim [] Mailbox.counts

variable {b b' : AckBoard} {handle : HandleId} {waiter receiver : WaiterId} {count : Nat}

theorem counts_of_find? {m : Mailbox} (h : b.mailboxes.find? waiter = some m) :
    b.counts waiter = m.counts := by
  rw [counts, h]
  rfl

theorem length_counts_le (b : AckBoard) (waiter : WaiterId) : (b.counts waiter).length ≤ 2 := by
  unfold counts
  cases b.mailboxes.find? waiter with
  | none => exact Nat.zero_le _
  | some m => exact m.bounded

theorem counts_congr (h : b'.mailboxes.find? waiter = b.mailboxes.find? waiter) :
    b'.counts waiter = b.counts waiter := by
  rw [counts, h, counts]

/-! ## Counts are taken from the front -/

theorem take?_eq_none_iff_counts : b.take? waiter = none ↔ b.counts waiter = [] := by
  unfold take? counts
  cases b.mailboxes.find? waiter with
  | none => exact iff_of_true rfl rfl
  | some m =>
    rw [Option.elim_some, ← m.take?_eq_none_iff]
    cases htake : m.take? <;> simp [htake]

theorem counts_of_take? (h : b.take? waiter = some (count, b')) :
    b.counts waiter = count :: b'.counts waiter := by
  unfold take? at h
  split at h
  · cases h
  · rename_i m hm
    split at h
    · cases h
    · rename_i c rest hrest
      cases h
      rw [counts_of_find? hm, m.counts_eq_of_take? hrest]
      exact congrArg _ (counts_of_find? (Table.find?_insert_self ..)).symm

theorem counts_of_take?_ne (h : b.take? receiver = some (count, b')) (hne : receiver ≠ waiter) :
    b'.counts waiter = b.counts waiter := by
  unfold take? at h
  split at h
  · cases h
  · split at h
    · cases h
    · cases h
      exact counts_congr ((Table.find?_insert ..).trans (if_neg hne))

/-! ## Counts are put behind -/

/-- A count that is posted to a waiter that exists is kept, unless two lie there. -/
theorem counts_deliver_self (hexists : (b.mailboxes.find? waiter).isSome) (handle : HandleId)
    (count : Nat) : (b.deliver handle waiter count).1.counts waiter =
      if (b.counts waiter).length < 2 then b.counts waiter ++ [count] else b.counts waiter := by
  obtain ⟨m, hm⟩ := Option.isSome_iff_exists.1 hexists
  have hpost : (b.deliver handle waiter count).1.mailboxes.find? waiter = some (m.post count) := by
    rw [find?_deliver, if_pos rfl, hm, Option.map_some]
  rw [counts_of_find? hpost, counts_of_find? hm, m.counts_post]

/-- A notification of a handle reaches the waiter that is registered under it. -/
theorem counts_notifyHandle (hregistered : b.registrations.find? handle = some waiter)
    (hexists : (b.mailboxes.find? waiter).isSome) (count : Nat) :
    (b.notifyHandle handle count).1.counts waiter =
      if (b.counts waiter).length < 2 then b.counts waiter ++ [count] else b.counts waiter := by
  simp only [notifyHandle, hregistered]
  let b₁ : AckBoard := { b with registrations := b.registrations.erase handle }
  have hexists₁ : (b₁.mailboxes.find? waiter).isSome := hexists
  exact counts_deliver_self hexists₁ handle count

theorem counts_prefix_deliver (b : AckBoard) (handle : HandleId) (receiver waiter : WaiterId)
    (count : Nat) : b.counts waiter <+: (b.deliver handle receiver count).1.counts waiter := by
  unfold counts
  rw [find?_deliver]
  split
  · cases b.mailboxes.find? waiter with
    | none => exact List.prefix_rfl
    | some m =>
      rw [Option.map_some, Option.elim_some, Option.elim_some, Mailbox.counts_post]
      split
      · exact List.prefix_append ..
      · exact List.prefix_rfl
  · exact List.prefix_rfl

theorem counts_prefix_deliverAll (b : AckBoard) (waiter : WaiterId) (count : Nat)
    (entries : List (HandleId × WaiterId)) :
    b.counts waiter <+: (b.deliverAll count entries).1.counts waiter := by
  induction entries generalizing b with
  | nil => exact List.prefix_rfl
  | cons e rest ih => exact (b.counts_prefix_deliver e.1 e.2 waiter count).trans (ih _)

theorem counts_prefix_notifyHandle (b : AckBoard) (handle : HandleId) (waiter : WaiterId)
    (count : Nat) : b.counts waiter <+: (b.notifyHandle handle count).1.counts waiter := by
  unfold notifyHandle
  split
  · rename_i receiver _
    let b₁ : AckBoard := { b with registrations := b.registrations.erase handle }
    exact b₁.counts_prefix_deliver handle receiver waiter count
  · exact List.prefix_rfl

theorem counts_prefix_notifyAll (b : AckBoard) (waiter : WaiterId) (count : Nat) :
    b.counts waiter <+: (b.notifyAll count).1.counts waiter := by
  unfold notifyAll
  split
  · exact List.prefix_rfl
  · let b₁ : AckBoard := { b with registrations := .empty }
    exact b₁.counts_prefix_deliverAll waiter count b.registrations.entries

end AckBoard

namespace Link

variable {τ : Type}

theorem counts_prefix_raise (l : Link τ) (signal : Signal) (name : BoardName)
    (waiter : WaiterId) :
    (l.board name).counts waiter <+: ((l.raise signal).board name).counts waiter := by
  cases name with
  | own => cases signal <;> exact List.prefix_rfl
  | shared =>
    cases signal with
    | drained handle freed => exact List.prefix_rfl
    | ack handle count => exact l.shared.counts_prefix_notifyHandle handle waiter count
    | ackAll count => exact l.shared.counts_prefix_notifyAll waiter count

end Link

namespace Session

variable {τ : Type}

/-- What lies in the mailbox of the session's writer. -/
def mail (s : Session τ) : List Nat := s.writer.waiter.elim [] s.ackBoard.counts

theorem mail_of_waiter {s : Session τ} {waiter : WaiterId} (h : s.writer.waiter = some waiter) :
    s.mail = s.ackBoard.counts waiter := by
  rw [mail, h]
  rfl

theorem length_mail_le (s : Session τ) : s.mail.length ≤ 2 := by
  unfold mail
  cases s.writer.waiter with
  | none => exact Nat.zero_le _
  | some waiter => exact s.ackBoard.length_counts_le waiter

/-- The writer kept its waiter, and its mailbox was left alone. -/
theorem mail_congr {s s' : Session τ} (hwaiter : s'.writer.waiter = s.writer.waiter)
    (hmailboxes : s'.ackBoard.mailboxes = s.ackBoard.mailboxes) : s'.mail = s.mail := by
  unfold mail AckBoard.counts
  rw [hwaiter, hmailboxes]

end Session

end Sluice
