import Sluice.Acks.Mailbox
import Sluice.Event
import Sluice.Table

/-!
# The acknowledgment board

Writers that wait for space leave a registration on the board, under the handle they write on. A
registration is good for one notification: whichever comes first takes it down and posts its
count to the waiter's mailbox. A notification that finds no registration is absorbed.
-/
namespace Sluice

structure AckBoard where
  /-- Who waits on which handle. -/
  registrations : Table HandleId WaiterId := .empty
  /-- The mailboxes of the waiters that still exist. -/
  mailboxes : Table WaiterId Mailbox := .empty
  /-- How many mailboxes were ever opened. -/
  opened : Nat := 0
  /-- How many notifications found nobody. -/
  absorbed : Nat := 0
deriving DecidableEq, Inhabited

namespace AckBoard

/-- How many registrations there are. -/
def waiting (b : AckBoard) : Nat := b.registrations.size

/-- A waiter that did not exist before. -/
def openMailbox (b : AckBoard) : AckBoard × WaiterId :=
  let waiter : WaiterId := ⟨b.opened⟩
  ({ b with mailboxes := b.mailboxes.insert waiter .empty, opened := b.opened + 1 }, waiter)

/-- The waiter is gone. Its registration stays until a notification finds it. -/
def closeMailbox (b : AckBoard) (waiter : WaiterId) : AckBoard :=
  { b with mailboxes := b.mailboxes.erase waiter }

/-- Registers a waiter for the next notification of the handle, in place of any other. -/
def attach (b : AckBoard) (handle : HandleId) (waiter : WaiterId) : AckBoard × List Event :=
  ({ b with registrations := b.registrations.insert handle waiter },
    if b.registrations.contains handle then [.registrationReplaced handle] else [])

/-- Takes down the registration of a handle, and tells whether there was one. -/
def detach (b : AckBoard) (handle : HandleId) : AckBoard × Bool :=
  ({ b with registrations := b.registrations.erase handle }, b.registrations.contains handle)

/-- Posts a count to a waiter that was registered under the handle. -/
def deliver (b : AckBoard) (handle : HandleId) (waiter : WaiterId) (count : Nat) :
    AckBoard × List Event :=
  match b.mailboxes.find? waiter with
  | some mailbox => ({ b with mailboxes := b.mailboxes.insert waiter (mailbox.post count) }, [])
  | none => (b, [.waiterGone handle])

def deliverAll (b : AckBoard) (count : Nat) :
    List (HandleId × WaiterId) → AckBoard × List Event
  | [] => (b, [])
  | (handle, waiter) :: rest =>
    let (b, events) := b.deliver handle waiter count
    let (b, more) := b.deliverAll count rest
    (b, events ++ more)

/-- Space was freed for one handle. Tells whether somebody was registered. -/
def notifyHandle (b : AckBoard) (handle : HandleId) (count : Nat) :
    AckBoard × List Event × Bool :=
  match b.registrations.find? handle with
  | some waiter =>
    let b := { b with registrations := b.registrations.erase handle }
    let (b, events) := b.deliver handle waiter count
    (b, events, true)
  | none => ({ b with absorbed := b.absorbed + 1 }, [.ackAbsorbed (some handle) count], false)

/-- Space was freed for some handle: every registration is used up, and those whose bytes still do
not fit register again. Tells how many there were. -/
def notifyAll (b : AckBoard) (count : Nat) : AckBoard × List Event × Nat :=
  match b.registrations.entries with
  | [] => ({ b with absorbed := b.absorbed + 1 }, [.ackAbsorbed none count], 0)
  | entries =>
    let (b, events) := { b with registrations := .empty }.deliverAll count entries
    (b, events, entries.length)

/-- Takes the oldest count out of a waiter's mailbox. -/
def take? (b : AckBoard) (waiter : WaiterId) : Option (Nat × AckBoard) :=
  match b.mailboxes.find? waiter with
  | none => none
  | some mailbox =>
    match mailbox.take? with
    | none => none
    | some (count, rest) =>
      some (count, { b with mailboxes := b.mailboxes.insert waiter rest })

/-! ## Who is registered -/

theorem find?_attach (b : AckBoard) (handle other : HandleId) (waiter : WaiterId) :
    (b.attach handle waiter).1.registrations.find? other =
      if handle = other then some waiter else b.registrations.find? other :=
  Table.find?_insert ..

theorem find?_detach (b : AckBoard) (handle other : HandleId) :
    (b.detach handle).1.registrations.find? other =
      if handle = other then none else b.registrations.find? other :=
  Table.find?_erase ..

@[simp] theorem registrations_deliver (b : AckBoard) (handle : HandleId) (waiter : WaiterId)
    (count : Nat) : (b.deliver handle waiter count).1.registrations = b.registrations := by
  unfold deliver
  split <;> rfl

@[simp] theorem registrations_deliverAll (b : AckBoard) (count : Nat)
    (entries : List (HandleId × WaiterId)) :
    (b.deliverAll count entries).1.registrations = b.registrations := by
  induction entries generalizing b with
  | nil => rfl
  | cons e rest ih =>
    simp only [deliverAll]
    rw [ih, registrations_deliver]

/-- A notification of a handle uses its registration up. -/
theorem find?_notifyHandle (b : AckBoard) (handle other : HandleId) (count : Nat) :
    (b.notifyHandle handle count).1.registrations.find? other =
      if handle = other then none else b.registrations.find? other := by
  unfold notifyHandle
  split
  · simp only [registrations_deliver]
    exact Table.find?_erase ..
  · rename_i hnone
    by_cases h : handle = other
    · simp [← h, hnone]
    · simp [h]

/-- A notification of all uses every registration up. -/
theorem waiting_notifyAll (b : AckBoard) (count : Nat) : (b.notifyAll count).1.waiting = 0 := by
  unfold notifyAll
  split
  · rename_i hnil
    simp [waiting, Table.size, hnil]
  · simp [waiting, Table.size, Table.empty]

end AckBoard

/-- A waiter that waits for its next acknowledgment. -/
structure Wait where
  waiter : WaiterId
  /-- When the wait began. -/
  since : Instant
  /-- How long it may last. -/
  limit : Option Duration
deriving DecidableEq, Inhabited

namespace Wait

/-- The time is up. -/
def expired (w : Wait) (now : Instant) : Option Duration :=
  w.limit.filter fun d => decide (w.since.timer d ≤ now)

theorem expired_of_timer_le {w : Wait} {now : Instant} {d : Duration} (hlimit : w.limit = some d)
    (hlate : w.since.timer d ≤ now) : w.expired now = some d := by
  rw [expired, hlimit, Option.filter_some, decide_eq_true hlate, if_pos rfl]

theorem expired_of_not_timer_le {w : Wait} {now : Instant} {d : Duration}
    (hlimit : w.limit = some d) (hlate : ¬ w.since.timer d ≤ now) : w.expired now = none := by
  rw [expired, hlimit, Option.filter_some, decide_eq_false hlate, if_neg Bool.false_ne_true]

/-- How the wait ends, if it can end now. A count that is there wins over the time. -/
def poll? (w : Wait) (now : Instant) (b : AckBoard) : Option (AckBoard × Except WriteError Nat) :=
  match b.take? w.waiter with
  | some (count, b) => some (b, .ok count)
  | none => (w.expired now).map fun d => (b, .error (.ackTimeout d))

end Wait

end Sluice
