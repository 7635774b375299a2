import Sluice.Transport.Faithful

/-!
# Interrupted transports

While one thread makes an offer to a loopback transport, others drain buffers and acknowledge space.
An interrupted transport knows beforehand what they will do: before an offer takes its bytes, and
after it, when the answer was not yet given.
-/
namespace Sluice

/-- What happens in the midst of an offer. -/
inductive Interruption where
  | drain (handle : HandleId)
  /-- A signal that nothing in the buffers accounts for. -/
  | signal (signal : Signal)
deriving DecidableEq, Inhabited

structure Interruptions where
  before : List Interruption := []
  after : List Interruption := []
deriving DecidableEq, Inhabited

structure Interrupted where
  inner : Loopback := {}
  /-- What interrupts the offers to come, the next one first. -/
  coming : List Interruptions := []
deriving DecidableEq, Inhabited

namespace Interrupted

/-- Interruptions in turn, with the signals they raise. -/
def interrupt (t : Loopback) : List Interruption → Loopback × List Signal
  | [] => (t, [])
  | .drain handle :: rest =>
    let (t, _, signals) := t.drain handle
    let (t, more) := interrupt t rest
    (t, signals ++ more)
  | .signal signal :: rest =>
    let (t, more) := interrupt t rest
    (t, signal :: more)

/-- What interrupts the next offer. -/
def next (t : Interrupted) : Interruptions := t.coming.headD {}

/-- The transport that the next offer finds. -/
def early (t : Interrupted) : Loopback := (interrupt t.inner t.next.before).1

/-- An offer with what comes next in its way. -/
def offer (t : Interrupted) (handle : HandleId) (chunk : ByteArray) :
    Interrupted × Nat × List Signal :=
  let (_, signals) := interrupt t.inner t.next.before
  let (inner, accepted) := t.early.offer handle chunk
  let (inner, more) := interrupt inner t.next.after
  (⟨inner, t.coming.tail⟩, accepted, signals ++ more)

def addField (t : Interrupted) (handle : HandleId) (name value : ByteArray) :
    Interrupted × Except TransportError Unit :=
  let (inner, answer) := t.inner.addField handle name value
  ({ t with inner }, answer)

def sendHeaders (t : Interrupted) (handle : HandleId) :
    Interrupted × Except TransportError Unit :=
  let (inner, answer) := t.inner.sendHeaders handle
  ({ t with inner }, answer)

instance : Transport Interrupted where
  allocate t := let (inner, handle) := t.inner.allocate; ({ t with inner }, .ok handle)
  finalize t handle completion := { t with inner := t.inner.finalize handle completion }
  offer := offer
  initResponse t handle status layout :=
    ({ t with inner := t.inner.initResponse handle status layout }, .ok ())
  addField := addField
  sendHeaders := sendHeaders

/-! ## Interruptions leave responses alone -/

theorem received_interrupt (t : Loopback) (l : List Interruption) (g : HandleId) :
    ((interrupt t l).1.exchange g).received = (t.exchange g).received := by
  induction l generalizing t with
  | nil => rfl
  | cons i rest ih =>
    cases i with
    | drain handle => exact (ih (t.drain handle).1).trans (t.received_exchange_drain handle g)
    | signal signal => exact ih t

theorem allocated_interrupt (t : Loopback) (l : List Interruption) :
    (interrupt t l).1.allocated = t.allocated := by
  induction l generalizing t with
  | nil => rfl
  | cons i rest ih =>
    cases i with
    | drain handle => exact (ih (t.drain handle).1).trans (t.allocated_drain handle)
    | signal signal => exact ih t

/-- The offer that the loopback transport sees. -/
theorem received_offer (t : Interrupted) (handle : HandleId) (chunk : ByteArray) (g : HandleId) :
    ((t.offer handle chunk).1.inner.exchange g).received =
      ((t.early.offer handle chunk).1.exchange g).received :=
  received_interrupt ..

/-- Whatever interrupts it, it is an orderly transport. -/
instance : Transport.Orderly Interrupted where
  received t handle := (t.inner.exchange handle).received
  offer_le_size t handle chunk := Loopback.room_le ..
  received_offer t handle chunk := by
    have hearly : (t.early.exchange handle).received = (t.inner.exchange handle).received :=
      received_interrupt ..
    have hoffer := Transport.Faithful.received_offer t.early handle chunk
    refine (received_offer t handle chunk handle).trans (hoffer.trans ?_)
    rw [← hearly]
    rfl
  received_initResponse t handle status layout h :=
    Transport.Faithful.received_initResponse t.inner handle status layout h
  received_addField t handle name value h :=
    Transport.Faithful.received_addField t.inner handle name value h
  received_sendHeaders t handle h := Transport.Faithful.received_sendHeaders t.inner handle h
  issued t handle := handle.number ≤ t.inner.allocated
  allocate_fresh t handle h := Transport.Orderly.allocate_fresh t.inner handle h
  issued_allocate t g h := Nat.le_succ_of_le h
  issued_finalize t handle completion g h := h
  issued_offer t handle chunk g h := by
    show g.number ≤ (interrupt _ _).1.allocated
    rw [allocated_interrupt]
    show g.number ≤ (interrupt _ _).1.allocated
    rwa [allocated_interrupt]
  issued_initResponse t handle status layout g h := h
  issued_addField t handle name value g h :=
    Transport.Orderly.issued_addField t.inner handle name value g h
  issued_sendHeaders t handle g h := Transport.Orderly.issued_sendHeaders t.inner handle g h
  received_allocate t g := rfl
  received_finalize t handle completion g := rfl
  received_offer_ne t handle chunk g h := by
    have hne := Transport.Orderly.received_offer_ne t.early handle chunk g h
    exact (received_offer t handle chunk g).trans (hne.trans (received_interrupt ..))
  received_initResponse_ne t handle status layout g h :=
    Transport.Orderly.received_initResponse_ne t.inner handle status layout g h
  received_addField_ne t handle name value g h :=
    Transport.Orderly.received_addField_ne t.inner handle name value g h
  received_sendHeaders_ne t handle g h :=
    Transport.Orderly.received_sendHeaders_ne t.inner handle g h

end Interrupted

end Sluice
