import Sluice.Writer.Basic

/-!
# Writing a body

A body is offered chunk by chunk. After a short offer the writer registers for an acknowledgment
and offers the rest once more, since space may have been freed in between; only if that is
refused does it wait. A write that waits is a value of its own, `PendingWrite`: it can be resumed
when an acknowledgment is there or its time is up, or it can be dropped.
-/
namespace Sluice

/-- A write that waits for space: the first `written` bytes of `body` were accepted. -/
structure PendingWrite where
  body : ByteArray
  written : Nat
  wait : Wait
deriving DecidableEq, Inhabited

/-- How far a write came. -/
inductive Progress where
  | finished (result : Except WriteError Nat)
  | suspended (write : PendingWrite)
  /-- With chunks of no bytes a write neither ends nor waits. -/
  | endless

namespace Session

variable {τ : Type} [Transport τ]

/-- The body was accepted to the end. -/
def finishBody (s : Session τ) (body : ByteArray) : Session τ :=
  match s.writer.recorder with
  | none => s
  | some r =>
    let (r, events) := r.recordBody body
    ⟨{ s.writer with recorder := some r }, s.link.reportAll events⟩

/-- Counts an offer that left part of its chunk behind. -/
def countShort (s : Session τ) : Session τ :=
  { s with writer.stats.partialOffers := s.writer.stats.partialOffers + 1 }

/-- Begins to wait for an acknowledgment. -/
def beginWait (s : Session τ) (now : Instant) (waiter : WaiterId) (body : ByteArray)
    (written : Nat) : Session τ × PendingWrite :=
  let s := { s with writer.stats.waits := s.writer.stats.waits + 1 }
  (s.report (.bufferFull s.writer.handle written (body.size - written)),
    ⟨body, written, ⟨waiter, now, s.writer.settings.ackTimeout⟩⟩)

/-- Offers what is left of the body after its first `written` bytes, until it is through or the
writer has to wait. -/
def pour (now : Instant) (s : Session τ) (body : ByteArray) (written : Nat) :
    Session τ × Progress :=
  if written < body.size then
    if s.writer.settings.chunkSize = 0 then (s, .endless)
    else
      let stop := min body.size (written + s.writer.settings.chunkSize)
      let (s, accepted) := s.offer (body.extract written stop)
      if written + accepted = stop then pour now s body stop
      else
        let (s, waiter) := s.countShort.register
        let (s, retried) := s.offer (body.extract (written + accepted) stop)
        if 0 < retried then pour now s.unregister body (written + accepted + retried)
        else
          let (s, write) := s.beginWait now waiter body (written + accepted)
          (s, .suspended write)
  else
    (s.finishBody body, .finished (.ok written))
termination_by body.size - written
decreasing_by all_goals omega

/-- Starts to write a body. The header fields are sent first if they did not go out yet. -/
def write (s : Session τ) (now : Instant) (body : ByteArray) : Session τ × Progress :=
  match s.flush with
  | (s, .error e) => (s, .finished (.error e))
  | (s, .ok ()) => s.pour now body 0

/-- The wait was too long. The registration is taken down and a recording is given up, since the
response went out incomplete. -/
def giveUp (s : Session τ) (write : PendingWrite) (cause : WriteError) : Session τ :=
  let s := s.unregister
  let s := { s with writer.recorder := s.writer.recorder.map fun _ => .abandoned }
  s.report (.writeGivenUp s.writer.handle write.written (write.body.size - write.written) cause)

/-- How a wait can end now: the board without the acknowledgment that ends it, and the outcome. -/
def waitEnds? (s : Session τ) (now : Instant) (write : PendingWrite) :
    Option (AckBoard × Except WriteError Nat) :=
  write.wait.poll? now (s.link.board s.writer.board)

/-- Carries a waiting write on, if its wait can end now. -/
def resume (s : Session τ) (now : Instant) (write : PendingWrite) : Session τ × Progress :=
  match s.waitEnds? now write with
  | none => (s, .suspended write)
  | some (board, outcome) =>
    let s := { s with link := s.link.setBoard s.writer.board board }
    match outcome with
    | .ok ready => (s.report (.ackReceived s.writer.handle ready)).pour now write.body write.written
    | .error e => (s.giveUp write e, .finished (.error e))

/-- Starts to send a recording again. Its fields join those the writer has. -/
def replay (s : Session τ) (now : Instant) (r : Recording) : Session τ × Progress :=
  let s := { s with writer.fields := s.writer.fields.extend r.fields }
  match s.writeHeader r.status with
  | (s, .error e) => (s, .finished (.error e))
  | (s, .ok ()) =>
    if r.body.size = 0 then (s, .finished (.ok 0)) else s.write now r.body

end Session

end Sluice
