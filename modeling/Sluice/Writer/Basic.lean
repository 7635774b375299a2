import Sluice.Fields.Edit
import Sluice.Link
import Sluice.Recording
import Sluice.Settings

/-!
# Writers

A writer sends one response on one handle. Header fields are collected until they are sent, once,
with a status. A session is a writer at its link; what a writer does is a step of its session.
-/
namespace Sluice

/-- Counts what the writing of bodies took. -/
structure WriteStats where
  /-- Calls of `offer`. -/
  offers : Nat := 0
  /-- Offers that left part of a chunk behind. -/
  partialOffers : Nat := 0
  /-- Waits for an acknowledgment. -/
  waits : Nat := 0
  /-- Body bytes the transport accepted. -/
  bytes : Nat := 0
deriving DecidableEq, Inhabited

structure Writer where
  handle : HandleId
  /-- Where it registers when it waits. -/
  board : BoardName := .shared
  settings : WriterSettings := {}
  fields : Fields := .empty
  /-- The status that went out with the header fields. -/
  sent : Option Http.Status := none
  /-- Opened when it first has to wait. -/
  waiter : Option WaiterId := none
  recorder : Option Recorder := none
  stats : WriteStats := {}
deriving DecidableEq, Inhabited

/-- A writer and the link it works on. -/
structure Session (τ : Type) where
  writer : Writer
  link : Link τ

namespace Session

variable {τ : Type}

def report (s : Session τ) (e : Event) : Session τ := { s with link := s.link.report e }

/-- Changes the fields to be sent. After they went out this has no effect on the response. -/
def edit (s : Session τ) (e : Fields.Edit) : Session τ :=
  { s with writer.fields := s.writer.fields.apply e }

/-- Starts a recording. It has to begin before the header fields are sent. -/
def record (s : Session τ) (limit : Nat) : Session τ :=
  { s with writer.recorder := some (.new limit) }

/-- Ends the recording, and hands it over if it is complete. -/
def takeRecording (s : Session τ) : Session τ × Option Recording :=
  ({ s with writer.recorder := none },
    s.writer.recorder.bind fun r => r.finish? s.writer.sent)

/-- Puts the writer's registration up. Its mailbox is opened at the first need. -/
def register (s : Session τ) : Session τ × WaiterId :=
  let w := s.writer
  match w.waiter with
  | some waiter => ({ s with link := s.link.attach w.board w.handle waiter }, waiter)
  | none =>
    let (link, waiter) := s.link.openMailbox w.board
    (⟨{ w with waiter := some waiter }, link.attach w.board w.handle waiter⟩, waiter)

/-- Takes the registration of the writer's handle down. -/
def unregister (s : Session τ) : Session τ :=
  { s with link := s.link.detach s.writer.board s.writer.handle }

/-- The writer is dropped. One that ever waited takes its registration and its mailbox along. -/
def close (s : Session τ) : Link τ :=
  match s.writer.waiter with
  | none => s.link
  | some waiter =>
    (s.link.detach s.writer.board s.writer.handle).closeMailbox s.writer.board waiter

variable [Transport τ]

/-- Sends the status and the header fields, unless they went out before. A content type is added
if there is none. Where the fields do not fit, or the transport refuses a call, nothing counts as
sent and it may be tried again. -/
def writeHeader (s : Session τ) (status : Http.Status) : Session τ × Except WriteError Unit :=
  match s.writer.sent with
  | some _ => (s.report (.headersRepeated s.writer.handle status), .ok ())
  | none =>
    let fields := s.writer.fields.withContentType
    let s := { s with writer.fields := fields }
    match Layout.measure fields with
    | .error fault => (s, .error (.fieldTooLarge fault))
    | .ok layout =>
      match s.link.sendSection s.writer.handle status layout fields.instances with
      | (link, .error e) => ({ s with link }, .error (.transport e))
      | (link, .ok ()) =>
        let writer :=
          { s.writer with
            sent := some status
            recorder := s.writer.recorder.map fun r => r.recordFields fields }
        ((⟨writer, link⟩ : Session τ).report (.headersSent writer.handle status layout), .ok ())

/-- Makes sure that the header fields went out. Body bytes are never held back, so there is
nothing else to flush. -/
def flush (s : Session τ) : Session τ × Except WriteError Unit :=
  match s.writer.sent with
  | some _ => (s, .ok ())
  | none => s.writeHeader .ok

/-- Offers a chunk, and tells how many of its bytes were accepted. An answer beyond the chunk
counts as the whole chunk. -/
def offer (s : Session τ) (chunk : ByteArray) : Session τ × Nat :=
  let (link, answer) := s.link.offer s.writer.handle chunk
  let accepted := min answer chunk.size
  let stats := s.writer.stats
  (⟨{ s.writer with
        stats := { stats with offers := stats.offers + 1, bytes := stats.bytes + accepted } },
    link⟩, accepted)

/-- An offer is never answered with more than the chunk, whatever the transport says. -/
theorem offer_le_size (s : Session τ) (chunk : ByteArray) : (s.offer chunk).2 ≤ chunk.size :=
  Nat.min_le_right ..

end Session

end Sluice
