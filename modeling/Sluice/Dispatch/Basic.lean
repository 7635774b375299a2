import Sluice.Cache.Basic
import Sluice.Handler.Program
import Sluice.Pool
import Sluice.Request
import Sluice.Writer.Body

/-!
# Dispatching requests

A dispatcher answers requests on handles of its pool: from its cache where it can, and otherwise
by a handler, whose complete answers it keeps. A dispatch that waits is a value, `Dispatch`; many
of them may be in flight at once. However a dispatch ends, its writer is closed and its handle is
released.
-/
namespace Sluice

structure Dispatcher where
  /-- The board on which its writers register. -/
  board : BoardName
  pool : Pool
  /-- Absent where caching is switched off. -/
  cache : Option Cache
  settings : Settings
deriving DecidableEq, Inhabited

/-- Where a response came from. -/
inductive Source where
  | cache
  | handler
deriving DecidableEq, Inhabited

/-- A request that was answered. -/
structure Served where
  status : Http.Status
  source : Source
  handle : HandleId
  stats : WriteStats
deriving DecidableEq, Inhabited

/-- What a dispatch waits for. -/
inductive Stage (ε : Type) where
  /-- Space for the body of a recording. -/
  | replaying (recording : Recording) (write : PendingWrite)
  /-- Space for a body of the handler, which may drop the write at a moment of its own. -/
  | writing (write : PendingWrite) (patience : Option Instant) (next : WriteReply → Program ε)
  | sleeping (wake : Instant) (next : Program ε)
  | asking (question : ε) (next : Nat → Program ε)
  /-- Nothing: it is in a write that neither ends nor waits. -/
  | endless

/-- A dispatch in flight. -/
structure Dispatch (ε : Type) where
  writer : Writer
  /-- The key under which the answer may be kept. -/
  key : Option String
  stage : Stage ε

/-- How far a dispatch came. -/
inductive Outcome (ε : Type) where
  | returned (result : Except DispatchError Served)
  | crashed (message : String)
  | inFlight (dispatch : Dispatch ε)

/-- A dispatcher and the link it works on. -/
structure Service (τ : Type) where
  dispatcher : Dispatcher
  link : Link τ

/-- A dispatcher, and the session of the dispatch it is working on. -/
structure Turn (τ : Type) where
  dispatcher : Dispatcher
  session : Session τ
  key : Option String

namespace Turn

variable {τ ε : Type}

def served (t : Turn τ) (status : Http.Status) (source : Source) : Served :=
  ⟨status, source, t.session.writer.handle, t.session.writer.stats⟩

def report (t : Turn τ) (e : Event) : Turn τ := { t with session := t.session.report e }

/-- Breaks the turn off where the dispatch has to wait. -/
def suspend (t : Turn τ) (stage : Stage ε) : Service τ × Outcome ε :=
  (⟨t.dispatcher, t.session.link⟩, .inFlight ⟨t.session.writer, t.key, stage⟩)

variable [Transport τ]

/-- The dispatch is over: its writer is closed, then its handle is released. -/
def leave (t : Turn τ) : Service τ :=
  let (pool, link, _) := t.dispatcher.pool.release t.session.close t.session.writer.handle
  ⟨{ t.dispatcher with pool }, link⟩

def finish (t : Turn τ) (result : Except DispatchError Served) : Service τ × Outcome ε :=
  (t.leave, .returned result)

/-- Keeps a complete answer with status 200, if there is a key to keep it under. -/
def keep (t : Turn τ) (now : Instant) (status : Http.Status) : Service τ × Outcome ε :=
  let served := t.served status .handler
  match t.dispatcher.cache, t.key with
  | some cache, some key =>
    if status = .ok then
      match t.session.takeRecording with
      | (session, none) =>
        ({ t with session }.report (.responseNotCached key)).finish (.ok served)
      | (session, some recording) =>
        let t := { t with session }.report (.responseCached key recording.body.size)
        match cache.store? now key recording with
        | none => (t.leave, .crashed Cache.overflow)
        | some (cache, events) =>
          let link := t.session.link.reportAll events
          { t with
            dispatcher.cache := some cache
            session.link := link }.finish (.ok served)
    else t.finish (.ok served)
  | _, _ => t.finish (.ok served)

/-- The handler is through: what it left unsent is sent, and the answer is kept. -/
def complete (t : Turn τ) (now : Instant) : Service τ × Outcome ε :=
  match t.session.flush with
  | (session, .error e) => { t with session }.finish (.error (.write e))
  | (session, .ok ()) =>
    { t with session }.keep now (session.writer.sent.getD .ok)

/-- The handler failed. If nothing went out yet, an empty answer with status 500 does, without any
field the handler left: they may be what could not be sent. -/
def fail (t : Turn τ) (cause : HandlerError) : Service τ × Outcome ε :=
  let handle := t.session.writer.handle
  let t := t.report (.handlerFailed handle cause)
  let t :=
    match t.session.writer.sent with
    | some _ => t
    | none =>
      match (t.session.edit .clear).writeHeader .internalServerError with
      | (session, .ok ()) => { t with session }
      | (session, .error e) => { t with session }.report (.errorResponseFailed handle e)
  t.finish (.error (.handler cause))

/-- Carries a handler out until it ends or has to wait. -/
def run (now : Instant) (t : Turn τ) : Program ε → Service τ × Outcome ε
  | .finish => t.complete now
  | .fail cause => t.fail cause
  | .crash message => (t.leave, .crashed message)
  | .edit change next => run now { t with session := t.session.edit change } next
  | .inspect next => run now t (next t.session.writer.view)
  | .writeHeader status next =>
    let (session, result) := t.session.writeHeader status
    run now { t with session } (next result)
  | .flush next =>
    let (session, result) := t.session.flush
    run now { t with session } (next result)
  | .write body patience next =>
    match t.session.write now body with
    | (session, .finished result) => run now { t with session } (next (.finished result))
    | (session, .suspended write) =>
      { t with session }.suspend (.writing write (patience.map now.timer) next)
    | (session, .endless) => { t with session }.suspend .endless
  | .sleep length next => t.suspend (.sleeping (now.timer length) next)
  | .ask question next => t.suspend (.asking question next)

/-- Goes on with a recording that is being sent again. -/
def replayed (t : Turn τ) (recording : Recording) : Progress → Service τ × Outcome ε
  | .finished (.ok _) => t.finish (.ok (t.served recording.status .cache))
  | .finished (.error e) => t.finish (.error (.write e))
  | .suspended write => t.suspend (.replaying recording write)
  | .endless => t.suspend .endless

end Turn

namespace Dispatch

variable {τ ε : Type}

/-- The turn in which a dispatch goes on. -/
def turn (d : Dispatch ε) (s : Service τ) : Turn τ := ⟨s.dispatcher, ⟨d.writer, s.link⟩, d.key⟩

/-- The handler's patience is over. -/
def isOver (patience : Option Instant) (now : Instant) : Bool :=
  patience.any fun last => decide (last ≤ now)

/-- The dispatch can go on: its wait can end, or its time has come. -/
def isReady (d : Dispatch ε) (s : Service τ) (now : Instant) : Bool :=
  let waitEnds (write : PendingWrite) : Bool :=
    (write.wait.poll? now (s.link.board d.writer.board)).isSome
  match d.stage with
  | .replaying _ write => waitEnds write
  | .writing write patience _ => waitEnds write || isOver patience now
  | .sleeping wake _ => decide (wake ≤ now)
  | .asking .. => false
  | .endless => false

end Dispatch

namespace Service

variable {τ ε : Type} [Transport τ]

/-- Starts to answer a request. A handle is checked out first; then the cache is asked, where the
request allows it, and the handler where the cache has no answer. -/
def start (s : Service τ) (now : Instant) (request : Request) (program : Program ε) :
    Service τ × Outcome ε :=
  match s.dispatcher.pool.checkout s.link with
  | (pool, link, .error e) =>
    (⟨{ s.dispatcher with pool }, link⟩, .returned (.error (.handle e)))
  | (pool, link, .ok handle) =>
    let dispatcher := { s.dispatcher with pool }
    let writer : Writer :=
      { handle, board := dispatcher.board, settings := dispatcher.settings.writer }
    match dispatcher.cache, request.cacheKey? with
    | some cache, some key =>
      let (cache, events, found) := cache.get now key
      let t : Turn τ :=
        ⟨{ dispatcher with cache := some cache }, ⟨writer, link.reportAll events⟩, some key⟩
      match found with
      | some recording =>
        let t := t.report (.servedFromCache key handle)
        let (session, progress) := t.session.replay now recording
        { t with session }.replayed recording progress
      | none =>
        { t with session := t.session.record dispatcher.settings.cache.maxBodyBytes }.run
          now program
    | _, _ => (⟨dispatcher, ⟨writer, link⟩, none⟩ : Turn τ).run now program

/-- Carries a dispatch on, if it is ready. A write that can go on does so first; if it has to wait
again and the handler's patience with it is over, it is dropped. -/
def resume (s : Service τ) (now : Instant) (d : Dispatch ε) : Service τ × Outcome ε :=
  let t := d.turn s
  if d.isReady s now then
    match d.stage with
    | .replaying recording write =>
      let (session, progress) := t.session.resume now write
      { t with session }.replayed recording progress
    | .writing write patience next =>
      match t.session.resume now write with
      | (session, .finished result) => { t with session }.run now (next (.finished result))
      | (session, .suspended write) =>
        if Dispatch.isOver patience now then { t with session }.run now (next .dropped)
        else { t with session }.suspend (.writing write patience next)
      | (session, .endless) => { t with session }.suspend .endless
    | .sleeping _ next => t.run now next
    | .asking question next => t.suspend (.asking question next)
    | .endless => t.suspend .endless
  else
    (s, .inFlight d)

/-- Gives a dispatch the answer it asked for. -/
def answer (s : Service τ) (now : Instant) (d : Dispatch ε) (n : Nat) : Service τ × Outcome ε :=
  match d.stage with
  | .asking _ next => (d.turn s).run now (next n)
  | _ => (s, .inFlight d)

/-- Drops a dispatch in flight. -/
def cancel (s : Service τ) (d : Dispatch ε) : Service τ := (d.turn s).leave

end Service

end Sluice
