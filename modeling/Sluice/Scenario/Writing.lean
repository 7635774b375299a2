import Sluice.Scenario.World
import Sluice.Summary

/-!
# Steps on the transport, the board, waiters and writers
-/
namespace Sluice.Scenario.World

def setTransport (w : World) (t : Faulty) : World :=
  { w with link := { w.link with transport := t } }

def doTransport (w : World) : TransportStep → World × Answer
  | .allocate =>
    let (t, result) := w.link.transport.allocate
    (w.setTransport t, match result with
      | .ok handle => .count handle.number
      | .error e => .failure (.transport e))
  | .finalize handle completion =>
    (w.setTransport (w.link.transport.finalize handle completion), .nothing)
  | .offer handle body =>
    let (link, accepted) := w.link.offer handle body
    ({ w with link }, .count accepted)
  | .initResponse _ none _ => (w, .fault (.input .status))
  | .initResponse handle (some status) layout =>
    let (t, result) := w.link.transport.initResponse handle status layout
    (w.setTransport t, .ofResult .transport result)
  | .addField handle name value =>
    let (t, result) := w.link.transport.addField handle name value
    (w.setTransport t, .ofResult .transport result)
  | .sendHeaders handle =>
    let (t, result) := w.link.transport.sendHeaders handle
    (w.setTransport t, .ofResult .transport result)
  | .drain handle =>
    let (t, freed, signals) := w.loopback.drain handle
    let w := w.setLoopback t
    ({ w with link := w.link.raiseAll signals }, .count freed)
  | .drainAll =>
    let (t, freed, signals) := w.loopback.drainAll
    let w := w.setLoopback t
    ({ w with link := w.link.raiseAll signals }, .count freed)
  | .response handle => (w, .ofOption .exchange (w.loopback.exchanges.find? handle))
  | .field handle name =>
    (w, .ofOption (fun e => .values (e.valuesOf name)) (w.loopback.exchanges.find? handle))
  | .finalized => (w, .finalized w.loopback.finalizedHandles)

def doBoard (w : World) : BoardStep → World × Answer
  | .notifyAll count =>
    let (board, events, woken) := w.link.shared.notifyAll count
    ({ w with link := { w.link with shared := board } }.report events, .count woken)
  | .notifyHandle handle count =>
    let (board, events, found) := w.link.shared.notifyHandle handle count
    ({ w with link := { w.link with shared := board } }.report events, .flag found)
  | .detach handle =>
    let (board, found) := w.link.shared.detach handle
    ({ w with link := { w.link with shared := board } }, .flag found)

/-! ## Waiters -/

/-- Drops a waiter, and the tasks that use it. -/
def dropWaiter (w : World) (name : Nat) : World × Bool :=
  let (w, _) := w.cancelWaits name
  match w.waiters.find? name with
  | none => (w, false)
  | some (_, waiter) =>
    ({ w with
        waiters := w.waiters.erase name
        link := w.link.closeMailbox .shared waiter }, true)

/-- A waiter that no task uses. -/
def freeWaiter (w : World) (name : Nat) : Except Fault (HandleId × WaiterId) :=
  if w.waiterBusy name then .error .busy
  else match w.waiters.find? name with
  | none => .error .noSuchWaiter
  | some waiter => .ok waiter

def doWaiter (w : World) (name : Nat) : WaiterStep → World × Answer
  | .new handle =>
    let (w, _) := w.dropWaiter name
    let (link, waiter) := w.link.openMailbox .shared
    ({ w with link, waiters := w.waiters.insert name (handle, waiter) }, .count handle.number)
  | .attach =>
    match w.freeWaiter name with
    | .error fault => (w, .fault fault)
    | .ok (handle, waiter) => ({ w with link := w.link.attach .shared handle waiter }, .nothing)
  | .wait limit =>
    match w.freeWaiter name with
    | .error fault => (w, .fault fault)
    | .ok (_, waiter) => (w.start (.wait name waiter limit), .started)
  | .cancel =>
    let (w, n) := w.cancelWaits name
    (w, .count n)
  | .drop =>
    let (w, existed) := w.dropWaiter name
    (w, .flag existed)

/-! ## Writers -/

/-- Drops a writer, and the task that works with it. -/
def dropWriter (w : World) (name : Nat) : World × Bool :=
  let (w, _) := w.cancelWrites name
  match w.writers.find? name with
  | none => (w, false)
  | some writer =>
    ({ w with
        writers := w.writers.erase name
        link := (⟨writer, w.link⟩ : Session Faulty).close }, true)

/-- A writer that no task works with. -/
def freeWriter (w : World) (name : Nat) : Except Fault Writer :=
  if w.writerBusy name then .error .busy
  else match w.writers.find? name with
  | none => .error .noSuchWriter
  | some writer => .ok writer

/-- Puts a writer back after a call, and tells the result of the call. -/
def putBack (w : World) (name : Nat) (r : Session Faulty × Except WriteError Unit) :
    World × Answer :=
  ({ w with link := r.1.link, writers := w.writers.insert name r.1.writer },
    .ofResult .write r.2)

/-- Hands a writer to a new task. -/
def handOver (w : World) (name : Nat) (a : Activity) : World × Answer :=
  ({ w with writers := w.writers.erase name }.start a, .started)

/-- A step on a writer that is free. -/
def doFreeWriter (w : World) (name : Nat) (writer : Writer) : WriterStep → World × Answer
  | .edit request =>
    match request.read with
    | .error fault => (w, .fault (.input fault))
    | .ok change =>
      let fields := writer.fields.apply change
      ({ w with writers := w.writers.insert name { writer with fields } }, .nothing)
  | .writeHeader none => (w, .fault (.input .status))
  | .writeHeader (some status) =>
    w.putBack name ((⟨writer, w.link⟩ : Session Faulty).writeHeader status)
  | .flush => w.putBack name (⟨writer, w.link⟩ : Session Faulty).flush
  | .write body => w.handOver name (.write name writer body)
  | .replay (.error fault) => (w, .fault (.input fault))
  | .replay (.ok recording) => w.handOver name (.replay name writer recording)
  | .info => (w, .view writer.view)
  | .summary => (w, .text (Summary.writer writer))
  | .new .. | .cancel | .drop => (w, .nothing)

def doWriter (w : World) (name : Nat) : WriterStep → World × Answer
  | .new handle settings =>
    let (w, _) := w.dropWriter name
    match settings with
    | none => (w, .fault (.input .document))
    | some settings =>
      ({ w with writers := w.writers.insert name { handle, settings } }, .nothing)
  | .cancel =>
    let (w, n) := w.cancelWrites name
    (w, .count n)
  | .drop =>
    let (w, existed) := w.dropWriter name
    (w, .flag existed)
  | .writeHeader none => (w, .fault (.input .status))
  | step =>
    match w.freeWriter name with
    | .error fault => (w, .fault fault)
    | .ok writer => w.doFreeWriter name writer step

end Sluice.Scenario.World
