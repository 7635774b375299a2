import Sluice.Handler.Program
import Sluice.Request

/-!
# Scripted handlers

A script is a list of actions that a handler carries out in order. An action that fails ends the
handler, except for those that are only tried: their outcome is noted and the script goes on.
-/
namespace Sluice

inductive Action where
  | edit (request : EditRequest)
  /-- A status that is none makes the handler fail. -/
  | writeHeader (status : Option Http.Status)
  | write (body : ByteArray)
  | flush
  | tryWriteHeader (status : Option Http.Status)
  | tryWrite (body : ByteArray)
  | tryFlush
  /-- Writes the method and the path of the request. -/
  | echo
  /-- Notes what the writer looks like. -/
  | info
  /-- Drains the handler's own handle, and notes how many bytes that freed. -/
  | drain
  | drainAll
  | sleep (length : Duration)
  | fail (reason : String)
  | crash (message : String)
  | done
  | unknown
deriving Inhabited

/-- What a script leaves behind for its reader. -/
inductive Note where
  | nothing
  | count (n : Nat)
  | failure (cause : WriteError)
  | fault (fault : InputFault)
  | view (view : WriterView)
deriving DecidableEq, Inhabited

/-- What a script asks of the world. -/
inductive Errand where
  | drain (handle : HandleId)
  | drainAll
  | note (note : Note)
deriving DecidableEq, Inhabited

/-- Scripts run by a clock that lets nobody sleep for longer than thirty years. -/
def Script.longestSleep : Duration := .ofSecs (30 * 365 * 86400)

/-- How long a sleep lasts that is meant to last for `length`. -/
def Script.sleepTime (length : Duration) : Duration := ⟨min length.nanos longestSleep.nanos⟩

namespace Action

/-- The reason a handler gives for input it cannot use. -/
def refuse (fault : InputFault) : Program Errand := .fail (.described fault.text)

/-- Goes on after a call that succeeded, and fails with the error of one that did not. -/
def orFail {α : Type} (next : Program Errand) : Except WriteError α → Program Errand
  | .ok _ => next
  | .error e => .fail (.write e)

def Note.ofHeader : Except WriteError Unit → Note
  | .ok () => .nothing
  | .error e => .failure e

def Note.ofWrite : Except WriteError Nat → Note
  | .ok n => .count n
  | .error e => .failure e

def note (n : Note) (next : Program Errand) : Program Errand := .ask (.note n) fun _ => next

/-- Writes to the end, however long it takes. -/
def writeOut (body : ByteArray) (next : Except WriteError Nat → Program Errand) :
    Program Errand :=
  .write body none fun reply => match reply with
    | .finished result => next result
    | .dropped => .finish

/-- The program of one action, before that of the rest. -/
def program (request : Request) (next : Program Errand) : Action → Program Errand
  | .edit r =>
    match r.read with
    | .ok change => .edit change next
    | .error fault => refuse fault
  | .writeHeader none => refuse .status
  | .writeHeader (some status) => .writeHeader status (orFail next)
  | .write body => writeOut body (orFail next)
  | .flush => .flush (orFail next)
  | .tryWriteHeader none => note (.fault .status) next
  | .tryWriteHeader (some status) =>
    .writeHeader status fun result => note (Note.ofHeader result) next
  | .tryWrite body => writeOut body fun result => note (Note.ofWrite result) next
  | .tryFlush => .flush fun result => note (Note.ofHeader result) next
  | .echo => writeOut (request.method.name ++ " " ++ request.path).toUTF8 (orFail next)
  | .info => .inspect fun view => note (.view view) next
  | .drain =>
    .inspect fun view => .ask (.drain view.handle) fun freed => note (.count freed) next
  | .drainAll => .ask .drainAll fun freed => note (.count freed) next
  | .sleep length => .sleep (Script.sleepTime length) next
  | .fail reason => .fail (.described reason)
  | .crash message => .crash message
  | .done => .finish
  | .unknown => .fail (.described "BadAction")

end Action

/-- The handler that carries a script out. -/
def Script.handler (script : List Action) (request : Request) : Program Errand :=
  script.foldr (fun action next => action.program request next) .finish

end Sluice
