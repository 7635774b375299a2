import Sluice.Dispatch.Build
import Sluice.Handler.Script
import Sluice.Transport.Loopback

/-!
# Answers of a scenario

What a step answers, and what is told of the world after it.
-/
namespace Sluice.Scenario

/-- A step that names something that is not there, or is in use. -/
inductive Fault where
  | badStep
  | busy
  | noSuchWriter
  | noSuchWaiter
  | noPool
  | noCache
  | noDispatcher
  | input (fault : InputFault)
deriving DecidableEq, Inhabited

def Fault.text : Fault → String
  | .badStep => "BadStep"
  | .busy => "Busy"
  | .noSuchWriter => "NoSuchWriter"
  | .noSuchWaiter => "NoSuchWaiter"
  | .noPool => "NoPool"
  | .noCache => "NoCache"
  | .noDispatcher => "NoDispatcher"
  | .input fault => fault.text

/-- An error of the library, whichever of its types it has. -/
inductive Failure where
  | transport (cause : TransportError)
  | write (cause : WriteError)
  | dispatch (cause : DispatchError)
  | settings (cause : SettingsError)
  | build (cause : BuildError)
deriving DecidableEq, Inhabited

def Failure.message : Failure → String
  | .transport cause => cause.message
  | .write cause => cause.message
  | .dispatch cause => cause.message
  | .settings cause => cause.message
  | .build cause => cause.message

def Failure.sources : Failure → List String
  | .transport _ => []
  | .write cause => cause.sources
  | .dispatch cause => cause.sources
  | .settings _ => []
  | .build cause => cause.sources

structure PoolInfo where
  size : Nat
  capacity : Nat
  allocated : Nat
  summary : String

structure CacheInfo where
  size : Nat
  ttl : Duration
  bound : Nat

structure EntryInfo where
  fresh : Bool
  expires : Duration
  status : Http.Status

structure DispatcherInfo where
  settings : Settings
  caching : Bool
  waiting : Nat
  absorbed : Nat
  allocated : Nat
  /-- Absent when the cache holds entries. -/
  summary : Option String

inductive Answer where
  | nothing
  | flag (b : Bool)
  | count (n : Nat)
  | text (s : String)
  /-- A task was started. -/
  | started
  | built
  | fault (fault : Fault)
  | failure (failure : Failure)
  | crashed (message : String)
  | released (r : Released)
  | exchange (e : Loopback.Exchange)
  | values (values : List String)
  | finalized (handles : List (HandleId × Completion))
  | view (view : WriterView)
  | guard (handle : HandleId) (summary : String)
  | pool (info : PoolInfo)
  | cache (info : CacheInfo)
  | entry (info : EntryInfo)
  | recording (r : Recording)
  | served (s : Served)
  | dispatcher (info : DispatcherInfo)

namespace Answer

/-- Nothing, or the error. -/
def ofResult {ε : Type} (failure : ε → Failure) : Except ε Unit → Answer
  | .ok () => .nothing
  | .error e => .failure (failure e)

/-- The number, or the error. -/
def ofCount {ε : Type} (failure : ε → Failure) : Except ε Nat → Answer
  | .ok n => .count n
  | .error e => .failure (failure e)

def ofServed : Except DispatchError Served → Answer
  | .ok s => .served s
  | .error e => .failure (.dispatch e)

/-- The answer to the value, or nothing if there is none. -/
def ofOption {α : Type} (answer : α → Answer) : Option α → Answer
  | some a => answer a
  | none => .nothing

end Answer

/-- The world in seven numbers. -/
structure Gauge where
  nowMillis : Nat
  waiting : Nat
  absorbed : Nat
  allocated : Nat
  pool : Option Nat
  cache : Option Nat
  tasks : Nat

/-- All that a step tells: its answer, the tasks that ended, by the number of the step that
started them, the notes of handlers, and the log. -/
structure Report where
  answer : Answer
  gauge : Gauge
  ended : List (Nat × Answer)
  notes : List Note
  log : List Event

end Sluice.Scenario
