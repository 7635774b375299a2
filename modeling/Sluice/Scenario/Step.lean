import Sluice.Dispatch.Build
import Sluice.Handler.Script
import Sluice.Transport.Faulty

/-!
# Steps of a scenario

A scenario drives a world of one transport, one acknowledgment board and one clock. Its steps are
grouped by the part that they act on. Writers, waiters and guards are named by numbers. A step
that was asked for with unusable input carries the fault in the place of the value.
-/
namespace Sluice.Scenario

inductive TransportStep where
  | allocate
  | finalize (handle : HandleId) (completion : Completion)
  | offer (handle : HandleId) (body : ByteArray)
  | initResponse (handle : HandleId) (status : Option Http.Status) (layout : Layout)
  | addField (handle : HandleId) (name value : ByteArray)
  | sendHeaders (handle : HandleId)
  | drain (handle : HandleId)
  | drainAll
  | response (handle : HandleId)
  | field (handle : HandleId) (name : String)
  | finalized

inductive BoardStep where
  | notifyAll (count : Nat)
  | notifyHandle (handle : HandleId) (count : Nat)
  | detach (handle : HandleId)

inductive WaiterStep where
  | new (handle : HandleId)
  | attach
  | wait (limit : Option Duration)
  | cancel
  | drop

inductive WriterStep where
  | new (handle : HandleId) (settings : Option WriterSettings)
  | edit (request : EditRequest)
  | writeHeader (status : Option Http.Status)
  | flush
  | write (body : ByteArray)
  | replay (recording : Except InputFault Recording)
  | cancel
  | info
  | summary
  | drop

inductive PoolStep where
  | new (capacity : Nat)
  | acquire
  | release (handle : HandleId)
  | checkout (guard : Nat)
  | guard (guard : Nat)
  | dropGuard (guard : Nat)
  | prefill
  | info
  | drop

inductive CacheStep where
  | new (ttl : Duration) (maxEntries : Nat)
  /-- From settings, unless the document spells none. -/
  | ofSettings (settings : Option CacheSettings)
  | store (key : String) (recording : Except InputFault Recording)
  /-- Puts a recording that expires after this time, whatever the cache would say. -/
  | set (key : String) (recording : Except InputFault Recording) (expires : Duration)
  | get (key : String)
  | remove (key : String)
  | purge
  | info
  | replay (key : String) (writer : Nat)
  | sweep (interval : Duration)
  | sweeper
  | dropSweeper
  | drop

inductive DispatcherStep where
  | build (settings : Option Settings) (context : BuildContext)
  /-- The summary of what would be built. -/
  | summary (settings : Option Settings)
  | dispatch (request : Except InputFault Request) (script : List Action)
  /-- Drops the dispatch that was started by the step with this number. -/
  | cancel (task : Nat)
  | info
  | drop

inductive Step where
  | transport (step : TransportStep)
  | board (step : BoardStep)
  | waiter (name : Nat) (step : WaiterStep)
  | writer (name : Nat) (step : WriterStep)
  | pool (step : PoolStep)
  | cache (step : CacheStep)
  | dispatcher (step : DispatcherStep)
  | advance (d : Duration)
  | unknown

/-- How long a step can keep tasks busy: the number of its actions. -/
def Step.length : Step → Nat
  | .dispatcher (.dispatch _ script) => script.length + 1
  | _ => 1

end Sluice.Scenario

namespace Sluice

/-- A world and what happens in it. -/
structure Scenario where
  capacity : Option Nat := none
  routing : Option AckRouting := none
  faults : FaultPlan := {}
  steps : List Scenario.Step

end Sluice
