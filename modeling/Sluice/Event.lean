import Sluice.Error
import Sluice.Fields.Layout
import Sluice.Handle
import Sluice.Http.Status

/-!
# Events

What the parts of a service report while they work. An event is the fact itself; its level, its
message and its named values are functions of it.
-/
namespace Sluice

inductive Level where
  | trace
  | debug
  | info
  | warn
  | error
deriving DecidableEq, Inhabited

def Level.name : Level → String
  | .trace => "TRACE"
  | .debug => "DEBUG"
  | .info => "INFO"
  | .warn => "WARN"
  | .error => "ERROR"

/-- A named value of an event. -/
inductive EventValue where
  | number (n : Nat)
  | flag (b : Bool)
  | text (s : String)
deriving DecidableEq, Inhabited

inductive Event where
  | drained (handle : HandleId) (freed : Nat)
  | registrationReplaced (handle : HandleId)
  /-- Nobody waited for an acknowledgment of this handle, or of any. -/
  | ackAbsorbed (handle : Option HandleId) (count : Nat)
  | waiterGone (handle : HandleId)
  | headersRepeated (handle : HandleId) (status : Http.Status)
  | headersSent (handle : HandleId) (status : Http.Status) (layout : Layout)
  | bufferFull (handle : HandleId) (written remaining : Nat)
  | ackReceived (handle : HandleId) (ready : Nat)
  | writeGivenUp (handle : HandleId) (written remaining : Nat) (cause : WriteError)
  | recordingOverLimit (limit : Nat)
  | poolFull (handle : HandleId) (capacity : Nat)
  | poolEmpty
  | poolPrefilled (filled capacity : Nat)
  | entryExpired (key : String)
  | entriesPurged (purged remaining : Nat)
  | entryEvicted (key : String) (bound : Nat)
  | sweeperExits
  | servedFromCache (key : String) (handle : HandleId)
  | handlerFailed (handle : HandleId) (cause : HandlerError)
  | errorResponseFailed (handle : HandleId) (cause : WriteError)
  | responseCached (key : String) (bytes : Nat)
  | responseNotCached (key : String)
  | sweeperDisabled
  | dispatcherBuilt (poolCapacity : Nat) (cacheEnabled : Bool) (chunkSize : Nat)
deriving DecidableEq, Inhabited

namespace Event

def level : Event → Level
  | .drained .. | .registrationReplaced _ | .ackAbsorbed .. | .waiterGone _ | .bufferFull ..
  | .ackReceived .. | .recordingOverLimit _ | .poolEmpty | .entryExpired _ => .trace
  | .headersSent .. | .poolFull .. | .poolPrefilled .. | .entriesPurged .. | .entryEvicted ..
  | .sweeperExits | .servedFromCache .. | .responseCached .. | .responseNotCached _ => .debug
  | .dispatcherBuilt .. => .info
  | .headersRepeated .. | .writeGivenUp .. | .sweeperDisabled => .warn
  | .handlerFailed .. | .errorResponseFailed .. => .error

def message : Event → String
  | .drained .. => "loopback drained shared buffer"
  | .registrationReplaced _ => "replaced pending waiter registration"
  | .ackAbsorbed .. => "ack without waiter absorbed"
  | .waiterGone _ => "waiter dropped before ack arrived"
  | .headersRepeated .. => "multiple response write_header calls"
  | .headersSent .. => "response headers sent"
  | .bufferFull .. => "shared buffer full, waiting for ack"
  | .ackReceived .. => "shared buffer ack received"
  | .writeGivenUp _ _ _ cause => cause.message
  | .recordingOverLimit _ => "response body exceeds capture limit, not cacheable"
  | .poolFull .. => "handle pool full, finalizing handle"
  | .poolEmpty => "handle pool empty, allocating from transport"
  | .poolPrefilled .. => "handle pool prefilled"
  | .entryExpired _ => "evicted expired cache entry"
  | .entriesPurged .. => "purged expired cache entries"
  | .entryEvicted .. => "cache full, evicted oldest entry"
  | .sweeperExits => "response cache dropped, sweeper exits"
  | .servedFromCache .. => "serving response from cache"
  | .handlerFailed .. => "handler failed"
  | .errorResponseFailed .. => "can't send error response"
  | .responseCached .. => "caching response"
  | .responseNotCached _ => "response body incomplete or over cache limit, not cached"
  | .sweeperDisabled => "no tokio runtime when building dispatcher, cache sweeper disabled"
  | .dispatcherBuilt .. => "dispatcher built"

/-- The named values, in the order in which they are told. -/
def values : Event → List (String × EventValue)
  | .drained handle freed => [("handle", .text handle.display), ("freed", .number freed)]
  | .registrationReplaced handle => [("handle", .text handle.display)]
  | .ackAbsorbed (some handle) count =>
    [("handle", .text handle.display), ("count", .number count)]
  | .ackAbsorbed none count => [("count", .number count)]
  | .waiterGone handle => [("handle", .text handle.display)]
  | .headersRepeated handle status =>
    [("handle", .text handle.display), ("status", .number status.code)]
  | .headersSent handle status layout =>
    [("handle", .text handle.display), ("status", .number status.code),
      ("fields", .number layout.count), ("fields_size", .number layout.size)]
  | .bufferFull handle written remaining =>
    [("handle", .text handle.display), ("written", .number written),
      ("remaining", .number remaining)]
  | .ackReceived handle ready => [("handle", .text handle.display), ("ready", .number ready)]
  | .writeGivenUp handle written remaining _ =>
    [("handle", .text handle.display), ("written", .number written),
      ("remaining", .number remaining)]
  | .recordingOverLimit limit => [("limit", .number limit)]
  | .poolFull handle capacity =>
    [("handle", .text handle.display), ("capacity", .number capacity)]
  | .poolEmpty => []
  | .poolPrefilled filled capacity => [("filled", .number filled), ("capacity", .number capacity)]
  | .entryExpired key => [("key", .text key)]
  | .entriesPurged purged remaining =>
    [("purged", .number purged), ("remaining", .number remaining)]
  | .entryEvicted key bound => [("key", .text key), ("max_entries", .number bound)]
  | .sweeperExits => []
  | .servedFromCache key handle => [("key", .text key), ("handle", .text handle.display)]
  | .handlerFailed handle cause =>
    [("handle", .text handle.display), ("cause", .text cause.message)]
  | .errorResponseFailed handle cause =>
    [("handle", .text handle.display), ("cause", .text cause.message)]
  | .responseCached key bytes => [("key", .text key), ("bytes", .number bytes)]
  | .responseNotCached key => [("key", .text key)]
  | .sweeperDisabled => []
  | .dispatcherBuilt poolCapacity cacheEnabled chunkSize =>
    [("pool_capacity", .number poolCapacity), ("cache_enabled", .flag cacheEnabled),
      ("chunk_size", .number chunkSize)]

end Event

end Sluice
