import Sluice.Time

/-!
# Errors

Each error is its cause. The wording is in one function per type, `message`; `sources` lists the
messages of the causes beneath an error, outermost first.
-/
namespace Sluice

/-- The calls by which a header section is sent. A transport may refuse any of them. -/
inductive HeaderCall where
  | initResponse
  | addField
  | sendHeaders
deriving DecidableEq, Inhabited

def HeaderCall.name : HeaderCall → String
  | .initResponse => "init_response"
  | .addField => "add_field"
  | .sendHeaders => "send_headers"

/-- The transport did not do what it was asked. -/
inductive TransportError where
  | allocate (reason : String)
  | rejected (call : HeaderCall) (reason : String)
deriving DecidableEq, Inhabited

def TransportError.message : TransportError → String
  | .allocate reason => "transport can't allocate request handle: " ++ reason
  | .rejected call reason => "transport rejected " ++ call.name ++ ": " ++ reason

/-- Why a header section does not fit into the transport's preamble. -/
inductive FieldFault where
  /-- The length of a name has to fit into one byte. -/
  | nameTooLong (bytes : Nat)
  /-- The length of one field has to fit into 32 bits. -/
  | fieldTooLong (name : String)
  /-- The number of fields has to fit into 32 bits. -/
  | tooMany
  /-- The summed length of all fields has to fit into 32 bits. -/
  | tooLarge
  | described (reason : String)
deriving DecidableEq, Inhabited

def FieldFault.message : FieldFault → String
  | .nameTooLong bytes => "field name is " ++ toString bytes ++ " bytes, limit 255"
  | .fieldTooLong name => "field " ++ name ++ " does not fit u32"
  | .tooMany => "too many fields"
  | .tooLarge => "fields size exceeds u32"
  | .described reason => reason

/-- A response could not be written. -/
inductive WriteError where
  | transport (cause : TransportError)
  /-- No acknowledgment came within the time a writer waits for one. -/
  | ackTimeout (waited : Duration)
  | fieldTooLarge (fault : FieldFault)
deriving DecidableEq, Inhabited

namespace WriteError

def message : WriteError → String
  | .transport cause => "transport error: " ++ cause.message
  | .ackTimeout waited => "no shared memory ack received within " ++ waited.text
  | .fieldTooLarge fault => "header field too large: " ++ fault.message

def sources : WriteError → List String
  | .transport cause => [cause.message]
  | _ => []

end WriteError

/-- A handler gave up: for a reason of its own, or because a write failed. -/
inductive HandlerError where
  | described (reason : String)
  | write (cause : WriteError)
deriving DecidableEq, Inhabited

namespace HandlerError

def message : HandlerError → String
  | .described reason => reason
  | .write cause => cause.message

def sources : HandlerError → List String
  | .described _ => []
  | .write cause => cause.sources

end HandlerError

/-- A request could not be answered. -/
inductive DispatchError where
  /-- There was no handle to answer on. -/
  | handle (cause : TransportError)
  | write (cause : WriteError)
  | handler (cause : HandlerError)
deriving DecidableEq, Inhabited

namespace DispatchError

def message : DispatchError → String
  | .handle cause => "request handle error: " ++ cause.message
  | .write cause => "response write error: " ++ cause.message
  | .handler cause => "handler error: " ++ cause.message

def sources : DispatchError → List String
  | .handle cause => [cause.message]
  | .write cause => cause.message :: cause.sources
  | .handler cause => cause.message :: cause.sources

end DispatchError

/-- Settings that nothing can be built from. -/
inductive SettingsError where
  | poolCapacity
  | chunkSize
  | cacheBound (maxEntries : Nat)
deriving DecidableEq, Inhabited

def SettingsError.message : SettingsError → String
  | .poolCapacity => "pool capacity must be at least 1"
  | .chunkSize => "writer chunk size must be at least 1"
  | .cacheBound n => "cache bound must be at least 1 entry, current: " ++ toString n

/-- A dispatcher could not be built. -/
inductive BuildError where
  | settings (cause : SettingsError)
  | prefill (cause : TransportError)
deriving DecidableEq, Inhabited

namespace BuildError

def message : BuildError → String
  | .settings cause => "invalid config: " ++ cause.message
  | .prefill cause => "can't prefill handle pool: " ++ cause.message

def sources : BuildError → List String
  | .settings cause => [cause.message]
  | .prefill cause => [cause.message]

end BuildError

end Sluice
