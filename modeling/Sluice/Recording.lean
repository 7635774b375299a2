import Sluice.Event

/-!
# Recordings

A recording is a finished response that can be sent again. A recorder makes one while the
response is written: it takes the header fields when they go out, and the body of each write that
succeeded. A write that failed, or a body that grows too long, ends it for good.
-/
namespace Sluice

structure Recording where
  status : Http.Status
  fields : Fields
  body : ByteArray
deriving DecidableEq, Inhabited

inductive Recorder where
  /-- What was taken so far, of at most `limit` body bytes. -/
  | active (limit : Nat) (fields : Option Fields) (body : ByteArray)
  | abandoned
deriving DecidableEq, Inhabited

namespace Recorder

def new (limit : Nat) : Recorder := .active limit none .empty

def recordFields (r : Recorder) (fields : Fields) : Recorder :=
  match r with
  | .active limit _ body => .active limit (some fields) body
  | .abandoned => .abandoned

/-- Takes the body of a write. One that does not fit ends the recording. -/
def recordBody (r : Recorder) (written : ByteArray) : Recorder × List Event :=
  match r with
  | .active limit fields body =>
    if limit < body.size + written.size then (.abandoned, [.recordingOverLimit limit])
    else (.active limit fields (body ++ written), [])
  | .abandoned => (.abandoned, [])

/-- The recording, once the header fields went out with a status. -/
def finish? (r : Recorder) (status : Option Http.Status) : Option Recording :=
  match r, status with
  | .active _ (some fields) body, some status => some ⟨status, fields, body⟩
  | _, _ => none

end Recorder

end Sluice
