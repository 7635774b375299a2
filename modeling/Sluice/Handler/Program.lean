import Sluice.Writer.Basic

/-!
# Handlers

What a handler does for one request is a tree: each node is its next action, and has a branch for
every outcome of it. A handler that has to wait is then a branch that was not yet taken, and any
statement about all handlers is one about all trees.
-/
namespace Sluice

/-- What a handler can see of its writer. -/
structure WriterView where
  handle : HandleId
  fields : Fields
  sent : Option Http.Status
  stats : WriteStats
deriving DecidableEq, Inhabited

def Writer.view (w : Writer) : WriterView := ⟨w.handle, w.fields, w.sent, w.stats⟩

/-- How a handler's write ended. -/
inductive WriteReply where
  | finished (result : Except WriteError Nat)
  /-- The handler lost its patience and dropped the write while it waited. -/
  | dropped

/-- A handler at work. `ε` is what it may ask of the world beyond its writer; the world answers
with a number. -/
inductive Program (ε : Type) where
  | finish
  | fail (cause : HandlerError)
  /-- The handler panics. -/
  | crash (message : String)
  | edit (change : Fields.Edit) (next : Program ε)
  | inspect (next : WriterView → Program ε)
  | writeHeader (status : Http.Status) (next : Except WriteError Unit → Program ε)
  | flush (next : Except WriteError Unit → Program ε)
  /-- Writes a body; with a patience, only as long as that. -/
  | write (body : ByteArray) (patience : Option Duration) (next : WriteReply → Program ε)
  | sleep (length : Duration) (next : Program ε)
  | ask (question : ε) (next : Nat → Program ε)

instance {ε : Type} : Inhabited (Program ε) := ⟨.finish⟩

end Sluice
