import Sluice.Error
import Sluice.Handler.Program
import Sluice.Transport.Faithful

/-!
# What a handler makes of a request

A draft is a response as its handler has it so far. No transport, no buffer and no other dispatch
comes into it: each call of a writer has a counterpart that only changes the draft. What was on the
handle before makes no difference, unless nothing is ever sent; and then the header section did not
fit, or the handler panicked.
-/
namespace Sluice

/-- A response in the making. -/
structure Draft where
  fields : Fields
  sent : Option Http.Status
  /-- What the transport holds on the handle. Until something is sent that is none of the
  draft's. -/
  received : Received
  /-- The bytes of body that were written. -/
  bytes : Nat

/-- How a dispatch was over. -/
inductive Verdict where
  | served (status : Http.Status)
  | failed (cause : DispatchError)
  | crashed (message : String)
deriving DecidableEq

namespace Draft

/-- Nothing was done yet. -/
def blank (received : Received) : Draft := ⟨.empty, none, received, 0⟩

def writeHeader (d : Draft) (status : Http.Status) : Draft × Except WriteError Unit :=
  match d.sent with
  | some _ => (d, .ok ())
  | none =>
    let fields := d.fields.withContentType
    match Layout.measure fields with
    | .error fault => ({ d with fields }, .error (.fieldTooLarge fault))
    | .ok _ => ({ d with fields, sent := some status, received := .ofHeader status fields }, .ok ())

def flush (d : Draft) : Draft × Except WriteError Unit :=
  match d.sent with
  | some _ => (d, .ok ())
  | none => d.writeHeader .ok

/-- The draft with these bytes at its end. -/
def append (d : Draft) (bytes : ByteArray) : Draft :=
  { d with received := d.received.append bytes, bytes := d.bytes + bytes.size }

def write (d : Draft) (body : ByteArray) : Draft × Except WriteError Nat :=
  match d.flush with
  | (d, .error e) => (d, .error e)
  | (d, .ok ()) => (d.append body, .ok body.size)

/-- What can be seen of it on any handle, with any counts but that of the bytes. -/
def view (d : Draft) : WriterView := ⟨⟨0⟩, d.fields, d.sent, { bytes := d.bytes }⟩

/-- The handler is through. -/
def complete (d : Draft) : Draft × Verdict :=
  match d.flush with
  | (d, .error e) => (d, .failed (.write e))
  | (d, .ok ()) => (d, .served (d.sent.getD .ok))

/-- The handler failed. -/
def fail (d : Draft) (cause : HandlerError) : Draft × Verdict :=
  let d :=
    match d.sent with
    | some _ => d
    | none => ({ d with fields := .empty }.writeHeader .internalServerError).1
  (d, .failed (.handler cause))

/-- What a handler makes of a draft. No write waits, and nobody is asked. -/
def run {ε : Type} (d : Draft) : Program ε → Draft × Verdict
  | .finish => d.complete
  | .fail cause => d.fail cause
  | .crash message => (d, .crashed message)
  | .edit change next => run { d with fields := d.fields.apply change } next
  | .inspect next => run d (next d.view)
  | .writeHeader status next => run (d.writeHeader status).1 (next (d.writeHeader status).2)
  | .flush next => run d.flush.1 (next d.flush.2)
  | .write body _ next => run (d.write body).1 (next (.finished (d.write body).2))
  | .sleep _ next => run d next
  | .ask _ next => run d (next 0)

@[simp] theorem append_append (d : Draft) (a b : ByteArray) :
    (d.append a).append b = d.append (a ++ b) := by
  simp [append, ByteArray.size_append, Nat.add_assoc]

end Draft

/-- The view without what other responses or the state of a buffer can change. -/
def WriterView.plain (v : WriterView) : WriterView :=
  { v with handle := ⟨0⟩, stats := { bytes := v.stats.bytes } }

/-- The handler goes by the results of its own calls. It awaits each write, and neither its handle,
nor how its writes fared on the way, nor what it is answered makes a difference to it. -/
def Program.Steady {ε : Type} : Program ε → Prop
  | .finish | .fail _ | .crash _ => True
  | .edit _ next => next.Steady
  | .inspect next => ∀ view, next view = next view.plain ∧ (next view).Steady
  | .writeHeader _ next => ∀ result, (next result).Steady
  | .flush next => ∀ result, (next result).Steady
  | .write _ patience next => patience = none ∧ ∀ result, (next (.finished result)).Steady
  | .sleep _ next => next.Steady
  | .ask _ next => ∀ n, next n = next 0 ∧ (next n).Steady

/-- A dispatch that ends so may have sent nothing: the header section did not fit, or the handler
panicked. -/
def Verdict.Unsent : Verdict → Prop
  | .failed (.write (.fieldTooLarge _)) => True
  | .crashed _ => True
  | _ => False

namespace Draft

variable {d : Draft} {ε : Type}

/-! ## Sent or not -/

/-- A header section goes out, unless it does not fit. -/
theorem writeHeader_cases (d : Draft) (status : Http.Status) :
    ((d.writeHeader status).2 = .ok () ∧ (d.writeHeader status).1.sent ≠ none) ∨
      ∃ fault, (d.writeHeader status).2 = .error (.fieldTooLarge fault) := by
  unfold writeHeader
  split
  · rename_i earlier hsent
    exact .inl ⟨rfl, by simp [hsent]⟩
  · dsimp only
    split
    · exact .inr ⟨_, rfl⟩
    · exact .inl ⟨rfl, Option.some_ne_none _⟩

theorem flush_cases (d : Draft) :
    (d.flush.2 = .ok () ∧ d.flush.1.sent ≠ none) ∨
      ∃ fault, d.flush.2 = .error (.fieldTooLarge fault) := by
  unfold flush
  split
  · rename_i earlier hsent
    exact .inl ⟨rfl, by simp [hsent]⟩
  · exact d.writeHeader_cases .ok

theorem unsent_complete (h : d.complete.1.sent = none) : d.complete.2.Unsent := by
  have hflush := d.flush_cases
  unfold complete at h ⊢
  revert h hflush
  rcases d.flush with ⟨d₁, e | ⟨⟨⟩⟩⟩ <;> intro h hflush
  · obtain ⟨hok, -⟩ | ⟨fault, hfault⟩ := hflush
    · cases hok
    · cases hfault
      trivial
  · obtain ⟨-, hsent⟩ | ⟨fault, hfault⟩ := hflush
    · exact absurd h hsent
    · cases hfault

/-- An empty header section fits, so a handler that fails leaves nothing unsent. -/
theorem sent_fail (d : Draft) (cause : HandlerError) : (d.fail cause).1.sent ≠ none := by
  unfold fail
  cases hsent : d.sent with
  | some status => simp [hsent]
  | none =>
    simp [writeHeader, Layout.measure_withContentType_empty]

/-- Only those leave a draft unsent that end so. -/
theorem unsent_run {program : Program ε} (h : (d.run program).1.sent = none) :
    (d.run program).2.Unsent := by
  induction program generalizing d with
  | finish => exact unsent_complete h
  | fail cause => exact absurd h (d.sent_fail cause)
  | crash message => trivial
  | edit _ _ ih => exact ih h
  | inspect _ ih => exact ih _ h
  | writeHeader _ _ ih => exact ih _ h
  | flush _ ih => exact ih _ h
  | write _ _ _ ih => exact ih _ h
  | sleep _ _ ih => exact ih h
  | ask _ _ ih => exact ih _ h

/-! ## What was there before -/

/-- The draft, had this been on the handle before. -/
def rebase (d : Draft) (before : Received) : Draft :=
  match d.sent with
  | none => { d with received := before }
  | some _ => d

@[simp] theorem sent_rebase (d : Draft) (before : Received) : (d.rebase before).sent = d.sent := by
  unfold rebase
  split <;> rfl

@[simp] theorem view_rebase (d : Draft) (before : Received) : (d.rebase before).view = d.view := by
  unfold rebase
  split <;> rfl

theorem rebase_of_sent (h : d.sent ≠ none) (before : Received) : d.rebase before = d := by
  unfold rebase
  split
  · contradiction
  · rfl

theorem received_rebase_of_unsent (h : d.sent = none) (before : Received) :
    (d.rebase before).received = before := by
  unfold rebase
  rw [h]

theorem edit_rebase (d : Draft) (before : Received) (change : Fields.Edit) :
    { d.rebase before with fields := (d.rebase before).fields.apply change } =
      { d with fields := d.fields.apply change }.rebase before := by
  unfold rebase
  dsimp only
  split <;> rfl

theorem writeHeader_rebase (d : Draft) (before : Received) (status : Http.Status) :
    (d.rebase before).writeHeader status =
      ((d.writeHeader status).1.rebase before, (d.writeHeader status).2) := by
  obtain ⟨fields, sent, received, bytes⟩ := d
  cases sent with
  | some earlier => rfl
  | none =>
    simp only [rebase, writeHeader]
    cases Layout.measure fields.withContentType <;> rfl

theorem flush_rebase (d : Draft) (before : Received) :
    (d.rebase before).flush = (d.flush.1.rebase before, d.flush.2) := by
  unfold flush
  rw [sent_rebase]
  cases d.sent with
  | some earlier => rfl
  | none => exact d.writeHeader_rebase before .ok

theorem write_rebase (d : Draft) (before : Received) (body : ByteArray) :
    (d.rebase before).write body = ((d.write body).1.rebase before, (d.write body).2) := by
  have hflush := d.flush_cases
  unfold write
  rw [flush_rebase]
  revert hflush
  rcases d.flush with ⟨d₁, e | ⟨⟨⟩⟩⟩ <;> intro hflush
  · rfl
  · obtain ⟨-, hsent⟩ | ⟨fault, hfault⟩ := hflush
    · have happended : (d₁.append body).sent ≠ none := hsent
      simp only [rebase_of_sent hsent, rebase_of_sent happended]
    · cases hfault

theorem complete_rebase (d : Draft) (before : Received) :
    (d.rebase before).complete = (d.complete.1.rebase before, d.complete.2) := by
  unfold complete
  rw [flush_rebase]
  rcases d.flush with ⟨d₁, e | ⟨⟨⟩⟩⟩
  · rfl
  · simp

theorem fail_rebase (d : Draft) (before : Received) (cause : HandlerError) :
    (d.rebase before).fail cause = ((d.fail cause).1.rebase before, (d.fail cause).2) := by
  rw [rebase_of_sent (d.sent_fail cause)]
  obtain ⟨fields, sent, received, bytes⟩ := d
  cases sent with
  | some status => rfl
  | none => simp only [rebase, fail, writeHeader, Layout.measure_withContentType_empty]

/-- What was on the handle before makes a difference to an unsent draft only. -/
theorem run_rebase (d : Draft) (before : Received) (program : Program ε) :
    (d.rebase before).run program = ((d.run program).1.rebase before, (d.run program).2) := by
  -- on the handler's tree; every call has the same result, so the same branch is taken
  induction program generalizing d with
  | finish => exact d.complete_rebase before
  | fail cause => exact d.fail_rebase before cause
  | crash message => rfl
  | edit change next ih =>
    simp only [run, edit_rebase]
    exact ih _
  | inspect next ih =>
    simp only [run, view_rebase]
    exact ih _ d
  | writeHeader status next ih =>
    simp only [run, writeHeader_rebase]
    exact ih _ _
  | flush next ih =>
    simp only [run, flush_rebase]
    exact ih _ _
  | write body patience next ih =>
    simp only [run, write_rebase]
    exact ih _ _
  | sleep length next ih => exact ih d
  | ask question next ih => exact ih _ d

end Draft

end Sluice
