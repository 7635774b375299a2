import Sluice.Proofs.Writing.Calls
import Sluice.Transport.Faulty

/-!
# Header sections that are not sent

An attempt at a header section fails before anything counts as sent, and it may be made again with
other fields. What it leaves behind is the content type it was made with: a section that had none
has the default one from then on. Of the writer and of its link nothing else changes but what the
transport did by itself.
-/
namespace Sluice

/-- A writer whose section has a content type is prepared already. -/
theorem Writer.prepared_eq_iff {w : Writer} :
    w.prepared = w ↔ w.fields.contains .contentType = true := by
  constructor
  · intro h
    have hfields : w.fields.withContentType = w.fields := congrArg Writer.fields h
    rw [← hfields]
    exact w.fields.contains_withContentType
  · intro h
    show { w with fields := w.fields.withContentType } = w
    rw [Fields.withContentType_of_contains h]

namespace Session

variable {τ : Type}

/-- An attempt at a header section came to nothing. -/
structure Vain (s s' : Session τ) : Prop where
  unsent : s.writer.sent = none
  /-- The fields are those of the attempt, and everything else is as it was. -/
  writer_eq : s'.writer = s.writer.prepared
  /-- Only the transport was asked. -/
  link_eq : s'.link = { s.link with transport := s'.link.transport }

variable [Transport τ]

/-- A call failed because its header section did not go out: the call for the section itself, or a
flush or a write that had to send it first. -/
inductive Unsent (s : Session τ) : Session τ → WriteError → Prop where
  | header {status s' e} : s.writeHeader status = (s', .error e) → Unsent s s' e
  | flush {s' e} : s.flush = (s', .error e) → Unsent s s' e
  | write {now body s' e} : s.write now body = (s', .finished (.error e)) → Unsent s s' e

variable {s s' : Session τ} {e : WriteError}

theorem Heads.vain {status : Http.Status} (h : Heads status s s' (.error e)) : Vain s s' := by
  cases h with
  | unfit hsent => exact ⟨hsent, rfl, rfl⟩
  | refused hsent _ hsend => exact ⟨hsent, rfl, (Link.sendSection_eq_iff.1 hsend).2⟩

theorem Flushes.vain (h : Flushes s s' (.error e)) : Vain s s' := by
  cases h with
  | heads _ hheads => exact hheads.vain

/-- A write that fails at once has failed with its header section. -/
theorem Writes.vain {now : Instant} {body : ByteArray}
    (h : Writes now body s s' (.finished (.error e))) : Vain s s' := by
  cases h with
  | failed hflush => exact hflush.vain
  | pours _ hpours => exact absurd rfl (hpours.ne_error e)

theorem Unsent.vain (h : Unsent s s' e) : Vain s s' := by
  cases h with
  | @header status _ _ hcall =>
    have hheads := s.heads_writeHeader status
    rw [hcall] at hheads
    exact hheads.vain
  | flush hcall =>
    have hflush := s.flushes_flush
    rw [hcall] at hflush
    exact hflush.vain
  | @write now body _ _ hcall =>
    have hwrite := s.writes_write now body
    rw [hcall] at hwrite
    exact hwrite.vain

/-- Whichever way a header section fails to go out, and whichever call had to send it: the writer
keeps everything but its fields, which take the default content type if they had none. So it is
exactly as before if its section has a content type, and only then. -/
theorem eq_iff_of_unsent (h : Unsent s s' e) :
    s.writer.sent = none ∧
      s'.writer = { s.writer with fields := s.writer.fields.withContentType } ∧
      s'.link = { s.link with transport := s'.link.transport } ∧
      (s'.writer = s.writer ↔ s.writer.fields.contains .contentType = true) := by
  have hvain := h.vain
  refine ⟨hvain.unsent, hvain.writer_eq, hvain.link_eq, ?_⟩
  rw [hvain.writer_eq]
  exact Writer.prepared_eq_iff

/-- A writer without fields, at a transport that refuses the first header call of this kind. -/
def refusedBy (call : HeaderCall) : Session Faulty :=
  ⟨{ handle := ⟨1⟩, recorder := some (.new 8) },
    { transport := { plan := { headerCall := fun c => if c = call then [1] else [] } } }⟩

/-- A write that has to send the fields first, where the last step of their sending is refused. -/
theorem eq_iff_of_unsent_write :
    let s := refusedBy .sendHeaders
    let s' := (s.write .start "page".toUTF8).1
    s'.writer = { s.writer with fields := Fields.empty.withContentType } ∧ s'.writer ≠ s.writer := by
  intro s s'
  have hcall : s.write .start "page".toUTF8 =
      (s', .finished (.error (.transport (.rejected .sendHeaders Faulty.reason)))) := rfl
  obtain ⟨-, hwriter, -, hsame⟩ := eq_iff_of_unsent (.write hcall)
  exact ⟨hwriter, fun h => Bool.false_ne_true (hsame.1 h)⟩

/-- The writer of a header section that fails is not what it was: it had no field, and has one. -/
theorem unsent_changes_fields :
    let s := refusedBy .initResponse
    let failed := s.writeHeader .ok
    failed.2 = .error (.transport (.rejected .initResponse Faulty.reason)) ∧
      s.writer.fields.instances = [] ∧
      failed.1.writer.fields.instances = [(.contentType, .defaultContentType)] ∧
      failed.1.writer ≠ s.writer := by
  intro s failed
  refine ⟨rfl, rfl, rfl, ?_⟩
  intro h
  cases congrArg (fun w => w.fields.instances.length) h

end Session

end Sluice
