import Mathlib.Logic.Relation
import Sluice.Proofs.Writing.Calls

/-!
# The strokes of a writer

Whatever a writer is called to do, it does by a few small strokes: it makes an offer, sends a header
section, puts its registration up or takes it down, takes a count out of its mailbox, or only makes
a note. What holds of every stroke holds of every call.
-/
namespace Sluice

namespace Session

variable {τ : Type} [Transport τ]

/-- One stroke. -/
inductive Stroke : Session τ → Session τ → Prop where
  /-- The writer keeps its handle, its board and its waiter, and calls no header section back. -/
  | notes {s : Session τ} {w : Writer} : w.handle = s.writer.handle → w.board = s.writer.board →
      w.waiter = s.writer.waiter → (s.writer.sent ≠ none → w.sent ≠ none) →
      Stroke s { s with writer := w }
  | reports {s : Session τ} (log : Array Event) : Stroke s { s with link := { s.link with log } }
  | sends {s : Session τ} {status layout fields link answer} :
      s.link.sendSection s.writer.handle status layout fields = (link, answer) →
      Stroke s { s with link }
  | offers {s : Session τ} (chunk : ByteArray) : Stroke s (s.offer chunk).1
  | registers {s : Session τ} : Stroke s s.register.1
  | unregisters {s : Session τ} : Stroke s s.unregister
  | takes {s : Session τ} {waiter count board} : s.writer.waiter = some waiter →
      (s.link.board s.writer.board).take? waiter = some (count, board) →
      Stroke s { s with link := s.link.setBoard s.writer.board board }

/-- Strokes in turn. -/
abbrev Strokes : Session τ → Session τ → Prop := Relation.ReflTransGen Stroke

variable {s s₁ s₂ s₃ s' : Session τ}

theorem Strokes.refl (s : Session τ) : Strokes s s := Relation.ReflTransGen.refl

/-- The writer may change in what is its own business. -/
theorem strokes_of_writer {w : Writer} (hhandle : w.handle = s.writer.handle)
    (hboard : w.board = s.writer.board) (hwaiter : w.waiter = s.writer.waiter)
    (hsent : w.sent = s.writer.sent) : Strokes s { s with writer := w } :=
  .single (.notes hhandle hboard hwaiter fun h => by rwa [hsent])

theorem strokes_report (s : Session τ) (e : Event) : Strokes s (s.report e) :=
  .single (.reports _)

theorem strokes_edit (s : Session τ) (change : Fields.Edit) : Strokes s (s.edit change) :=
  strokes_of_writer rfl rfl rfl rfl

theorem strokes_takeRecording (s : Session τ) : Strokes s s.takeRecording.1 :=
  strokes_of_writer rfl rfl rfl rfl

theorem strokes_offer {chunk : ByteArray} {a : Nat} (h : s.offer chunk = (s', a)) :
    Strokes s s' := by
  obtain rfl : (s.offer chunk).1 = s' := congrArg Prod.fst h
  exact .single (.offers chunk)

theorem strokes_finishBody (s : Session τ) (body : ByteArray) : Strokes s (s.finishBody body) := by
  have hwriter := s.writer_finishBody body
  obtain ⟨events, hlink⟩ := s.link_finishBody body
  have hnotes : Strokes s { s with writer := (s.finishBody body).writer } :=
    strokes_of_writer (by rw [hwriter]) (by rw [hwriter]) (by rw [hwriter]) (by rw [hwriter])
  refine hnotes.trans ?_
  rw [show s.finishBody body = ⟨(s.finishBody body).writer, (s.finishBody body).link⟩ from rfl,
    hlink]
  exact .single (.reports _)

/-- The second offer of a chunk, with the registration before it. -/
theorem strokes_retry {chunk rest : ByteArray} {a r : Nat} {waiter : WaiterId}
    (hoffer : s.offer chunk = (s₁, a)) (hregister : s₁.countShort.register = (s₂, waiter))
    (hagain : s₂.offer rest = (s₃, r)) : Strokes s s₃ := by
  have hshort : Strokes s₁ s₁.countShort := strokes_of_writer rfl rfl rfl rfl
  obtain rfl : s₁.countShort.register.1 = s₂ := congrArg Prod.fst hregister
  exact (strokes_offer hoffer).trans ((hshort.tail .registers).trans (strokes_offer hagain))

theorem Pours.strokes {now : Instant} {body : ByteArray} {n : Nat} {p : Progress}
    (h : Pours now body s n s' p) : Strokes s s' := by
  induction h with
  | @done s n _ => exact s.strokes_finishBody body
  | @endless s n _ _ => exact .refl s
  | whole _ _ hoffer _ _ ih => exact (strokes_offer hoffer).trans ih
  | retried _ _ hoffer _ hregister hagain _ _ ih =>
    exact ((strokes_retry hoffer hregister hagain).tail .unregisters).trans ih
  | @blocked _ _ _ s₃ _ _ _ _ _ hoffer _ hregister hagain =>
    have hcount : Strokes s₃ { s₃ with writer.stats.waits := s₃.writer.stats.waits + 1 } :=
      strokes_of_writer rfl rfl rfl rfl
    exact (strokes_retry hoffer hregister hagain).trans (hcount.tail (.reports _))

theorem Heads.strokes {status : Http.Status} {result : Except WriteError Unit}
    (h : Heads status s s' result) : Strokes s s' := by
  cases h with
  | repeated => exact s.strokes_report _
  | unfit => exact strokes_of_writer rfl rfl rfl rfl
  | refused _ _ hsend =>
    have hsends : Strokes s { s with link := _ } := .single (.sends hsend)
    exact hsends.trans (strokes_of_writer rfl rfl rfl rfl)
  | sent _ _ hsend =>
    have hsends : Strokes s { s with link := _ } := .single (.sends hsend)
    have hopens := hsends.tail
      (.notes (w := s.writer.opened status) rfl rfl rfl fun _ => Option.some_ne_none status)
    exact hopens.tail (.reports _)

theorem Flushes.strokes {result : Except WriteError Unit} (h : Flushes s s' result) :
    Strokes s s' := by
  cases h with
  | already => exact .refl s
  | heads _ hheads => exact hheads.strokes

theorem Writes.strokes {now : Instant} {body : ByteArray} {p : Progress}
    (h : Writes now body s s' p) : Strokes s s' := by
  cases h with
  | failed hflush => exact hflush.strokes
  | pours hflush hpours => exact hflush.strokes.trans hpours.strokes

/-- A wait that ended took a count out of the writer's mailbox, or nothing. -/
theorem strokes_ended {now : Instant} {write : PendingWrite} {board : AckBoard}
    {outcome : Except WriteError Nat} (hwaiter : s.writer.waiter = some write.wait.waiter)
    (h : s.waitEnds? now write = some (board, outcome)) :
    Strokes s { s with link := s.link.setBoard s.writer.board board } := by
  cases ends_of_waitEnds? h with
  | told htake => exact .single (.takes hwaiter htake)
  | late =>
    have hsame : s.link.setBoard s.writer.board (s.link.board s.writer.board) = s.link := by
      cases s.writer.board <;> rfl
    rw [hsame]

theorem Resumes.strokes {now : Instant} {write : PendingWrite} {p : Progress}
    (h : Resumes now write s s' p) (hwaiter : s.writer.waiter = some write.wait.waiter) :
    Strokes s s' := by
  cases h with
  | waits => exact .refl s
  | @gaveUp board e hends =>
    have hgone := (strokes_ended hwaiter hends).tail .unregisters
    have hnoted := hgone.trans (strokes_of_writer
      (w := { s.writer with recorder := s.writer.recorder.map fun _ => .abandoned })
      rfl rfl rfl rfl)
    exact hnoted.trans (strokes_report _ _)
  | pours hends hpours =>
    exact ((strokes_ended hwaiter hends).tail (.reports _)).trans hpours.strokes

theorem Replays.strokes {now : Instant} {r : Recording} {p : Progress}
    (h : Replays now r s s' p) : Strokes s s' := by
  have hfields : Strokes s (s.withFields r) := strokes_of_writer rfl rfl rfl rfl
  cases h with
  | failed hheads => exact hfields.trans hheads.strokes
  | bare hheads => exact hfields.trans hheads.strokes
  | writes hheads _ hwrites => exact hfields.trans (hheads.strokes.trans hwrites.strokes)

/-! ## The writer stays the same -/

/-- The second session is one of the same writer. -/
structure Continues (s s' : Session τ) : Prop where
  handle_eq : s'.writer.handle = s.writer.handle
  board_eq : s'.writer.board = s.writer.board
  sent : s.writer.sent ≠ none → s'.writer.sent ≠ none

omit [Transport τ] in
theorem Continues.trans (h : Continues s s₁) (h' : Continues s₁ s₂) : Continues s s₂ :=
  ⟨h'.handle_eq.trans h.handle_eq, h'.board_eq.trans h.board_eq, fun hs => h'.sent (h.sent hs)⟩

theorem Stroke.continues (h : Stroke s s') : Continues s s' := by
  cases h with
  | notes hhandle hboard _ hsent => exact ⟨hhandle, hboard, hsent⟩
  | registers =>
    have hwriter := s.writer_register
    exact ⟨by rw [hwriter], by rw [hwriter], fun h => by rwa [hwriter]⟩
  | _ => exact ⟨rfl, rfl, id⟩

theorem Strokes.continues (h : Strokes s s') : Continues s s' := by
  induction h with
  | refl => exact ⟨rfl, rfl, id⟩
  | tail _ hstroke ih => exact ih.trans hstroke.continues

/-! ## Writes that wait -/

/-- A writer that is left waiting waits at its own mailbox. -/
theorem Pours.waiter_eq {now : Instant} {body : ByteArray} {n : Nat} {p : Progress}
    (h : Pours now body s n s' p) {write : PendingWrite} (hp : p = .suspended write) :
    s'.writer.waiter = some write.wait.waiter := by
  induction h with
  | done => cases hp
  | endless => cases hp
  | whole _ _ _ _ _ ih => exact ih hp
  | retried _ _ _ _ _ _ _ _ ih => exact ih hp
  | @blocked _ s₁ s₂ _ _ _ waiter _ _ _ _ hregister hagain =>
    cases hp
    obtain rfl : (s₂.offer _).1 = _ := congrArg Prod.fst hagain
    have hwriter := s₁.countShort.writer_register
    rw [hregister] at hwriter
    exact congrArg Writer.waiter hwriter

theorem Writes.waiter_eq {now : Instant} {body : ByteArray} {p : Progress}
    (h : Writes now body s s' p) {write : PendingWrite} (hp : p = .suspended write) :
    s'.writer.waiter = some write.wait.waiter := by
  cases h with
  | failed => cases hp
  | pours _ hpours => exact hpours.waiter_eq hp

theorem Resumes.waiter_eq {now : Instant} {write : PendingWrite} {p : Progress}
    (h : Resumes now write s s' p) (hwaiter : s.writer.waiter = some write.wait.waiter)
    {write' : PendingWrite} (hp : p = .suspended write') :
    s'.writer.waiter = some write'.wait.waiter := by
  cases h with
  | waits =>
    cases hp
    exact hwaiter
  | gaveUp => cases hp
  | pours _ hpours => exact hpours.waiter_eq hp

theorem Replays.waiter_eq {now : Instant} {r : Recording} {p : Progress}
    (h : Replays now r s s' p) {write : PendingWrite} (hp : p = .suspended write) :
    s'.writer.waiter = some write.wait.waiter := by
  cases h with
  | failed => cases hp
  | bare => cases hp
  | writes _ _ hwrites => exact hwrites.waiter_eq hp

end Session

end Sluice
