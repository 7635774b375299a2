import Sluice.Dispatch.Basic
import Sluice.Proofs.Serving.Frame

/-!
# What keeps nothing

Only a dispatch that is through reports a response as kept. Whatever a writer does, and whatever is
done with its handle, nothing is, at any transport.
-/
namespace Sluice

namespace Session

variable {τ : Type} {s s₁ s' : Session τ}

theorem kept_register (s : Session τ) : s.register.1.link.kept = s.link.kept := by
  cases hwaiter : s.writer.waiter with
  | some waiter => simp [register_of_some hwaiter]
  | none => simp [register_of_none hwaiter]

theorem kept_unregister (s : Session τ) : s.unregister.link.kept = s.link.kept := by
  simp [unregister]

theorem kept_close (s : Session τ) : s.close.kept = s.link.kept := by
  unfold close
  split <;> simp

theorem kept_report (s : Session τ) {e : Event} (h : e.keptKey? = none) :
    (s.report e).link.kept = s.link.kept := by
  show (s.link.report e).kept = s.link.kept
  rw [Link.kept_report, h, Option.toList_none, List.append_nil]

theorem kept_finishBody (s : Session τ) (body : ByteArray) :
    (s.finishBody body).link.kept = s.link.kept := by
  unfold finishBody
  split
  · rfl
  · rename_i r _
    exact s.link.kept_reportAll (keptKey?_recordBody r body)

variable [Transport τ]

theorem kept_offer {chunk : ByteArray} {a : Nat} (h : s.offer chunk = (s', a)) :
    s'.link.kept = s.link.kept := by
  obtain rfl : (s.offer chunk).1 = s' := congrArg Prod.fst h
  exact s.link.kept_offer s.writer.handle chunk

/-- A registration and the two offers around it. -/
theorem kept_retry {s₂ s₃ : Session τ} {chunk rest : ByteArray} {a r : Nat} {waiter : WaiterId}
    (hoffer : s.offer chunk = (s₁, a)) (hregister : s₁.countShort.register = (s₂, waiter))
    (hagain : s₂.offer rest = (s₃, r)) : s₃.link.kept = s.link.kept := by
  have hkept := s₁.countShort.kept_register
  rw [hregister] at hkept
  have hfirst : s₁.link.kept = s.link.kept := kept_offer hoffer
  exact (kept_offer hagain).trans (hkept.trans hfirst)

theorem Pours.kept_eq {now : Instant} {body : ByteArray} {n : Nat} {p : Progress}
    (h : Pours now body s n s' p) : s'.link.kept = s.link.kept := by
  induction h with
  | done => exact kept_finishBody _ body
  | endless => rfl
  | whole _ _ hoffer _ _ ih => exact ih.trans (kept_offer hoffer)
  | retried _ _ hoffer _ hregister hagain _ _ ih =>
    rw [ih, kept_unregister, kept_retry hoffer hregister hagain]
  | blocked _ _ hoffer _ hregister hagain =>
    have hretry := kept_retry hoffer hregister hagain
    exact (kept_report _ rfl).trans hretry

theorem Heads.kept_eq {status : Http.Status} {result : Except WriteError Unit}
    (h : Heads status s s' result) : s'.link.kept = s.link.kept := by
  cases h with
  | repeated => exact kept_report s rfl
  | unfit => rfl
  | refused _ _ hsend => exact Link.kept_sendSection hsend
  | @sent layout link _ _ hsend =>
    have hreport := kept_report (⟨s.writer, link⟩ : Session τ)
      (e := .headersSent s.writer.handle status layout) rfl
    exact hreport.trans (Link.kept_sendSection hsend)

theorem Flushes.kept_eq {result : Except WriteError Unit} (h : Flushes s s' result) :
    s'.link.kept = s.link.kept := by
  cases h with
  | already => rfl
  | heads _ hheads => exact hheads.kept_eq

theorem Writes.kept_eq {now : Instant} {body : ByteArray} {p : Progress}
    (h : Writes now body s s' p) : s'.link.kept = s.link.kept := by
  cases h with
  | failed hflush => exact hflush.kept_eq
  | pours hflush hpours => exact hpours.kept_eq.trans hflush.kept_eq

theorem Resumes.kept_eq {now : Instant} {write : PendingWrite} {p : Progress}
    (h : Resumes now write s s' p) : s'.link.kept = s.link.kept := by
  cases h with
  | waits => rfl
  | @gaveUp board e =>
    refine (kept_report _ rfl).trans ?_
    exact (kept_unregister _).trans (s.link.kept_setBoard _ _)
  | @pours board ready _ _ _ hpours =>
    rw [hpours.kept_eq, kept_report _ rfl]
    exact s.link.kept_setBoard _ _

theorem Replays.kept_eq {now : Instant} {r : Recording} {p : Progress}
    (h : Replays now r s s' p) : s'.link.kept = s.link.kept := by
  cases h with
  | failed hheads => exact hheads.kept_eq
  | bare hheads => exact hheads.kept_eq
  | writes hheads _ hwrites => exact hwrites.kept_eq.trans hheads.kept_eq

end Session

namespace Pool

variable {τ : Type} [Transport τ]

theorem kept_release (p : Pool) (l : Link τ) (handle : HandleId) :
    (p.release l handle).2.1.kept = l.kept := by
  unfold release
  split
  · rfl
  · exact (l.kept_report _).trans (List.append_nil _)

theorem kept_checkout (p : Pool) (l : Link τ) : (p.checkout l).2.1.kept = l.kept := by
  unfold checkout
  split
  · rfl
  · exact (l.kept_report _).trans (List.append_nil _)

end Pool

namespace Turn

variable {τ : Type} [Transport τ]

/-- A turn that is left changes nothing of its dispatcher but the pool. -/
theorem dispatcher_leave (t : Turn τ) :
    t.leave.dispatcher = { t.dispatcher with pool := t.leave.dispatcher.pool } := rfl

theorem kept_leave (t : Turn τ) : t.leave.link.kept = t.session.link.kept :=
  (Pool.kept_release ..).trans t.session.kept_close

end Turn

end Sluice
