import Sluice.Proofs.Serving.Calls
import Sluice.Proofs.Waking.Registrations

/-!
# How far a turn of a dispatch gets

Whatever the handler is, a turn makes strokes of its own writer until the dispatch waits, at its own
mailbox if for space, or is over. Then its writer is closed first, and its handle is released.
-/
namespace Sluice

variable {τ ε : Type}

/-- A dispatch that waits for space does so at this mailbox. -/
def Stage.WaitsAt (waiter : Option WaiterId) : Stage ε → Prop
  | .replaying _ write => waiter = some write.wait.waiter
  | .writing write _ _ => waiter = some write.wait.waiter
  | _ => True

namespace Turn

variable [Transport τ]

/-- The turn went on to another by strokes of its writer. It has no business but with the cache. -/
structure Reaches (t t' : Turn τ) : Prop where
  dispatcher_eq : t'.dispatcher = { t.dispatcher with cache := t'.dispatcher.cache }
  strokes : t.session.Strokes t'.session

/-- How a turn ends. -/
inductive Ends (t : Turn τ) : Service τ → Outcome ε → Prop where
  | waits {t' : Turn τ} {stage} : t.Reaches t' → stage.WaitsAt t'.session.writer.waiter →
      Ends t ⟨t'.dispatcher, t'.session.link⟩ (.inFlight ⟨t'.session.writer, t'.key, stage⟩)
  | returned {t' : Turn τ} {result} : t.Reaches t' → Ends t t'.leave (.returned result)
  | crashed {t' : Turn τ} {message} : t.Reaches t' → Ends t t'.leave (.crashed message)

variable {t t₁ t₂ : Turn τ} {now : Instant} {s : Service τ} {o : Outcome ε}

theorem Reaches.refl (t : Turn τ) : t.Reaches t := ⟨rfl, .refl _⟩

theorem Reaches.trans (h : t.Reaches t₁) (h' : t₁.Reaches t₂) : t.Reaches t₂ := by
  refine ⟨?_, h.strokes.trans h'.strokes⟩
  rw [h'.dispatcher_eq, h.dispatcher_eq]

theorem reaches_session {session : Session τ} (h : t.session.Strokes session) :
    t.Reaches { t with session } :=
  ⟨rfl, h⟩

theorem reaches_report (t : Turn τ) (e : Event) : t.Reaches (t.report e) :=
  reaches_session (t.session.strokes_report e)

/-- A turn ends as the one it went on to. -/
theorem Ends.after (h : t.Reaches t₁) (h' : t₁.Ends s o) : t.Ends s o := by
  cases h' with
  | waits hr hat => exact .waits (h.trans hr) hat
  | returned hr => exact .returned (h.trans hr)
  | crashed hr => exact .crashed (h.trans hr)

/-! ## Handlers -/

theorem Files.ends {status : Http.Status} (h : Files now status t s o) : t.Ends s o := by
  have htaken : t.Reaches t.unrecorded := reaches_session t.session.strokes_takeRecording
  cases h with
  | passes => exact .returned (.refl t)
  | declines => exact .returned (htaken.trans (reaches_report _ _))
  | overflows => exact .crashed (htaken.trans (reaches_report _ _))
  | @keeps cache cache' key recording events link _ _ _ _ _ hlink =>
    have hreports : t.unrecorded.session.Strokes { t.unrecorded.session with link } := by
      rw [← hlink]
      exact .single (.reports _)
    exact .returned (htaken.trans ⟨rfl, hreports⟩)

theorem Completes.ends (h : Completes now t s o) : t.Ends s o := by
  cases h with
  | fails hflush => exact .returned (reaches_session hflush.strokes)
  | files hflush hfiles => exact .after (reaches_session hflush.strokes) hfiles.ends

theorem Fails.reaches {cause : HandlerError} (h : Fails cause t t₁) : t.Reaches t₁ := by
  have hfailed : t.Reaches (t.failed cause) := t.reaches_report _
  have hcleared := (t.failed cause).session.strokes_edit .clear
  cases h with
  | late => exact hfailed
  | answers _ hheads => exact hfailed.trans (reaches_session (hcleared.trans hheads.strokes))
  | gaveUp _ hheads =>
    have hsession := reaches_session (hcleared.trans hheads.strokes)
    exact (hfailed.trans hsession).trans (reaches_report _ _)

/-- A handler is carried out until it ends or has to wait. -/
theorem Runs.ends {program : Program ε} (h : Runs now t program s o) : t.Ends s o := by
  induction h with
  | completes hcompletes => exact hcompletes.ends
  | fails hfails => exact .returned hfails.reaches
  | crashes => exact .crashed (.refl _)
  | edits _ ih => exact .after (reaches_session (Session.strokes_edit _ _)) ih
  | inspects _ ih => exact ih
  | heads hheads _ ih => exact .after (reaches_session hheads.strokes) ih
  | flushes hflush _ ih => exact .after (reaches_session hflush.strokes) ih
  | writes hwrites _ ih => exact .after (reaches_session hwrites.strokes) ih
  | waits hwrites => exact .waits (reaches_session hwrites.strokes) (hwrites.waiter_eq rfl)
  | sticks hwrites => exact .waits (reaches_session hwrites.strokes) trivial
  | sleeps => exact .waits (.refl _) trivial
  | asks => exact .waits (.refl _) trivial

/-! ## Recordings -/

theorem ends_replayed {recording : Recording} {progress : Progress} (hreaches : t.Reaches t₁)
    (hat : ∀ write, progress = .suspended write →
      t₁.session.writer.waiter = some write.wait.waiter)
    (h : t₁.replayed recording progress = (s, o)) : t.Ends s o := by
  rcases progress with (e | n) | write | _
  · cases h
    exact .returned hreaches
  · cases h
    exact .returned hreaches
  · cases h
    exact .waits hreaches (hat write rfl)
  · cases h
    exact .waits hreaches trivial

end Turn

namespace Service

variable [Transport τ] {s s' : Service τ} {d : Dispatch ε} {o : Outcome ε} {now : Instant}

/-- A dispatch that is left waiting. -/
theorem ends_wait (hat : d.stage.WaitsAt d.writer.waiter) : (d.turn s).Ends s (.inFlight d) :=
  .waits (.refl (d.turn s)) hat

theorem ends_resume (hat : d.stage.WaitsAt d.writer.waiter) (h : s.resume now d = (s', o)) :
    (d.turn s).Ends s' o := by
  cases resumes_resume h with
  | rests => exact ends_wait hat
  | replays hstage hresumes hreplayed =>
    rw [hstage] at hat
    exact Turn.ends_replayed ((d.turn s).reaches_session (hresumes.strokes hat))
      (fun _ hp => hresumes.waiter_eq hat hp) hreplayed
  | writes hstage hresumes hruns =>
    rw [hstage] at hat
    exact .after (Turn.reaches_session (hresumes.strokes hat)) hruns.ends
  | drops hstage _ hresumes hruns =>
    rw [hstage] at hat
    exact .after (Turn.reaches_session (hresumes.strokes hat)) hruns.ends
  | waits hstage hresumes =>
    rw [hstage] at hat
    exact .waits ((d.turn s).reaches_session (hresumes.strokes hat)) (hresumes.waiter_eq hat rfl)
  | sticks hstage hresumes =>
    rw [hstage] at hat
    exact .waits ((d.turn s).reaches_session (hresumes.strokes hat)) trivial
  | wakes _ hruns => exact hruns.ends

theorem ends_answer {n : Nat} (hat : d.stage.WaitsAt d.writer.waiter)
    (h : s.answer now d n = (s', o)) : (d.turn s).Ends s' o := by
  cases answers_answer h with
  | rests => exact ends_wait hat
  | tells _ hruns => exact hruns.ends

/-- What taking up a request comes to. -/
inductive Admits (s : Service τ) : Service τ → Outcome ε → Prop where
  | refused {pool link e} : s.dispatcher.pool.checkout s.link = (pool, link, .error e) →
      Admits s ⟨{ s.dispatcher with pool }, link⟩ (.returned (.error (.handle e)))
  /-- A new writer has the handle that was checked out, and nothing was done with it yet. -/
  | admitted {t : Turn τ} {pool link handle s' o} :
      s.dispatcher.pool.checkout s.link = (pool, link, .ok handle) →
      t.dispatcher = { s.dispatcher with pool, cache := t.dispatcher.cache } →
      t.session.writer.handle = handle → t.session.writer.board = s.dispatcher.board →
      t.session.writer.waiter = none → t.session.link = { link with log := t.session.link.log } →
      t.Ends s' o → Admits s s' o

theorem admits_start {request : Request} {program : Program ε}
    (h : s.start now request program = (s', o)) : s.Admits s' o := by
  cases enters_start h with
  | refused hcheckout => exact .refused hcheckout
  | calls hcheckout _ hruns => exact .admitted hcheckout rfl rfl rfl rfl rfl hruns.ends
  | misses hcheckout _ _ _ hruns => exact .admitted hcheckout rfl rfl rfl rfl rfl hruns.ends
  | hits hcheckout _ _ _ ht hreplays hreplayed _ =>
    subst ht
    have hreaches := (Turn.reaches_report _ _).trans (Turn.reaches_session hreplays.strokes)
    exact .admitted hcheckout rfl rfl rfl rfl rfl
      (Turn.ends_replayed hreaches (fun _ hp => hreplays.waiter_eq hp) hreplayed)

end Service

end Sluice
