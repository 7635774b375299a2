import Sluice.Proofs.Serving.Calls
import Sluice.Proofs.Serving.Pooled
import Sluice.Proofs.Writing.Recorded

/-!
# What a turn of a dispatch comes to

A handler that awaits each of its writes either waits, or leaves with an answer that was kept, one
that was not, or none. While it waits, what its recorder has taken down is what the transport was
given. A recording that is sent again waits, or leaves with what was recorded, or fails.
-/
namespace Sluice

/-- The handler awaits each write to its result. -/
def Program.Patient {ε : Type} : Program ε → Prop
  | .finish | .fail _ | .crash _ => True
  | .edit _ next => next.Patient
  | .inspect next => ∀ view, (next view).Patient
  | .writeHeader _ next => ∀ result, (next result).Patient
  | .flush next => ∀ result, (next result).Patient
  | .write _ patience next => patience = none ∧ ∀ result, (next (.finished result)).Patient
  | .sleep _ next => next.Patient
  | .ask _ next => ∀ n, (next n).Patient

/-- The answer comes from the cache. -/
def Stage.isReplay {ε : Type} : Stage ε → Bool
  | .replaying .. => true
  | _ => false

variable {τ ε : Type} [Transport τ] [Transport.Orderly τ]

/-- What holds while a dispatch waits. -/
def Stage.Holds (s : Session τ) : Stage ε → Prop
  | .replaying recording write => s.Replayed recording (.suspended write)
  | .writing write patience next => patience = none ∧ s.Recorded (.suspended write) ∧
      ∀ result, (next (.finished result)).Patient
  | .sleeping _ next => s.Records .empty ∧ next.Patient
  | .asking _ next => s.Records .empty ∧ ∀ n, (next n).Patient
  | .endless => True

namespace Turn

/-- The turn went on to another: only its own session changed. -/
structure Goes (t t' : Turn τ) : Prop where
  dispatcher_eq : t'.dispatcher = t.dispatcher
  key_eq : t'.key = t.key
  session : t.session.Tends t'.session

/-- The turn left: its writer was closed and its handle released. -/
structure Left (t : Turn τ) (s : Service τ) : Prop where
  dispatcher_eq : s.dispatcher = { t.dispatcher with pool := s.dispatcher.pool }
  handles : s.dispatcher.pool.handles = t.dispatcher.pool.handles ++ [t.session.writer.handle] ∨
    s.dispatcher.pool.handles = t.dispatcher.pool.handles
  link : t.session.link.Rests s.link

/-- The cache took in what the transport received of the answer. -/
structure Keeps (now : Instant) (t t' : Turn τ) (key : String) (recording : Recording) :
    Prop where
  key_eq : t.key = some key
  received_eq : t.session.received = recording.received
  contains : recording.fields.contains .contentType = true
  store : ∃ cache cache' events, t.dispatcher.cache = some cache ∧
    cache.store? now key recording = some (cache', events) ∧
    t'.dispatcher = { t.dispatcher with cache := some cache' }
  handle_eq : t'.session.writer.handle = t.session.writer.handle
  link : (t.session.link.report (.responseCached key recording.body.size)).Rests t'.session.link

/-- What a handler's turn comes to. -/
inductive Comes (now : Instant) (t : Turn τ) : Service τ → Outcome ε → Prop where
  | waits {t' : Turn τ} {stage} : t.Goes t' → stage.isReplay = false → stage.Holds t'.session →
      Comes now t ⟨t'.dispatcher, t'.session.link⟩
        (.inFlight ⟨t'.session.writer, t'.key, stage⟩)
  | failed {t' : Turn τ} {s e} : t.Goes t' → t'.Left s → Comes now t s (.returned (.error e))
  | crashed {t' : Turn τ} {s message} : t.Goes t' → t'.Left s → Comes now t s (.crashed message)
  /-- The answer was reported as kept, but the clock cannot name the end of its time. -/
  | overflowed {t' : Turn τ} {s key size message} : t.Goes t' →
      (t'.report (.responseCached key size)).Left s → Comes now t s (.crashed message)
  | answered {t' : Turn τ} {s status} : t.Goes t' → t'.Left s →
      Comes now t s (.returned (.ok (t'.served status .handler)))
  | kept {t₁ t₂ : Turn τ} {s key recording} : t.Goes t₁ → Keeps now t₁ t₂ key recording →
      t₂.Left s → Comes now t s (.returned (.ok (t₁.served .ok .handler)))

/-- What the turn of a recording that is sent again comes to. -/
inductive Repeats (recording : Recording) (t : Turn τ) : Service τ → Outcome ε → Prop where
  | waits {t' : Turn τ} {write} : t.Goes t' →
      t'.session.Replayed recording (.suspended write) →
      Repeats recording t ⟨t'.dispatcher, t'.session.link⟩
        (.inFlight ⟨t'.session.writer, t'.key, .replaying recording write⟩)
  | stuck {t' : Turn τ} : t.Goes t' → Repeats recording t ⟨t'.dispatcher, t'.session.link⟩
      (.inFlight ⟨t'.session.writer, t'.key, .endless⟩)
  | failed {t' : Turn τ} {s e} : t.Goes t' → t'.Left s →
      Repeats recording t s (.returned (.error e))
  | answered {t' : Turn τ} {s} : t.Goes t' → t'.session.received = recording.received →
      t'.Left s → Repeats recording t s (.returned (.ok (t'.served recording.status .cache)))

section

variable {t t₁ t₂ : Turn τ} {now : Instant} {s : Service τ} {o : Outcome ε}

theorem Goes.refl (t : Turn τ) : t.Goes t := ⟨rfl, rfl, .refl _⟩

theorem Goes.trans (h : t.Goes t₁) (h' : t₁.Goes t₂) : t.Goes t₂ :=
  ⟨h'.dispatcher_eq.trans h.dispatcher_eq, h'.key_eq.trans h.key_eq, h.session.trans h'.session⟩

theorem goes_session {s : Session τ} (h : t.session.Tends s) : t.Goes { t with session := s } :=
  ⟨rfl, rfl, h⟩

theorem goes_report (t : Turn τ) {e : Event} (h : e.keptKey? = none) : t.Goes (t.report e) :=
  goes_session (.of_rests rfl (t.session.link.rests_report h))

/-- A turn comes to what the turn it went on to comes to. -/
theorem Comes.after (h : t.Goes t₁) (h' : t₁.Comes now s o) : t.Comes now s o := by
  cases h' with
  | waits hg hstage hholds => exact .waits (h.trans hg) hstage hholds
  | failed hg hleft => exact .failed (h.trans hg) hleft
  | crashed hg hleft => exact .crashed (h.trans hg) hleft
  | overflowed hg hleft => exact .overflowed (h.trans hg) hleft
  | answered hg hleft => exact .answered (h.trans hg) hleft
  | kept hg hkeeps hleft => exact .kept (h.trans hg) hkeeps hleft

theorem left_leave (t : Turn τ) : t.Left t.leave := by
  obtain ⟨hrests, hhandles⟩ :=
    t.dispatcher.pool.release_spec t.session.close t.session.writer.handle
  exact ⟨rfl, hhandles, t.session.rests_close.trans hrests⟩

end

/-! ## Handlers -/

variable {t : Turn τ} {now : Instant} {s : Service τ} {o : Outcome ε}

theorem goes_unrecorded (t : Turn τ) : t.Goes t.unrecorded :=
  goes_session (.of_rests rfl (.refl _))

theorem Files.comes {status : Http.Status} (h : Files now status t s o)
    (hrecords : t.session.Records .empty) : t.Comes now s o := by
  cases h with
  | passes => exact .answered (.refl t) t.left_leave
  | @declines key =>
    -- without its recorder the writer has the same handle and the same counts
    let t' : Turn τ := t.unrecorded.report (.responseNotCached key)
    show t.Comes now t'.leave (.returned (.ok (t'.served .ok .handler)))
    exact .answered (t.goes_unrecorded.trans (goes_report _ rfl)) t'.left_leave
  | overflows => exact .overflowed t.goes_unrecorded (left_leave _)
  | @keeps cache cache' key recording events link hcache hkey _ hrecording hstore hlink =>
    obtain ⟨hreceived, hcontains, -⟩ := hrecords.take hrecording
    -- the store happens between the report and the end of the turn
    let t₂ : Turn τ := { t.unrecorded with dispatcher.cache := some cache', session.link := link }
    have hkeeps : t.unrecorded.Keeps now t₂ key recording := by
      refine ⟨hkey, hreceived, hcontains, ⟨cache, cache', events, hcache, hstore, rfl⟩, rfl, ?_⟩
      show Link.Rests _ link
      rw [← hlink]
      exact Link.rests_reportAll _ (Cache.keptKey?_store? hstore)
    show t.Comes now t₂.leave (.returned (.ok (t.unrecorded.served .ok .handler)))
    exact .kept t.goes_unrecorded hkeeps t₂.left_leave

theorem Completes.comes (h : Completes now t s o) (hrecords : t.session.Records .empty) :
    t.Comes now s o := by
  cases h with
  | fails hflush => exact .failed (goes_session hflush.tends) (left_leave _)
  | files hflush hfiles =>
    exact (hfiles.comes (hflush.records hrecords)).after (goes_session hflush.tends)

/-- Where nothing was sent yet an empty answer is, or it is reported that it could not be. -/
theorem Fails.goes {cause : HandlerError} {t' : Turn τ} (h : Fails cause t t') : t.Goes t' := by
  have hfailed : t.Goes (t.failed cause) := t.goes_report rfl
  have hcleared := (t.failed cause).session.tends_edit .clear
  cases h with
  | late => exact hfailed
  | answers _ hheads => exact hfailed.trans (goes_session (hcleared.trans hheads.tends))
  | gaveUp _ hheads =>
    have hsession := goes_session (hcleared.trans hheads.tends)
    exact (hfailed.trans hsession).trans (goes_report _ rfl)

/-- A handler that awaits its writes is carried out until it ends or has to wait. -/
theorem Runs.comes {program : Program ε} (h : Runs now t program s o)
    (hpatient : program.Patient) (hrecords : t.session.Records .empty) : t.Comes now s o := by
  -- that the recorder has kept up carries it from node to node
  induction h with
  | completes hcompletes => exact hcompletes.comes hrecords
  | fails hfails => exact .failed hfails.goes (left_leave _)
  | crashes => exact .crashed (.refl _) (left_leave _)
  | edits _ ih =>
    exact (ih hpatient (hrecords.of_same rfl rfl rfl)).after
      (goes_session (Session.tends_edit _ _))
  | inspects _ ih => exact ih (hpatient _) hrecords
  | heads hheads _ ih =>
    -- a header section that is refused leaves the recorder as it was
    exact (ih (hpatient _) (hheads.records hrecords)).after (goes_session hheads.tends)
  | flushes hflush _ ih =>
    exact (ih (hpatient _) (hflush.records hrecords)).after (goes_session hflush.tends)
  | writes hwrites _ ih =>
    obtain ⟨rfl, hnext⟩ := hpatient
    exact (ih (hnext _) (hwrites.recorded hrecords)).after (goes_session hwrites.tends)
  | waits hwrites =>
    obtain ⟨rfl, hnext⟩ := hpatient
    exact .waits (goes_session hwrites.tends) rfl ⟨rfl, hwrites.recorded hrecords, hnext⟩
  | sticks hwrites => exact .waits (goes_session hwrites.tends) rfl trivial
  | sleeps => exact .waits (.refl _) rfl ⟨hrecords, hpatient⟩
  | asks => exact .waits (.refl _) rfl ⟨hrecords, hpatient⟩

/-! ## Recordings -/

theorem repeats_replayed {recording : Recording} {progress : Progress} (hgoes : t.Goes t₁)
    (hreplayed : t₁.session.Replayed recording progress)
    (h : t₁.replayed recording progress = (s, o)) : t.Repeats recording s o := by
  rcases progress with (e | n) | write | _
  · cases h
    exact .failed hgoes (left_leave _)
  · cases h
    exact .answered hgoes hreplayed (left_leave _)
  · cases h
    exact .waits hgoes hreplayed
  · cases h
    exact .stuck hgoes

/-- A turn that went on from a stage comes to what that stage can come to. -/
def Carries (now : Instant) (t : Turn τ) : Stage ε → Service τ → Outcome ε → Prop
  | .replaying recording _, s, o => t.Repeats recording s o
  | _, s, o => t.Comes now s o

end Turn

namespace Dispatch

variable {now : Instant} {s s' : Service τ} {d : Dispatch ε} {o : Outcome ε}

/-- A dispatch that is left waiting. -/
theorem carries_wait (hholds : d.stage.Holds ⟨d.writer, s.link⟩) :
    (d.turn s).Carries now d.stage s (.inFlight d) := by
  obtain ⟨writer, key, stage⟩ := d
  cases stage with
  | replaying recording write => exact .waits (.refl _) hholds
  | _ => exact .waits (.refl _) rfl hholds

end Dispatch

namespace Service

variable {now : Instant} {s s' : Service τ} {d : Dispatch ε} {o : Outcome ε}

theorem carries_resume (hholds : d.stage.Holds ⟨d.writer, s.link⟩)
    (h : s.resume now d = (s', o)) : (d.turn s).Carries now d.stage s' o := by
  cases resumes_resume h with
  | rests => exact Dispatch.carries_wait hholds
  | replays hstage hresumes hreplayed =>
    rw [hstage] at hholds ⊢
    exact Turn.repeats_replayed (Turn.goes_session hresumes.tends) (hresumes.replayed hholds)
      hreplayed
  | writes hstage hresumes hruns =>
    rw [hstage] at hholds ⊢
    obtain ⟨rfl, hrecorded, hnext⟩ := hholds
    have hcomes := hruns.comes (hnext _) (hresumes.recorded hrecorded)
    exact hcomes.after (Turn.goes_session hresumes.tends)
  | drops hstage hover =>
    -- a patient handler is never done with a write before the write is
    rw [hstage] at hholds
    obtain ⟨rfl, -⟩ := hholds
    cases hover
  | waits hstage hresumes =>
    rw [hstage] at hholds ⊢
    obtain ⟨rfl, hrecorded, hnext⟩ := hholds
    exact .waits (Turn.goes_session hresumes.tends) rfl ⟨rfl, hresumes.recorded hrecorded, hnext⟩
  | sticks hstage hresumes =>
    rw [hstage]
    exact .waits (Turn.goes_session hresumes.tends) rfl trivial
  | wakes hstage hruns =>
    rw [hstage] at hholds ⊢
    exact hruns.comes hholds.2 hholds.1

theorem carries_answer {n : Nat} (hholds : d.stage.Holds ⟨d.writer, s.link⟩)
    (h : s.answer now d n = (s', o)) : (d.turn s).Carries now d.stage s' o := by
  cases answers_answer h with
  | rests => exact Dispatch.carries_wait hholds
  | tells hstage hruns =>
    rw [hstage] at hholds ⊢
    exact hruns.comes (hholds.2 n) hholds.1

/-- A turn begins: its handle was checked out, and the cache was looked into at most. -/
structure Opens (s : Service τ) (t : Turn τ) : Prop where
  dispatcher_eq : t.dispatcher =
    { s.dispatcher with pool := t.dispatcher.pool, cache := t.dispatcher.cache }
  cache : ∀ c', t.dispatcher.cache = some c' → ∃ c, s.dispatcher.cache = some c ∧ c.Covers c'
  pool : ∃ link, s.dispatcher.pool.Checks s.link t.dispatcher.pool link
    (.ok t.session.writer.handle) ∧ link.Rests t.session.link

/-- A turn that begins with a look into the cache. -/
theorem opens_get {pool : Pool} {link : Link τ} {t : Turn τ} {cache cache' : Cache} {key : String}
    {events : List Event} {found : Option Recording}
    (hchecks : s.dispatcher.pool.Checks s.link pool link (.ok t.session.writer.handle))
    (hcache : s.dispatcher.cache = some cache) (hget : cache.get now key = (cache', events, found))
    (hdispatcher : t.dispatcher = { s.dispatcher with pool, cache := some cache' })
    (hlink : t.session.link = link.reportAll events) : s.Opens t := by
  have hcovers := cache.covers_get now key
  have hevents := cache.keptKey?_get now key
  rw [hget] at hcovers hevents
  refine ⟨by rw [hdispatcher], fun c hc => ?_, link, by rwa [hdispatcher], ?_⟩
  · rw [hdispatcher] at hc
    cases hc
    exact ⟨cache, hcache, hcovers⟩
  · rw [hlink]
    exact link.rests_reportAll hevents

/-- What a start can do. An answer from the cache is the same whatever the handler. -/
inductive Starts (now : Instant) (request : Request) (s : Service τ) :
    Service τ → Outcome ε → Prop where
  | refused {link e} : s.link.Rests link →
      Starts now request s ⟨s.dispatcher, link⟩ (.returned (.error (.handle e)))
  | hit {t : Turn τ} {s' o cache key recording} : s.Opens t → s.dispatcher.cache = some cache →
      request.cacheKey? = some key → (cache.get now key).2.2 = some recording →
      t.key = some key → t.Repeats recording s' o →
      (∀ program, s.start now request program = (s', o)) → Starts now request s s' o
  | called {t : Turn τ} {s' o} : s.Opens t →
      (∀ key, t.key = some key → request.cacheKey? = some key) → t.Comes now s' o →
      Starts now request s s' o

theorem starts_start {request : Request} {program : Program ε} (hpatient : program.Patient)
    (htyped : ∀ cache key recording, s.dispatcher.cache = some cache →
      (cache.get now key).2.2 = some recording →
      recording.fields.contains .contentType = true)
    (h : s.start now request program = (s', o)) : s.Starts now request s' o := by
  have hchecks := s.dispatcher.pool.checks_checkout s.link
  cases enters_start h with
  | refused hcheckout =>
    rw [hcheckout] at hchecks
    cases hchecks with
    | refused hrests => exact .refused hrests
  | @calls pool link handle _ _ hcheckout _ hruns =>
    rw [hcheckout] at hchecks
    have hopens : s.Opens (s.entered pool link handle) :=
      ⟨rfl, fun c hc => ⟨c, hc, .refl c⟩, link, hchecks, .refl link⟩
    have hrecords : (s.entered pool link handle).session.Records .empty := by
      refine .of_unsent rfl fun limit fields body hactive => ?_
      cases hactive
    refine .called hopens (fun k hk => ?_) (hruns.comes hpatient hrecords)
    cases hk
  | @misses pool link handle cache cache' key events _ _ hcheckout hcache hkey hget hruns =>
    rw [hcheckout] at hchecks
    have hopens : s.Opens { s.looked pool link handle key cache' events with
        session := (s.looked pool link handle key cache' events).session.record
          s.dispatcher.settings.cache.maxBodyBytes } := opens_get hchecks hcache hget rfl rfl
    refine .called hopens (fun k hk => ?_) (hruns.comes hpatient ?_)
    · cases hk
      exact hkey
    · refine .of_unsent rfl fun limit fields body hactive => ?_
      cases hactive
      exact ⟨rfl, rfl⟩
  | @hits pool link handle cache cache' key events recording t _ _ _ _ hcheckout hcache hkey hget
      ht hreplays hreplayed hany =>
    rw [hcheckout] at hchecks
    have hopens : s.Opens (s.looked pool link handle key cache' events) :=
      opens_get hchecks hcache hget rfl rfl
    have hfound : (cache.get now key).2.2 = some recording := by rw [hget]
    have hcontains := htyped cache key recording hcache hfound
    subst ht
    refine .hit hopens hcache hkey hfound rfl (Turn.repeats_replayed ?_ ?_ hreplayed) hany
    · exact (Turn.goes_report _ rfl).trans (Turn.goes_session hreplays.tends)
    · exact hreplays.replayed rfl rfl hcontains

end Service

end Sluice
