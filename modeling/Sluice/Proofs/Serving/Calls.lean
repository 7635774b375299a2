import Sluice.Dispatch.Basic
import Sluice.Proofs.Writing.Calls

/-!
# What a turn of a dispatch does

One relation for each function that carries a dispatch on, with a case for each way it can go. A
handler is carried out node by node, by calls of the writer, until it is through, fails or has to
wait; a dispatch that waits goes on with what it waits for, or keeps waiting.
-/
namespace Sluice

variable {τ ε : Type} [Transport τ]

namespace Turn

/-! ## Handlers -/

/-- The turn without its recorder. -/
def unrecorded (t : Turn τ) : Turn τ := { t with session := t.session.takeRecording.1 }

/-- What `keep` can do. The answer is passed on all the same, unless the cache crashes. -/
inductive Files (now : Instant) (status : Http.Status) (t : Turn τ) :
    Service τ → Outcome ε → Prop where
  | passes : Files now status t t.leave (.returned (.ok (t.served status .handler)))
  | declines {key} : t.key = some key → status = .ok → t.session.takeRecording.2 = none →
      Files now status t (t.unrecorded.report (.responseNotCached key)).leave
        (.returned (.ok (t.served .ok .handler)))
  | overflows {cache key recording} : t.dispatcher.cache = some cache → t.key = some key →
      status = .ok → t.session.takeRecording.2 = some recording →
      cache.store? now key recording = none →
      Files now status t (t.unrecorded.report (.responseCached key recording.body.size)).leave
        (.crashed Cache.overflow)
  | keeps {cache cache' key recording events link} : t.dispatcher.cache = some cache →
      t.key = some key → status = .ok → t.session.takeRecording.2 = some recording →
      cache.store? now key recording = some (cache', events) →
      (t.session.link.report (.responseCached key recording.body.size)).reportAll events = link →
      Files now status t
        ({ t.unrecorded with dispatcher.cache := some cache', session.link := link } : Turn τ).leave
        (.returned (.ok (t.served .ok .handler)))

/-- What `complete` can do. -/
inductive Completes (now : Instant) (t : Turn τ) : Service τ → Outcome ε → Prop where
  | fails {session e} : t.session.Flushes session (.error e) →
      Completes now t ({ t with session } : Turn τ).leave (.returned (.error (.write e)))
  | files {session s o} : t.session.Flushes session (.ok ()) →
      Files now (session.writer.sent.getD .ok) { t with session } s o → Completes now t s o

/-- The turn once it is reported that the handler failed. -/
def failed (t : Turn τ) (cause : HandlerError) : Turn τ :=
  t.report (.handlerFailed t.session.writer.handle cause)

/-- What `fail` can do before the turn is over. -/
inductive Fails (cause : HandlerError) (t : Turn τ) : Turn τ → Prop where
  | late {status} : t.session.writer.sent = some status → Fails cause t (t.failed cause)
  | answers {session} : t.session.writer.sent = none →
      ((t.failed cause).session.edit .clear).Heads .internalServerError session (.ok ()) →
      Fails cause t { t.failed cause with session }
  | gaveUp {session e} : t.session.writer.sent = none →
      ((t.failed cause).session.edit .clear).Heads .internalServerError session (.error e) →
      Fails cause t (({ t.failed cause with session } : Turn τ).report
        (.errorResponseFailed t.session.writer.handle e))

/-- What `run` can do. -/
inductive Runs (now : Instant) : Turn τ → Program ε → Service τ → Outcome ε → Prop where
  | completes {t s o} : Completes now t s o → Runs now t .finish s o
  | fails {t t' cause} : Fails cause t t' →
      Runs now t (.fail cause) t'.leave (.returned (.error (.handler cause)))
  | crashes {t message} : Runs now t (.crash message) t.leave (.crashed message)
  | edits {t change next s o} :
      Runs now { t with session := t.session.edit change } next s o →
      Runs now t (.edit change next) s o
  | inspects {t next s o} : Runs now t (next t.session.writer.view) s o →
      Runs now t (.inspect next) s o
  | heads {t status next session result s o} : t.session.Heads status session result →
      Runs now { t with session } (next result) s o → Runs now t (.writeHeader status next) s o
  | flushes {t next session result s o} : t.session.Flushes session result →
      Runs now { t with session } (next result) s o → Runs now t (.flush next) s o
  | writes {t body patience next session result s o} :
      t.session.Writes now body session (.finished result) →
      Runs now { t with session } (next (.finished result)) s o →
      Runs now t (.write body patience next) s o
  | waits {t body patience next session write} :
      t.session.Writes now body session (.suspended write) →
      Runs now t (.write body patience next) ⟨t.dispatcher, session.link⟩
        (.inFlight ⟨session.writer, t.key, .writing write (patience.map now.timer) next⟩)
  | sticks {t body patience next session} : t.session.Writes now body session .endless →
      Runs now t (.write body patience next) ⟨t.dispatcher, session.link⟩
        (.inFlight ⟨session.writer, t.key, .endless⟩)
  | sleeps {t length next} : Runs now t (.sleep length next) ⟨t.dispatcher, t.session.link⟩
      (.inFlight ⟨t.session.writer, t.key, .sleeping (now.timer length) next⟩)
  | asks {t question next} : Runs now t (.ask question next) ⟨t.dispatcher, t.session.link⟩
      (.inFlight ⟨t.session.writer, t.key, .asking question next⟩)

variable {t : Turn τ} {now : Instant} {s : Service τ} {o : Outcome ε}

theorem files_keep {status : Http.Status} (h : t.keep now status = (s, o)) :
    Files now status t s o := by
  unfold keep at h
  dsimp only at h
  split at h
  · rename_i cache key hcache hkey
    split at h
    · rename_i hstatus
      subst hstatus
      split at h
      · rename_i session htake
        obtain rfl : t.session.takeRecording.1 = session := congrArg Prod.fst htake
        cases h
        exact .declines hkey rfl (congrArg Prod.snd htake)
      · rename_i session recording htake
        obtain rfl : t.session.takeRecording.1 = session := congrArg Prod.fst htake
        have hrecording := congrArg Prod.snd htake
        split at h <;> cases h
        · rename_i hstore
          exact .overflows hcache hkey rfl hrecording hstore
        · rename_i cache' events hstore
          exact .keeps hcache hkey rfl hrecording hstore rfl
    · cases h
      exact .passes
  · cases h
    exact .passes

/-- Without a key there is nothing to keep. -/
theorem Files.eq_of_key_eq_none {status : Http.Status} (h : Files now status t s o)
    (hkey : t.key = none) :
    s = t.leave ∧ o = .returned (.ok (t.served status .handler)) := by
  cases h with
  | passes => exact ⟨rfl, rfl⟩
  | declines hsome => cases hkey.symm.trans hsome
  | overflows _ hsome => cases hkey.symm.trans hsome
  | keeps _ hsome => cases hkey.symm.trans hsome

theorem completes_complete (h : t.complete now = (s, o)) : Completes now t s o := by
  have hflush := t.session.flushes_flush
  unfold complete at h
  revert h hflush
  rcases t.session.flush with ⟨session, e | ⟨⟨⟩⟩⟩ <;> intro h hflush
  · cases h
    exact .fails hflush
  · exact .files hflush (files_keep h)

theorem fails_fail {cause : HandlerError} (h : t.fail cause = (s, o)) :
    ∃ t', Fails cause t t' ∧ t'.leave = s ∧ .returned (.error (.handler cause)) = o := by
  have hfailed : t.report (.handlerFailed t.session.writer.handle cause) = t.failed cause := rfl
  have hsame : (t.failed cause).session.writer.sent = t.session.writer.sent := rfl
  have hheads := ((t.failed cause).session.edit .clear).heads_writeHeader .internalServerError
  simp only [fail, hfailed, hsame, finish] at h
  cases hsent : t.session.writer.sent with
  | some status =>
    rw [hsent] at h
    cases h
    exact ⟨_, .late hsent, rfl, rfl⟩
  | none =>
    rw [hsent] at h
    revert h hheads
    rcases ((t.failed cause).session.edit .clear).writeHeader .internalServerError with
      ⟨session, e | ⟨⟨⟩⟩⟩ <;> intro hheads h <;> cases h
    · exact ⟨_, .gaveUp hsent hheads, rfl, rfl⟩
    · exact ⟨_, .answers hsent hheads, rfl, rfl⟩

theorem runs_run {program : Program ε} (h : t.run now program = (s, o)) :
    Runs now t program s o := by
  induction program generalizing t with
  | finish => exact .completes (completes_complete h)
  | fail cause =>
    obtain ⟨t', hfails, rfl, rfl⟩ := fails_fail h
    exact .fails hfails
  | crash message =>
    cases h
    exact .crashes
  | edit change next ih => exact .edits (ih h)
  | inspect next ih => exact .inspects (ih _ h)
  | writeHeader status next ih => exact .heads (t.session.heads_writeHeader status) (ih _ h)
  | flush next ih => exact .flushes t.session.flushes_flush (ih _ h)
  | write body patience next ih =>
    have hwrites := t.session.writes_write now body
    revert h hwrites
    simp only [run]
    rcases t.session.write now body with ⟨session, result | write | _⟩ <;> intro h hwrites
    · exact .writes hwrites (ih _ h)
    · cases h
      exact .waits hwrites
    · cases h
      exact .sticks hwrites
  | sleep length next ih =>
    cases h
    exact .sleeps
  | ask question next ih =>
    cases h
    exact .asks

end Turn

namespace Service

/-! ## Dispatches that wait -/

/-- What `resume` can do. -/
inductive Resumes (now : Instant) (d : Dispatch ε) (s : Service τ) :
    Service τ → Outcome ε → Prop where
  | rests : Resumes now d s s (.inFlight d)
  | replays {recording write session progress s' o} : d.stage = .replaying recording write →
      (d.turn s).session.Resumes now write session progress →
      ({ d.turn s with session } : Turn τ).replayed recording progress = (s', o) →
      Resumes now d s s' o
  | writes {write patience next session result s' o} : d.stage = .writing write patience next →
      (d.turn s).session.Resumes now write session (.finished result) →
      Turn.Runs now { d.turn s with session } (next (.finished result)) s' o →
      Resumes now d s s' o
  | drops {write patience next session write' s' o} : d.stage = .writing write patience next →
      Dispatch.isOver patience now = true →
      (d.turn s).session.Resumes now write session (.suspended write') →
      Turn.Runs now { d.turn s with session } (next .dropped) s' o → Resumes now d s s' o
  | waits {write patience next session write'} : d.stage = .writing write patience next →
      (d.turn s).session.Resumes now write session (.suspended write') →
      Resumes now d s ⟨s.dispatcher, session.link⟩
        (.inFlight ⟨session.writer, d.key, .writing write' patience next⟩)
  | sticks {write patience next session} : d.stage = .writing write patience next →
      (d.turn s).session.Resumes now write session .endless →
      Resumes now d s ⟨s.dispatcher, session.link⟩ (.inFlight ⟨session.writer, d.key, .endless⟩)
  | wakes {wake next s' o} : d.stage = .sleeping wake next →
      Turn.Runs now (d.turn s) next s' o → Resumes now d s s' o

variable {s s' : Service τ} {d : Dispatch ε} {o : Outcome ε} {now : Instant}

theorem resumes_resume (h : s.resume now d = (s', o)) : s.Resumes now d s' o := by
  unfold resume at h
  dsimp only at h
  split at h
  · split at h <;> rename_i hstage
    · exact .replays hstage ((d.turn s).session.resumes_resume now _) h
    · rename_i write patience next
      have hresumes := (d.turn s).session.resumes_resume now write
      revert h hresumes
      rcases (d.turn s).session.resume now write with ⟨session, result | write' | _⟩ <;>
        intro h hresumes
      · exact .writes hstage hresumes (Turn.runs_run h)
      · dsimp only at h
        split at h
        · rename_i hover
          exact .drops hstage hover hresumes (Turn.runs_run h)
        · cases h
          exact .waits hstage hresumes
      · cases h
        exact .sticks hstage hresumes
    · exact .wakes hstage (Turn.runs_run h)
    · cases h
      rw [← hstage]
      exact .rests
    · cases h
      rw [← hstage]
      exact .rests
  · cases h
    exact .rests

/-- What `answer` can do. -/
inductive Answers (now : Instant) (d : Dispatch ε) (n : Nat) (s : Service τ) :
    Service τ → Outcome ε → Prop where
  | rests : Answers now d n s s (.inFlight d)
  | tells {question next s' o} : d.stage = .asking question next →
      Turn.Runs now (d.turn s) (next n) s' o → Answers now d n s s' o

theorem answers_answer {n : Nat} (h : s.answer now d n = (s', o)) : s.Answers now d n s' o := by
  unfold answer at h
  split at h
  · rename_i hstage
    exact .tells hstage (Turn.runs_run h)
  · cases h
    exact .rests

/-! ## Requests -/

/-- The turn of a request that has a handle. -/
def entered (s : Service τ) (pool : Pool) (link : Link τ) (handle : HandleId) : Turn τ where
  dispatcher := { s.dispatcher with pool }
  session.writer :=
    { handle, board := s.dispatcher.board, settings := s.dispatcher.settings.writer }
  session.link := link
  key := none

/-- The same once it was looked for in the cache. -/
def looked (s : Service τ) (pool : Pool) (link : Link τ) (handle : HandleId) (key : String)
    (cache : Cache) (events : List Event) : Turn τ where
  dispatcher := { s.dispatcher with pool, cache := some cache }
  session.writer :=
    { handle, board := s.dispatcher.board, settings := s.dispatcher.settings.writer }
  session.link := link.reportAll events
  key := some key

/-- What `start` can do. An answer from the cache is the same whatever the handler. -/
inductive Enters (now : Instant) (request : Request) (program : Program ε) (s : Service τ) :
    Service τ → Outcome ε → Prop where
  | refused {pool link e} : s.dispatcher.pool.checkout s.link = (pool, link, .error e) →
      Enters now request program s ⟨{ s.dispatcher with pool }, link⟩
        (.returned (.error (.handle e)))
  | calls {pool link handle s' o} : s.dispatcher.pool.checkout s.link = (pool, link, .ok handle) →
      (∀ cache key, s.dispatcher.cache = some cache → request.cacheKey? ≠ some key) →
      Turn.Runs now (s.entered pool link handle) program s' o → Enters now request program s s' o
  | misses {pool link handle cache cache' key events s' o} :
      s.dispatcher.pool.checkout s.link = (pool, link, .ok handle) →
      s.dispatcher.cache = some cache → request.cacheKey? = some key →
      cache.get now key = (cache', events, none) →
      Turn.Runs now { s.looked pool link handle key cache' events with
          session := (s.looked pool link handle key cache' events).session.record
            s.dispatcher.settings.cache.maxBodyBytes } program s' o →
      Enters now request program s s' o
  | hits {pool link handle cache cache' key events recording t session progress s' o} :
      s.dispatcher.pool.checkout s.link = (pool, link, .ok handle) →
      s.dispatcher.cache = some cache → request.cacheKey? = some key →
      cache.get now key = (cache', events, some recording) →
      (s.looked pool link handle key cache' events).report (.servedFromCache key handle) = t →
      t.session.Replays now recording session progress →
      ({ t with session } : Turn τ).replayed recording progress = (s', o) →
      (∀ program, s.start now request program = (s', o)) → Enters now request program s s' o

theorem enters_start {request : Request} {program : Program ε}
    (h : s.start now request program = (s', o)) : s.Enters now request program s' o := by
  rcases hcheckout : s.dispatcher.pool.checkout s.link with ⟨pool, link, e | handle⟩
  · simp only [start, hcheckout] at h
    cases h
    exact .refused hcheckout
  · simp only [start, hcheckout] at h
    split at h
    · rename_i cache key hcache hkey
      rcases hget : cache.get now key with ⟨cache', events, _ | recording⟩ <;>
        simp only [hget] at h
      · exact .misses hcheckout hcache hkey hget (Turn.runs_run h)
      · refine .hits hcheckout hcache hkey hget rfl (Session.replays_replay ..) h fun program' => ?_
        -- nothing on this path asks what the program is
        simp only [start, hcheckout, hcache, hkey, hget]
        exact h
    · rename_i hno
      exact .calls hcheckout hno (Turn.runs_run h)

end Service

end Sluice
