import Sluice.Proofs.Caching.Stored
import Sluice.Proofs.Sending.Exits
import Sluice.Proofs.Sending.TracedDispatch
import Sluice.Proofs.Serving.Turns

/-!
# A handler that fails

It may fail at any point, whatever it made of its writer before. The dispatch returns its error.
Where a header section had gone out the response is left alone; where none had, the empty answer
with status 500 goes out, and of what the handler prepared nothing goes with it. Nothing is
stored either way.
-/
namespace Sluice

/-- The header section of the empty answer, as an attempt. -/
def HeaderTry.apology : HeaderTry := ⟨.internalServerError, .empty⟩

/-- The empty answer, as a transport holds it. -/
def Received.apology : Received where
  status := some .internalServerError
  fields := [("content-type".toUTF8, "text/html; charset=utf-8".toUTF8)]
  headersSent := true
  body := .empty

theorem Received.ofHeader_apology :
    Received.ofHeader .internalServerError Fields.empty.withContentType = .apology :=
  rfl

/-! ## Where the handler fails -/

namespace Turn

variable {τ ε : Type} [Transport τ]

/-- The turn as it is when the handler fails, and with what, if it does so before it has to wait. -/
def failing (now : Instant) (t : Turn τ) : Program ε → Option (Turn τ × HandlerError)
  | .fail cause => some (t, cause)
  | .finish | .crash _ | .sleep .. | .ask .. => none
  | .edit change next => failing now { t with session := t.session.edit change } next
  | .inspect next => failing now t (next t.session.writer.view)
  | .writeHeader status next =>
    let (session, result) := t.session.writeHeader status
    failing now { t with session } (next result)
  | .flush next =>
    let (session, result) := t.session.flush
    failing now { t with session } (next result)
  | .write body _ next =>
    match t.session.write now body with
    | (session, .finished result) => failing now { t with session } (next (.finished result))
    | _ => none

variable {now : Instant} {t t' : Turn τ} {program : Program ε} {cause : HandlerError}

/-- The rest of the turn is what `fail` does from there. -/
theorem run_of_failing (h : t.failing now program = some (t', cause)) :
    t.run now program = t'.fail cause := by
  induction program generalizing t with
  | fail => cases h; rfl
  | edit change next ih => exact ih h
  | inspect next ih => exact ih _ h
  | writeHeader status next ih => exact ih _ h
  | flush next ih => exact ih _ h
  | write body patience next ih =>
    simp only [failing, run] at h ⊢
    split at h
    · rename_i session result hwrite
      rw [hwrite]
      exact ih _ h
    · cases h
  | _ => cases h

end Turn

namespace Service

variable {τ ε : Type} [Transport τ]

/-- The turn in which the handler of a request is called, if it is. -/
def startWork (s : Service τ) (now : Instant) (request : Request) : Option (Turn τ) :=
  match s.dispatcher.pool.checkout s.link with
  | (_, _, .error _) => none
  | (pool, link, .ok handle) =>
    match s.dispatcher.cache, request.cacheKey? with
    | some cache, some key =>
      match cache.get now key with
      | (_, _, some _) => none
      | (cache, events, none) =>
        let t := s.looked pool link handle key cache events
        some { t with session := t.session.record s.dispatcher.settings.cache.maxBodyBytes }
    | _, _ => some (s.entered pool link handle)

/-- The turn in which a dispatch carries its handler on, and with what, if it does. -/
def resumeWork (s : Service τ) (now : Instant) (d : Dispatch ε) : Option (Turn τ × Program ε) :=
  if d.isReady s now then
    match d.stage with
    | .writing write patience next =>
      match (d.turn s).session.resume now write with
      | (session, .finished result) => some ({ d.turn s with session }, next (.finished result))
      | (session, .suspended _) =>
        if Dispatch.isOver patience now then some ({ d.turn s with session }, next .dropped)
        else none
      | (_, .endless) => none
    | .sleeping _ next => some (d.turn s, next)
    | _ => none
  else none

omit [Transport τ] in
/-- The same when the handler has the answer that it asked for. -/
def answerWork (s : Service τ) (d : Dispatch ε) (n : Nat) : Option (Turn τ × Program ε) :=
  match d.stage with
  | .asking _ next => some (d.turn s, next n)
  | _ => none

variable {s : Service τ} {now : Instant} {request : Request} {d : Dispatch ε} {t : Turn τ}
  {program : Program ε}

theorem start_of_work (h : s.startWork now request = some t) (program : Program ε) :
    s.start now request program = t.run now program := by
  rcases hcheckout : s.dispatcher.pool.checkout s.link with ⟨pool, link, e | handle⟩
  · simp only [startWork, hcheckout] at h
    cases h
  · simp only [startWork, hcheckout] at h
    split at h
    · rename_i cache key hcache hkey
      rcases hget : cache.get now key with ⟨cache', events, _ | recording⟩ <;> rw [hget] at h
      · cases h
        simp only [start, hcheckout, hcache, hkey, hget]
        rfl
      · cases h
    · rename_i hno
      cases h
      simp only [start, hcheckout]
      rfl

theorem resume_of_work (h : s.resumeWork now d = some (t, program)) :
    s.resume now d = t.run now program := by
  unfold resumeWork at h
  unfold resume
  split at h
  · rename_i hready
    rw [if_pos hready]
    split at h
    · rename_i write patience next hstage
      simp only [hstage]
      revert h
      rcases (d.turn s).session.resume now write with ⟨session, result | write' | _⟩ <;> intro h
      · cases h
        rfl
      · dsimp only at h
        split at h
        · rename_i hover
          cases h
          exact if_pos hover
        · cases h
      · cases h
    · rename_i wake next hstage
      cases h
      simp only [hstage]
    · cases h
  · cases h

theorem answer_of_work {n : Nat} (h : s.answerWork d n = some (t, program)) :
    s.answer now d n = t.run now program := by
  unfold answerWork at h
  split at h
  · rename_i question next hstage
    cases h
    simp only [answer, hstage]
  · cases h

end Service

namespace Visit

variable {τ ε : Type} [Transport τ]

/-- The turn in which this move carries the handler on, and with what, if it does. -/
def work (v : Visit τ ε) (now : Instant) (o : Own) : Option (Turn τ × Program ε) :=
  match o, v.phase with
  | .start, .due => (v.service.startWork now v.request).map fun t => (t, v.program)
  | .resume, .inFlight d => v.service.resumeWork now d
  | .answer n, .inFlight d => v.service.answerWork d n
  | _, _ => none

/-- The handler fails in this move: the turn as it is then, and the error. -/
def failing (v : Visit τ ε) (now : Instant) (o : Own) : Option (Turn τ × HandlerError) :=
  (v.work now o).bind fun (t, program) => t.failing now program

variable {v : Visit τ ε} {now : Instant} {o : Own} {t : Turn τ} {program : Program ε}
  {cause : HandlerError}

/-- The handler is carried on, and the dispatch is where that leads. -/
theorem own_of_work (h : v.work now o = some (t, program)) :
    (v.own now o).service = (t.run now program).1 ∧
      (v.own now o).phase = .of (t.run now program).2 := by
  unfold work at h
  split at h
  · rename_i hphase
    obtain ⟨t', hwork, heq⟩ := Option.map_eq_some_iff.1 h
    cases heq
    rw [← Service.start_of_work hwork]
    simp only [own, hphase]
    exact ⟨rfl, rfl⟩
  · rename_i d hphase
    rw [← Service.resume_of_work h]
    simp only [own, hphase]
    exact ⟨rfl, rfl⟩
  · rename_i n d hphase
    rw [← Service.answer_of_work h]
    simp only [own, hphase]
    exact ⟨rfl, rfl⟩
  · cases h

/-- Whatever came before, the error is what the dispatch returns. -/
theorem own_of_failing (h : v.failing now o = some (t, cause)) :
    ∃ t', t.Fails cause t' ∧ (v.own now o).service = t'.leave ∧
      (v.own now o).phase = .returned (.error (.handler cause)) := by
  obtain ⟨⟨t₁, program⟩, hwork, hfailing⟩ := Option.bind_eq_some_iff.1 h
  obtain ⟨hservice, hphase⟩ := own_of_work hwork
  rw [Turn.run_of_failing hfailing] at hservice hphase
  obtain ⟨t', hfails, hleave, hreturned⟩ :=
    Turn.fails_fail (Eq.refl (t.fail cause : Service τ × Outcome ε))
  exact ⟨t', hfails, hservice.trans hleave.symm, hphase.trans (congrArg Phase.of hreturned.symm)⟩

end Visit

/-! ## What the transport is asked then -/

namespace Turn

open Transport.Faithful

variable {τ : Type} [Transport τ] {t t' : Turn (Tapped τ)} {cause : HandlerError}

/-- What becomes of the response after this turn, in which the handler failed: first come the calls
that answer for it, then those that release its handle. -/
structure Apologizes (t : Turn (Tapped τ)) (transport : Tapped τ)
    (answer release : List TransportCall) : Prop where
  calls_eq : transport.calls = t.session.link.transport.calls ++ (answer ++ release)
  /-- A response that had begun is left alone. -/
  late : t.session.writer.sent ≠ none → answer = [] ∧
    ∀ [Transport.Orderly τ], received transport.inner t.session.writer.handle =
      received t.session.link.transport.inner t.session.writer.handle
  /-- The empty answer goes out up to the first call that is refused. -/
  carries : t.session.writer.sent = none →
    ∃ outcome, TransportCall.Carries t.session.writer.handle HeaderTry.apology.steps outcome answer
  /-- With no call refused it is all that the transport holds. -/
  accepted : t.session.writer.sent = none → (∀ c ∈ answer, c.isAccepted = true) →
    answer = HeaderTry.apology.sentCalls t.session.writer.handle ∧
      ∀ [Transport.Orderly τ], received transport.inner t.session.writer.handle = .apology

/-- No field is left when the empty answer is sent, so that it fits. -/
theorem carries_apology {s s' : Session (Tapped τ)} {result : Except WriteError Unit}
    (h : s.Heads .internalServerError s' result) (hsent : s.writer.sent = none)
    (hempty : s.writer.fields = .empty) :
    ∃ outcome calls, s'.link.transport.calls = s.link.transport.calls ++ calls ∧
      TransportCall.Carries s.writer.handle HeaderTry.apology.steps outcome calls ∧
      (outcome = .ok () → result = .ok ()) := by
  have happology : (⟨.internalServerError, s.writer.fields⟩ : HeaderTry) = .apology := by
    rw [hempty]
    rfl
  rw [← happology]
  cases h with
  | repeated hearlier =>
    rw [hsent] at hearlier
    cases hearlier
  | unfit _ hmeasure =>
    have hfits : (⟨.internalServerError, s.writer.fields⟩ : HeaderTry).Fits :=
      hempty ▸ fits_cleared _
    exact absurd hfits (HeaderTry.not_fits hmeasure)
  | refused _ hmeasure hsend =>
    obtain ⟨calls, hcalls, hcarries⟩ := Session.hears_sendSection hmeasure hsend
    exact ⟨_, calls, hcalls, hcarries, nofun⟩
  | sent _ hmeasure hsend =>
    obtain ⟨calls, hcalls, hcarries⟩ := Session.hears_sendSection hmeasure hsend
    exact ⟨_, calls, hcalls, hcarries, fun _ => rfl⟩

/-- The empty answer was sent, or refused on the way. -/
theorem apologizes_of_heads {s' : Session (Tapped τ)} {result : Except WriteError Unit}
    (hsent : t.session.writer.sent = none)
    (h : ((t.failed cause).session.edit .clear).Heads .internalServerError s' result) :
    s'.writer.handle = t.session.writer.handle ∧
      ∃ answer, t.Apologizes s'.link.transport answer [] := by
  obtain ⟨outcome, answer, hcalls, hcarries, hok⟩ := carries_apology h hsent rfl
  obtain ⟨_, hspeaks, -⟩ := h.speaks
  have hhandle : s'.writer.handle = t.session.writer.handle := hspeaks.handle_eq
  refine ⟨hhandle, answer, by rw [List.append_nil]; exact hcalls,
    fun hout => absurd hsent hout, fun _ => ⟨outcome, hcarries⟩, fun _ haccepted => ?_⟩
  cases outcome with
  | error e =>
    obtain ⟨c, hc, hrefused⟩ := hcarries.not_isAccepted
    rw [haccepted c hc] at hrefused
    cases hrefused
  | ok =>
    obtain rfl := hok rfl
    refine ⟨hcarries.eq_of_ok, ?_⟩
    intro _
    have hreceived := (h.received_eq hsent).trans Received.ofHeader_apology
    rwa [Session.received, hhandle] at hreceived

/-- The release makes no difference to the response. -/
theorem Apologizes.leave {answer : List TransportCall}
    (h : t.Apologizes t'.session.link.transport answer [])
    (hhandle : t'.session.writer.handle = t.session.writer.handle) :
    ∃ release, (release = [] ∨ release = [.finalize t.session.writer.handle .ok]) ∧
      t.Apologizes t'.leave.link.transport answer release := by
  obtain ⟨release, hreleased, hstows⟩ := t'.stows_leave
  have hleft [Transport.Orderly τ] (g : HandleId) :
      received t'.leave.link.transport.inner g = received t'.session.link.transport.inner g :=
    t'.left_leave.link.received_eq g
  refine ⟨release, hhandle ▸ hstows.calls_eq, ?_, fun hout => ⟨(h.late hout).1, ?_⟩, h.carries,
    fun hno haccepted => ⟨(h.accepted hno haccepted).1, ?_⟩⟩
  · rw [hreleased, h.calls_eq, List.append_nil, List.append_assoc]
  · intro _
    rw [hleft]
    exact (h.late hout).2
  · intro _
    rw [hleft]
    exact (h.accepted hno haccepted).2

/-- The turn of a handler that failed, up to its end. -/
theorem Fails.apologizes (h : t.Fails cause t') :
    ∃ answer release, (release = [] ∨ release = [.finalize t.session.writer.handle .ok]) ∧
      t.Apologizes t'.leave.link.transport answer release := by
  cases h with
  | late hsent =>
    have hout : t.session.writer.sent ≠ none := by
      rw [hsent]
      exact Option.some_ne_none _
    have hsilent : t.Apologizes (t.failed cause).session.link.transport [] [] :=
      ⟨(List.append_nil _).symm, fun _ => ⟨rfl, rfl⟩, fun hno => absurd hno hout,
        fun hno => absurd hno hout⟩
    exact ⟨[], hsilent.leave rfl⟩
  | answers hsent hheads =>
    obtain ⟨hhandle, answer, hsays⟩ := apologizes_of_heads hsent hheads
    exact ⟨answer, hsays.leave hhandle⟩
  | @gaveUp session e hsent hheads =>
    obtain ⟨hhandle, answer, hsays⟩ := apologizes_of_heads hsent hheads
    exact ⟨answer, hsays.leave hhandle⟩

/-- Where the transport refuses nothing and the pool has room, the response is all that is heard. -/
theorem Apologizes.of_quiet {transport : Tapped τ} {answer release : List TransportCall}
    (h : t.Apologizes transport answer release)
    (hrelease : release = [] ∨ release = [.finalize t.session.writer.handle .ok])
    (hsent : t.session.writer.sent = none)
    (hquiet : ∀ c ∈ transport.calls, c.isAccepted = true ∧ c.finalized? = none) :
    transport.calls = t.session.link.transport.calls ++
        HeaderTry.apology.sentCalls t.session.writer.handle ∧
      ∀ [Transport.Orderly τ], received transport.inner t.session.writer.handle = .apology := by
  have hcalls := h.calls_eq
  rw [hcalls] at hquiet
  have haccepted : ∀ c ∈ answer, c.isAccepted = true := fun c hc => (hquiet c (by simp [hc])).1
  obtain ⟨rfl, hreceived⟩ := h.accepted hsent haccepted
  refine ⟨?_, hreceived⟩
  rcases hrelease with rfl | rfl
  · rw [hcalls, List.append_nil]
  · cases (hquiet (.finalize t.session.writer.handle .ok) (by simp)).2

end Turn

/-! ## What is stored -/

/-- A look into the cache adds nothing. -/
theorem Cache.of_find?_get {c : Cache} {now : Instant} {looked key : String} {entry : Cache.Entry}
    (h : (c.get now looked).1.entries.find? key = some entry) :
    c.entries.find? key = some entry := by
  unfold get at h
  split at h
  · exact h
  · split at h
    · exact h
    · exact (Table.of_find?_erase h).2

theorem Dispatcher.Spares.holds {d d' : Dispatcher} {now : Instant} {request : Request}
    (h : d.Spares now request d') {key : String} {entry : Cache.Entry}
    (hholds : d'.Holds key entry) :
    d.Holds key entry := by
  obtain ⟨cache', hcache', hfind⟩ := hholds
  rcases h.cache_eq with hsame | ⟨-, hlooked⟩
  · exact ⟨cache', hsame ▸ hcache', hfind⟩
  · rw [hlooked] at hcache'
    obtain ⟨cache, hcache, rfl⟩ := Option.map_eq_some_iff.1 hcache'
    exact ⟨cache, hcache, Cache.of_find?_get hfind⟩

namespace Visit

variable {τ ε : Type} {settings : Settings} {v v' : Visit τ ε} {now : Instant}

/-- Every entry of the cache was there before. -/
def Step.GainsNothing (p : Step τ ε) : Prop :=
  ∀ key entry, p.after.service.dispatcher.Holds key entry →
    p.before.service.dispatcher.Holds key entry

/-- Only a move that returns an answer stores it. -/
theorem Does.gainsNothing (h : Does settings now v v')
    (hphase : ∀ served, v'.phase ≠ .returned (.ok served)) :
    (⟨now, v, v'⟩ : Step τ ε).GainsNothing := by
  intro key entry hholds
  cases h with
  | spares hspares => exact hspares.holds hholds
  | stores _ _ _ _ _ _ _ _ hreturned => exact absurd hreturned (hphase _)
  | overflows _ _ _ hspares => exact hspares.holds hholds

variable [Transport τ]

/-- What was returned stays. -/
theorem phase_run_of_returned {result : Except DispatchError Served}
    (h : v.phase = .returned result) (moves : List (Move settings τ)) :
    (v.run moves).phase = .returned result := by
  induction moves generalizing v with
  | nil => exact h
  | cons move rest ih =>
    refine ih ?_
    cases move with
    | others o => exact h
    | own now o => cases o <;> simp only [act, own, h]

/-- A dispatch that returns no answer stores nothing. -/
theorem Sound.gainsNothing (h : v.Sound settings) {moves : List (Move settings τ)}
    (hphase : ∀ served, (v.run moves).phase ≠ .returned (.ok served)) :
    ∀ p ∈ v.steps moves, p.GainsNothing := by
  induction moves generalizing v with
  | nil => exact List.forall_mem_nil _
  | cons move rest ih =>
    cases move with
    | others o => exact ih (h.act (.others o)) hphase
    | own now o =>
      obtain ⟨hsound, hdoes⟩ := h.own now o
      -- an answer that was returned on the way would still be there
      have hearlier : ∀ served, (v.own now o).phase ≠ .returned (.ok served) :=
        fun served hreturned => hphase served (phase_run_of_returned hreturned rest)
      exact List.forall_mem_cons.2 ⟨hdoes.gainsNothing hearlier, ih hsound hphase⟩

/-- A handler may fail whenever it likes, with whatever it made of its writer: the dispatch
returns its error. If a header section had gone out, there are no more calls for the response. If
none had, the empty answer with status 500 is what the transport is given, and unless it refuses
one of the calls it is all that the transport holds. The handle is released, and no move of the
dispatch stores anything. -/
theorem apologizes_of_failing {s : Service (Tapped τ)} (hfits : s.dispatcher.Fits settings)
    (request : Request) (program : Program ε) (moves : List (Move settings (Tapped τ)))
    (now : Instant) (o : Own) {t : Turn (Tapped τ)} {cause : HandlerError}
    (hfails : ((opening s request program).run moves).failing now o = some (t, cause)) :
    let v := ((opening s request program).run moves).own now o
    v.phase = .returned (.error (.handler cause)) ∧
      (∃ answer release, (release = [] ∨ release = [.finalize t.session.writer.handle .ok]) ∧
        t.Apologizes v.service.link.transport answer release) ∧
      ∀ p ∈ (opening s request program).steps (moves ++ [.own now o]), p.GainsNothing := by
  intro v
  have hown : (opening s request program).run (moves ++ [.own now o]) = v := by
    simp only [v, run, List.foldl_append, List.foldl_cons, List.foldl_nil, act]
  obtain ⟨t', hturn, hservice, hphase⟩ := own_of_failing hfails
  refine ⟨hphase, ?_, (sound_opening hfits request program).gainsNothing fun served hreturned => ?_⟩
  · rw [hservice]
    exact hturn.apologizes
  · rw [hown, hphase] at hreturned
    cases hreturned

/-- The handler has a field whose name is too long. It cannot send its header section, and fails. -/
def overlong : Program Empty :=
  .edit (.insert TracedDispatch.longName ⟨"too long".toUTF8, by decide⟩) <|
    .writeHeader .ok fun _ => .fail (.described "no header section")

theorem apologizes_of_failing_overlong :
    let v := (opening TracedDispatch.newService ⟨.get, "/p"⟩ overlong).own .start .start
    v.phase = .returned (.error (.handler (.described "no header section"))) ∧
      v.service.link.transport.calls =
        .allocate (.ok ⟨1⟩) :: HeaderTry.apology.sentCalls ⟨1⟩ ∧
      Transport.Faithful.received v.service.link.transport.inner ⟨1⟩ = .apology := by
  intro v
  let failing := (opening TracedDispatch.newService ⟨.get, "/p"⟩ overlong).failing .start .start
  have hseen : failing.map (fun p => (p.1.session.writer.handle, p.1.session.writer.sent,
      p.1.session.link.transport.calls, p.2)) = some (⟨1⟩, none, [.allocate (.ok ⟨1⟩)],
        .described "no header section") := by
    decide +kernel
  have hquiet : ∀ c ∈ v.service.link.transport.calls,
      c.isAccepted = true ∧ c.finalized? = none := by
    decide +kernel
  obtain ⟨⟨t, cause⟩, hfails, ht⟩ := Option.map_eq_some_iff.1 hseen
  obtain ⟨hhandle, hsent, hcalls, rfl⟩ :
      t.session.writer.handle = ⟨1⟩ ∧ t.session.writer.sent = none ∧
        t.session.link.transport.calls = [.allocate (.ok ⟨1⟩)] ∧ cause = _ := by
    simpa only [Prod.mk.injEq] using ht
  have hends := apologizes_of_failing fits_narrow ⟨.get, "/p"⟩ overlong [] .start .start hfails
  have hv : ((opening TracedDispatch.newService ⟨.get, "/p"⟩ overlong).run
      ([] : List (Move {} (Tapped Loopback)))).own .start .start = v := rfl
  rw [hv] at hends
  -- nothing below asks what the dispatch is
  clear_value v
  obtain ⟨hphase, ⟨answer, release, hrelease, hsays⟩, -⟩ := hends
  obtain ⟨hheard, hreceived⟩ := hsays.of_quiet hrelease hsent hquiet
  rw [hhandle] at hheard hreceived
  rw [hcalls] at hheard
  exact ⟨hphase, hheard, hreceived⟩

end Visit

end Sluice
