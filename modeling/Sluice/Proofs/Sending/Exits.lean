import Sluice.Proofs.Pooling.Ledger
import Sluice.Proofs.Sending.Dialogue
import Sluice.Proofs.Serving.Calls

/-!
# How a dispatch gets out of a turn

It waits, or its writer is closed and its handle released, whatever the handler does and whatever
is refused on the way. What was said in the turn goes on with the dialogue of its writer, and what
the dispatch returns tells how that dialogue stands.
-/
namespace Sluice

/-- The handler names this status at some point. -/
def Program.Names {ε : Type} (status : Http.Status) : Program ε → Prop
  | .finish | .fail _ | .crash _ => False
  | .edit _ next => next.Names status
  | .inspect next => ∃ view, (next view).Names status
  | .writeHeader named next => named = status ∨ ∃ result, (next result).Names status
  | .flush next => ∃ result, (next result).Names status
  | .write _ _ next => ∃ reply, (next reply).Names status
  | .sleep _ next => next.Names status
  | .ask _ next => ∃ n, (next n).Names status

/-- Among these statuses are those that the handler names, and the one that goes out unasked. -/
def Program.Within {ε : Type} (may : Http.Status → Prop) (p : Program ε) : Prop :=
  may .ok ∧ ∀ status, p.Names status → may status

theorem Program.Within.branch {ε : Type} {may : Http.Status → Prop} {p next : Program ε}
    (h : p.Within may) (hnames : ∀ status, next.Names status → p.Names status) : next.Within may :=
  ⟨h.1, fun status hstatus => h.2 status (hnames status hstatus)⟩

/-- What holds while a dispatch waits: after it only these statuses can go out. -/
def Stage.Stands {ε : Type} (may : Http.Status → Prop) (sent : Option Http.Status) :
    Stage ε → Prop
  | .replaying recording _ => sent = some recording.status
  | .writing _ _ next => sent ≠ none ∧ ∀ reply, (next reply).Within may
  | .sleeping _ next => next.Within may
  | .asking _ next => ∀ n, (next n).Within may
  | .endless => True

/-- What a dispatch that had a handle can return, with the status that has gone out and the calls
that were made. -/
inductive Returns (sent : Option Http.Status) (calls : List TransportCall) :
    Except DispatchError Served → Prop where
  | answered {served : Served} : sent = some served.status → Returns sent calls (.ok served)
  | broken {e : WriteError} : e.Tells sent calls → Returns sent calls (.error (.write e))
  | failed {cause} : sent ≠ none ∨ (∃ c ∈ calls, c.isAccepted = false) →
      Returns sent calls (.error (.handler cause))

theorem Returns.append {sent : Option Http.Status} {calls more : List TransportCall}
    {result : Except DispatchError Served} (h : Returns sent more result) :
    Returns sent (calls ++ more) result := by
  cases h with
  | answered hsent => exact .answered hsent
  | broken htells => exact .broken htells.append
  | failed hsent =>
    refine .failed (hsent.imp_right ?_)
    rintro ⟨c, hc, hno⟩
    exact ⟨c, List.mem_append_right _ hc, hno⟩

namespace Turn

variable {τ ε : Type}

/-- From the first turn to the second its session spoke, and the pool was left alone. -/
structure Speaks (t t' : Turn (Tapped τ)) (tries : List HeaderTry) (calls : List TransportCall) :
    Prop where
  pool_eq : t'.dispatcher.pool = t.dispatcher.pool
  session : t.session.Speaks t'.session tries calls

/-- The attempt was made with one of these statuses, or with 500 because the handler failed. -/
def Allows (may : Http.Status → Prop) (result : Except DispatchError Served) (a : HeaderTry) :
    Prop :=
  may a.status ∨ a.status = .internalServerError ∧ ∃ cause, result = .error (.handler cause)

/-- How a turn is got out of when header sections may go out with these statuses. -/
inductive Exits [Transport τ] (may : Http.Status → Prop) (t : Turn (Tapped τ)) :
    Service (Tapped τ) → Outcome ε → Prop where
  | waits {t' : Turn (Tapped τ)} {stage tries calls} : t.Speaks t' tries calls →
      (∀ a ∈ tries, may a.status) → stage.Stands may t'.session.writer.sent →
      Exits may t ⟨t'.dispatcher, t'.session.link⟩ (.inFlight ⟨t'.session.writer, t'.key, stage⟩)
  | returned {t' : Turn (Tapped τ)} {result tries calls} : t.Speaks t' tries calls →
      (∀ a ∈ tries, Allows may result a) → Returns t'.session.writer.sent calls result →
      Exits may t t'.leave (.returned result)
  | crashed {t' : Turn (Tapped τ)} {message tries calls} : t.Speaks t' tries calls →
      Exits may t t'.leave (.crashed message)

variable {t t₁ t₂ : Turn (Tapped τ)} {tries more : List HeaderTry}
  {calls later : List TransportCall} {may : Http.Status → Prop}

theorem Speaks.refl (t : Turn (Tapped τ)) : t.Speaks t [] [] := ⟨rfl, .refl _⟩

theorem Speaks.trans (h : t.Speaks t₁ tries calls) (h' : t₁.Speaks t₂ more later) :
    t.Speaks t₂ (tries ++ more) (calls ++ later) :=
  ⟨h'.pool_eq.trans h.pool_eq, h.session.trans h'.session⟩

theorem Speaks.after (h : t.Speaks t₁ [] []) (h' : t₁.Speaks t₂ tries calls) :
    t.Speaks t₂ tries calls :=
  ⟨h'.pool_eq.trans h.pool_eq, h.session.after h'.session⟩

theorem Speaks.before (h : t.Speaks t₁ tries calls) (h' : t₁.Speaks t₂ [] []) :
    t.Speaks t₂ tries calls :=
  ⟨h'.pool_eq.trans h.pool_eq, h.session.before h'.session⟩

theorem speaks_session {s : Session (Tapped τ)} (h : t.session.Speaks s tries calls) :
    t.Speaks { t with session := s } tries calls :=
  ⟨rfl, h⟩

theorem speaks_report (t : Turn (Tapped τ)) (e : Event) : t.Speaks (t.report e) [] [] :=
  speaks_session (t.session.speaks_report e)

theorem may_of_mem_tries {s : Session (Tapped τ)} {status : Http.Status} (h : may status) :
    ∀ a ∈ s.tries status, may a.status := by
  intro a ha
  rwa [Session.status_of_mem_tries ha]

/-- What has been said before is said, then a turn gets out as it can from there. -/
theorem Exits.after [Transport τ] {s : Service (Tapped τ)} {o : Outcome ε}
    (h : t.Speaks t₁ tries calls) (hmay : ∀ a ∈ tries, may a.status) (h' : t₁.Exits may s o) :
    t.Exits may s o := by
  have hallowed {more : List HeaderTry} {P : HeaderTry → Prop} (hall : ∀ a ∈ more, P a)
      (hold : ∀ a ∈ tries, P a) : ∀ a ∈ tries ++ more, P a := by
    intro a ha
    exact (List.mem_append.1 ha).elim (hold a) (hall a)
  cases h' with
  | waits hspeaks hall hstands => exact .waits (h.trans hspeaks) (hallowed hall hmay) hstands
  | returned hspeaks hall hreturns =>
    exact .returned (h.trans hspeaks) (hallowed hall fun a ha => .inl (hmay a ha)) hreturns.append
  | crashed hspeaks => exact .crashed (h.trans hspeaks)

/-! ## Handlers -/

section

variable [Transport τ] {now : Instant} {s : Service (Tapped τ)} {o : Outcome ε}

/-- Whether the answer is kept or not, it has gone out. -/
theorem Files.exits {status : Http.Status} (h : Files now status t s o)
    (hsent : t.session.writer.sent = some status) : t.Exits may s o := by
  have hanswered {t' : Turn (Tapped τ)} {served : Served} (hspeaks : t.Speaks t' [] [])
      (hstatus : served.status = status) :
      t.Exits may t'.leave (.returned (.ok served) : Outcome ε) :=
    .returned hspeaks nofun (.answered (by rw [hspeaks.session.sent_eq hsent, hstatus]))
  have htaken : t.Speaks t.unrecorded [] [] := speaks_session (.of_same rfl rfl rfl)
  cases h with
  | passes => exact hanswered (.refl t) rfl
  | declines _ hok => exact hanswered (htaken.trans (speaks_report _ _)) hok.symm
  | overflows => exact .crashed (htaken.trans (speaks_report _ _))
  | @keeps cache cache' key recording events link _ _ hok _ _ hlink =>
    -- the store reaches neither the pool nor the transport
    have hkept : t.session.Speaks { t.unrecorded.session with link } [] [] := by
      rw [← hlink]
      exact .of_same rfl rfl rfl
    exact hanswered ⟨rfl, hkept⟩ hok.symm

/-- What the handler left unsent goes out, or the error tells why it does not. -/
theorem Completes.exits (h : Completes now t s o) (hok : may .ok) : t.Exits may s o := by
  cases h with
  | @fails session e hflush =>
    obtain ⟨calls, hspeaks, htells⟩ := hflush.speaks
    refine .returned (speaks_session hspeaks) (fun a ha => .inl ?_) (.broken (htells e rfl))
    exact may_of_mem_tries hok a ha
  | files hflush hfiles =>
    obtain ⟨calls, hspeaks, -⟩ := hflush.speaks
    obtain ⟨status, hstatus⟩ := Option.ne_none_iff_exists'.1 hflush.sent_ne_none
    rw [hstatus] at hfiles
    exact .after (speaks_session hspeaks) (may_of_mem_tries hok) (hfiles.exits hstatus)

/-- The fields of the empty answer fit. -/
theorem fits_cleared (status : Http.Status) : (⟨status, .empty⟩ : HeaderTry).Fits :=
  ⟨_, Layout.measure_withContentType_empty⟩

/-- With no fields left a header section goes out, unless the transport refuses it. -/
theorem sent_or_refused {s s' : Session (Tapped τ)} {status : Http.Status}
    {result : Except WriteError Unit} (h : s.Heads status s' result)
    (hempty : s.writer.fields = .empty) {calls : List TransportCall}
    (htells : ∀ e, result = .error e → e.Tells s'.writer.sent calls) :
    s'.writer.sent ≠ none ∨ ∃ c ∈ calls, c.isAccepted = false := by
  cases result with
  | ok => exact .inl h.sent_ne_none
  | error e =>
    cases htells e rfl with
    | unfit =>
      cases h with
      | unfit _ hmeasure =>
        have hfits : (⟨status, s.writer.fields⟩ : HeaderTry).Fits := hempty ▸ fits_cleared status
        exact absurd hfits (HeaderTry.not_fits hmeasure)
    | refused hrefused => exact .inr hrefused
    | late hsent => exact .inl hsent

/-- Where nothing was sent yet, an empty answer is, unless the transport refuses it. -/
theorem Fails.exits {cause : HandlerError} (h : Fails cause t t₁) :
    t.Exits may t₁.leave (.returned (.error (.handler cause)) : Outcome ε) := by
  have hfailed : t.Speaks (t.failed cause) [] [] := t.speaks_report _
  have hall (a : HeaderTry)
      (ha : a ∈ ((t.failed cause).session.edit .clear).tries .internalServerError) :
      Allows may (.error (.handler cause)) a := .inr ⟨Session.status_of_mem_tries ha, cause, rfl⟩
  cases h with
  | late hsent =>
    have hout : (t.failed cause).session.writer.sent ≠ none := by
      show t.session.writer.sent ≠ none
      rw [hsent]
      exact Option.some_ne_none _
    exact .returned hfailed nofun (.failed (.inl hout))
  | answers _ hheads =>
    obtain ⟨calls, hspeaks, htells⟩ := hheads.speaks
    have hspoke := speaks_session (((t.failed cause).session.speaks_edit .clear).after hspeaks)
    exact .returned (hfailed.after hspoke) hall (.failed (sent_or_refused hheads rfl htells))
  | gaveUp _ hheads =>
    obtain ⟨calls, hspeaks, htells⟩ := hheads.speaks
    have hspoke := speaks_session (((t.failed cause).session.speaks_edit .clear).after hspeaks)
    exact .returned ((hfailed.after hspoke).before (speaks_report _ _)) hall
      (.failed (sent_or_refused hheads rfl htells))

/-- A handler is carried out until it ends or has to wait. -/
theorem Runs.exits {program : Program ε} (h : Runs now t program s o)
    (hwithin : program.Within may) : t.Exits may s o := by
  -- what may go out is the same in every branch
  induction h with
  | completes hcompletes => exact hcompletes.exits hwithin.1
  | fails hfails => exact hfails.exits
  | crashes => exact .crashed (.refl _)
  | edits _ ih => exact .after (speaks_session (Session.speaks_edit _ _)) nofun (ih hwithin)
  | inspects _ ih => exact ih (hwithin.branch fun _ hnames => ⟨_, hnames⟩)
  | @heads t status _ _ _ _ _ hheads _ ih =>
    obtain ⟨calls, hspeaks, -⟩ := hheads.speaks
    have hmay : may status := hwithin.2 status (.inl rfl)
    refine .after (speaks_session hspeaks) (may_of_mem_tries hmay) (ih ?_)
    exact hwithin.branch fun _ hnames => .inr ⟨_, hnames⟩
  | flushes hflush _ ih =>
    obtain ⟨calls, hspeaks, -⟩ := hflush.speaks
    refine .after (speaks_session hspeaks) (may_of_mem_tries hwithin.1) (ih ?_)
    exact hwithin.branch fun _ hnames => ⟨_, hnames⟩
  | writes hwrites _ ih =>
    obtain ⟨calls, hspeaks, -⟩ := hwrites.speaks
    refine .after (speaks_session hspeaks) (may_of_mem_tries hwithin.1) (ih ?_)
    exact hwithin.branch fun _ hnames => ⟨_, hnames⟩
  | waits hwrites =>
    obtain ⟨calls, hspeaks, -⟩ := hwrites.speaks
    refine .waits (speaks_session hspeaks) (may_of_mem_tries hwithin.1)
      ⟨hwrites.sent_ne_none nofun, fun reply => ?_⟩
    exact hwithin.branch fun _ hnames => ⟨reply, hnames⟩
  | sticks hwrites =>
    obtain ⟨calls, hspeaks, -⟩ := hwrites.speaks
    exact .waits (speaks_session hspeaks) (may_of_mem_tries hwithin.1) trivial
  | sleeps => exact .waits (.refl _) nofun hwithin
  | asks => exact .waits (.refl _) nofun fun n => hwithin.branch fun _ hnames => ⟨n, hnames⟩

/-! ## Recordings -/

/-- A recording went out if the progress was not stopped by an error. -/
theorem exits_replayed {recording : Recording} {progress : Progress}
    (hspeaks : t.Speaks t₁ tries calls)
    (hmay : ∀ a ∈ tries, may a.status)
    (hsent : (∀ e, progress ≠ .finished (.error e)) →
      t₁.session.writer.sent = some recording.status)
    (htells : ∀ e, progress = .finished (.error e) → e.Tells t₁.session.writer.sent calls)
    (h : t₁.replayed recording progress = (s, o)) : t.Exits may s o := by
  have hall {result : Except DispatchError Served} (a : HeaderTry) (ha : a ∈ tries) :
      Allows may result a := .inl (hmay a ha)
  rcases progress with (e | n) | write | _
  · cases h
    exact .returned hspeaks hall (.broken (htells e rfl))
  · cases h
    exact .returned hspeaks hall (.answered (hsent nofun))
  · cases h
    exact .waits hspeaks hmay (hsent nofun)
  · cases h
    exact .waits hspeaks hmay trivial

end

end Turn

/-- A turn that is over has made the calls of the release. -/
theorem Turn.stows_leave {τ : Type} [Transport τ] (t : Turn (Tapped τ)) :
    ∃ calls, t.leave.link.transport.calls = t.session.link.transport.calls ++ calls ∧
      t.dispatcher.pool.Stows t.session.writer.handle t.leave.dispatcher.pool calls := by
  obtain ⟨calls, hcalls, hstows⟩ :=
    t.dispatcher.pool.stows_release t.session.close t.session.writer.handle
  rw [t.session.transport_close] at hcalls
  exact ⟨calls, hcalls, hstows⟩

/-! ## Dispatches -/

namespace Service

variable {τ ε : Type} {s s' : Service (Tapped τ)} {d : Dispatch ε} {o : Outcome ε} {now : Instant}
  {may : Http.Status → Prop}

/-- A dispatch that is left waiting. -/
theorem exits_wait [Transport τ] (hstands : d.stage.Stands may d.writer.sent) :
    (d.turn s).Exits may s (.inFlight d) :=
  .waits (.refl (d.turn s)) nofun hstands

variable [Transport τ]

theorem exits_resume (hstands : d.stage.Stands may d.writer.sent)
    (h : s.resume now d = (s', o)) : (d.turn s).Exits may s' o := by
  cases resumes_resume h with
  | rests => exact exits_wait hstands
  | replays hstage hresumes hreplayed =>
    rw [hstage] at hstands
    have hsent : (d.turn s).session.writer.sent = some _ := hstands
    obtain ⟨calls, hspeaks, htells⟩ :=
      hresumes.speaks (by rw [hsent]; exact Option.some_ne_none _)
    exact Turn.exits_replayed (Turn.speaks_session hspeaks) nofun
      (fun _ => hspeaks.sent_eq hsent) htells hreplayed
  | writes hstage hresumes hruns =>
    rw [hstage] at hstands
    obtain ⟨calls, hspeaks, -⟩ := hresumes.speaks hstands.1
    exact .after (Turn.speaks_session hspeaks) nofun (hruns.exits (hstands.2 _))
  | drops hstage _ hresumes hruns =>
    rw [hstage] at hstands
    obtain ⟨calls, hspeaks, -⟩ := hresumes.speaks hstands.1
    exact .after (Turn.speaks_session hspeaks) nofun (hruns.exits (hstands.2 _))
  | waits hstage hresumes =>
    rw [hstage] at hstands
    obtain ⟨calls, hspeaks, -⟩ := hresumes.speaks hstands.1
    exact .waits (Turn.speaks_session hspeaks) nofun ⟨hspeaks.sent_ne_none hstands.1, hstands.2⟩
  | sticks hstage hresumes =>
    rw [hstage] at hstands
    obtain ⟨calls, hspeaks, -⟩ := hresumes.speaks hstands.1
    exact .waits (Turn.speaks_session hspeaks) nofun trivial
  | wakes hstage hruns =>
    rw [hstage] at hstands
    exact hruns.exits hstands

theorem exits_answer {n : Nat} (hstands : d.stage.Stands may d.writer.sent)
    (h : s.answer now d n = (s', o)) : (d.turn s).Exits may s' o := by
  cases answers_answer h with
  | rests => exact exits_wait hstands
  | tells hstage hruns =>
    rw [hstage] at hstands
    exact hruns.exits (hstands n)

end Service

/-! ## Requests -/

namespace Service

variable {τ ε : Type}

/-- The recording that the cache has for a request. -/
def lookup? (s : Service τ) (now : Instant) (request : Request) : Option Recording :=
  match s.dispatcher.cache, request.cacheKey? with
  | some cache, some key => (cache.get now key).2.2
  | _, _ => none

/-- The response to a request may have this status: that of the recording that is sent again, or
one that the handler names, or 200 where it names none. -/
def Expects (s : Service τ) (now : Instant) (request : Request) (program : Program ε)
    (status : Http.Status) : Prop :=
  match s.lookup? now request with
  | some recording => status = recording.status
  | none => status = .ok ∨ program.Names status

/-- What taking up a request comes to. -/
inductive Takes [Transport τ] (now : Instant) (request : Request) (program : Program ε)
    (s : Service (Tapped τ)) : Service (Tapped τ) → Outcome ε → Prop where
  | refused {pool link e} : s.dispatcher.pool.checkout s.link = (pool, link, .error e) →
      Takes now request program s ⟨{ s.dispatcher with pool }, link⟩
        (.returned (.error (.handle e)))
  | taken {t : Turn (Tapped τ)} {link s' o} :
      s.dispatcher.pool.checkout s.link =
        (t.dispatcher.pool, link, .ok t.session.writer.handle) →
      t.session.link.transport = link.transport → t.session.writer.sent = none →
      t.Exits (s.Expects now request program) s' o → Takes now request program s s' o

variable {s s' : Service (Tapped τ)} {o : Outcome ε} {now : Instant}

theorem within_expects {request : Request} {program : Program ε}
    (h : s.lookup? now request = none) : program.Within (s.Expects now request program) := by
  unfold Program.Within Expects
  rw [h]
  exact ⟨.inl rfl, fun status hnames => .inr hnames⟩

variable [Transport τ]

theorem takes_start {request : Request} {program : Program ε}
    (h : s.start now request program = (s', o)) : s.Takes now request program s' o := by
  cases enters_start h with
  | refused hcheckout => exact .refused hcheckout
  | calls hcheckout hno hruns =>
    have hmissing : s.lookup? now request = none := by
      unfold lookup?
      split
      · rename_i cache key hcache hkey
        exact absurd hkey (hno cache key hcache)
      · rfl
    exact .taken hcheckout rfl rfl (hruns.exits (within_expects hmissing))
  | @misses _ link _ _ _ _ events _ _ hcheckout hcache hkey hget hruns =>
    have hmissing : s.lookup? now request = none := by simp only [lookup?, hcache, hkey, hget]
    have htransport : (link.reportAll events).transport = link.transport := rfl
    exact .taken hcheckout htransport rfl (hruns.exits (within_expects hmissing))
  | @hits _ link _ _ _ _ events recording _ _ _ _ _ hcheckout hcache hkey hget ht hreplays
      hreplayed =>
    subst ht
    have hfound : s.lookup? now request = some recording := by
      simp only [lookup?, hcache, hkey, hget]
    have hmay : s.Expects now request program recording.status := by
      unfold Expects
      rw [hfound]
    obtain ⟨calls', hspeaks, htells⟩ := hreplays.speaks
    have hspoke := (Turn.speaks_report _ _).after (Turn.speaks_session hspeaks)
    have hexits := Turn.exits_replayed hspoke (Turn.may_of_mem_tries hmay) (hreplays.sent_eq rfl)
      htells hreplayed
    have htransport : (link.reportAll events).transport = link.transport := rfl
    exact .taken hcheckout htransport rfl hexits

end Service

end Sluice
