import Sluice.Dispatch.Build
import Sluice.Proofs.Serving.Dispatches
import Sluice.Proofs.Serving.Journal
import Sluice.Proofs.Serving.Turns

/-!
# What a hit in the cache repeats

A dispatcher at work. Requests come, dispatches go on and are dropped in any order, time passes, the
cache is swept, and buffers are drained. A journal is kept of the answers: what was asked for, when
it was answered and from where, and what the transport received. Every answer that came from the
cache is, byte for byte, the last one that was kept under its path, and no older than the cache
allows.
-/
namespace Sluice

/-- A dispatcher and its dispatches in flight by the clock, with the journal of those that returned
an answer. -/
structure Journaled (τ ε : Type) extends Dispatches τ ε Ticket where
  now : Instant := .start
  journal : List Answered := []

namespace Journaled

variable {τ ε : Type}

/-- The key under which a response was kept since, as the log tells. -/
def newlyKept (j : Journaled τ ε) (l : Link τ) : Option String :=
  (l.kept.drop j.service.link.kept.length).head?

theorem newlyKept_of_eq {j : Journaled τ ε} {l : Link τ} (h : l.kept = j.service.link.kept) :
    j.newlyKept l = none := by
  simp [newlyKept, h]

theorem newlyKept_of_concat {j : Journaled τ ε} {l : Link τ} {key : String}
    (h : l.kept = j.service.link.kept ++ [key]) : j.newlyKept l = some key := by
  simp [newlyKept, h]

end Journaled

variable {τ ε : Type} [Transport τ] [Transport.Orderly τ]
open Transport.Faithful Transport.Orderly

/-- What others do with a link: anything that leaves the responses and the cache alone. -/
structure Outside (τ : Type) [Transport τ] [Transport.Orderly τ] where
  change : Link τ → Link τ
  rests : ∀ l : Link τ, l.Rests (change l)

namespace Outside

/-- A signal is raised, wherever it comes from. -/
def raise (signal : Signal) : Outside τ where
  change l := l.raise signal
  rests l := .of_transport (l.transport_raise signal) (l.kept_raise signal)

/-- The front end drains a buffer, and what the transport tells of it is passed on. -/
def drain (handle : HandleId) : Outside Loopback where
  change l :=
    let (t, _, signals) := l.transport.drain handle
    { l with transport := t }.raiseAll signals
  rests l := by
    have hdrain := l.transport.received_exchange_drain handle
    refine ⟨fun g => ?_, fun g hg => ?_, Link.kept_raiseAll _ _⟩
    · rw [Link.transport_raiseAll]
      exact hdrain g
    · rw [Link.transport_raiseAll]
      show g.number ≤ (l.transport.drain handle).1.allocated
      rwa [Loopback.allocated_drain]

end Outside

/-- What can happen next. -/
inductive Happening (τ : Type) [Transport τ] [Transport.Orderly τ] where
  | start (request : Request)
  /-- A dispatch in flight is looked at, and goes on if it can. -/
  | resume (id : Nat)
  | answer (id n : Nat)
  /-- A dispatch in flight is dropped. -/
  | cancel (id : Nat)
  | advance (d : Duration)
  /-- The sweeper purges the cache. -/
  | sweep
  | outside (o : Outside τ)

/-- The cache is purged, if there is one. -/
def Service.purge {τ : Type} (s : Service τ) (now : Instant) : Service τ :=
  match s.dispatcher.cache with
  | none => s
  | some cache =>
    let (cache, events, _) := cache.purge now
    ⟨{ s.dispatcher with cache := some cache }, s.link.reportAll events⟩

namespace Journaled

/-- What others may do to a service whose responses are looked at. -/
inductive Sparing : (Service τ → Service τ) → Prop where
  | wait : Sparing id
  | sweep (now : Instant) : Sparing fun s => s.purge now
  | outside (o : Outside τ) : Sparing fun s => { s with link := o.change s.link }

/-- The ticket of the next request. -/
def ticket (j : Journaled τ ε) (request : Request) : Ticket :=
  ⟨j.started, request, j.now, j.journal.length⟩

/-- What a happening is for the dispatches, when each request is handled as the handler says. -/
def move (handler : Nat → Request → Program ε) (j : Journaled τ ε) :
    Happening τ → Dispatches.Move τ ε Ticket Sparing
  | .start request => .start j.now request (handler j.started request) (j.ticket request)
  | .resume id => .resume id j.now
  | .answer id n => .answer id j.now n
  | .cancel id => .drop id
  | .advance _ => .others ⟨_, .wait⟩
  | .sweep => .others ⟨_, .sweep j.now⟩
  | .outside o => .others ⟨_, .outside o⟩

/-- The journal, once a dispatch came so far. -/
def noted (j : Journaled τ ε) (ticket : Ticket) : Service τ × Outcome ε → List Answered
  | (s, .returned (.ok served)) => j.journal ++ [{ ticket with
      ended := j.now
      served
      received := received s.link.transport served.handle
      kept := j.newlyKept s.link }]
  | _ => j.journal

def act (handler : Nat → Request → Program ε) (j : Journaled τ ε) (happening : Happening τ) :
    Journaled τ ε where
  toDispatches := j.toDispatches.act (j.move handler happening)
  now :=
    match happening with
    | .advance d => j.now.after d
    | _ => j.now
  journal :=
    match j.toDispatches.turn? (j.move handler happening) with
    | some (_, ticket, out) => j.noted ticket out
    | none => j.journal

def run (handler : Nat → Request → Program ε) (j : Journaled τ ε) (moves : List (Happening τ)) :
    Journaled τ ε :=
  moves.foldl (act handler) j

/-! ## What a happening comes to -/

/-- Notes how far the dispatch with this number came. -/
def settle (j : Journaled τ ε) (id : Nat) (ticket : Ticket) (out : Service τ × Outcome ε) :
    Journaled τ ε where
  toDispatches := j.toDispatches.settle id ticket out
  now := j.now
  journal := j.noted ticket out

@[simp] theorem toDispatches_settle (j : Journaled τ ε) (id : Nat) (ticket : Ticket)
    (out : Service τ × Outcome ε) :
    (j.settle id ticket out).toDispatches = j.toDispatches.settle id ticket out :=
  rfl

/-- One more request came. -/
def next (j : Journaled τ ε) : Journaled τ ε := { j with toDispatches := j.toDispatches.next }

section

variable (handler : Nat → Request → Program ε) (j : Journaled τ ε)

theorem act_start (request : Request) :
    j.act handler (.start request) = j.next.settle j.started (j.ticket request)
      (j.service.start j.now request (handler j.started request)) :=
  rfl

theorem started_act_start (request : Request) :
    (j.act handler (.start request)).started = j.started + 1 :=
  Dispatches.started_settle ..

theorem started_le_act (happening : Happening τ) : j.started ≤ (j.act handler happening).started :=
  (j.toDispatches.steps_act (j.move handler happening)).started_le

theorem act_resume (id : Nat) :
    j.act handler (.resume id) =
      match j.flights.find? id with
      | none => j
      | some f => j.settle id f.tag (j.service.resume j.now f.dispatch) := by
  simp only [act, move, Dispatches.act, Dispatches.turn?]
  cases j.flights.find? id <;> rfl

theorem act_answer (id n : Nat) :
    j.act handler (.answer id n) =
      match j.flights.find? id with
      | none => j
      | some f => j.settle id f.tag (j.service.answer j.now f.dispatch n) := by
  simp only [act, move, Dispatches.act, Dispatches.turn?]
  cases j.flights.find? id <;> rfl

theorem act_cancel (id : Nat) :
    j.act handler (.cancel id) =
      match j.flights.find? id with
      | none => j
      | some f =>
        { j with service := j.service.cancel f.dispatch, flights := j.flights.erase id } := by
  simp only [act, move, Dispatches.act, Dispatches.turn?]
  cases j.flights.find? id <;> rfl

end

end Journaled

/-! ## What holds at every moment -/

/-- What holds while a dispatch waits is not touched by what others do. -/
theorem Stage.Holds.of_received {stage : Stage ε} {s s' : Session τ} (h : stage.Holds s)
    (hwriter : s'.writer = s.writer) (hreceived : s'.received = s.received) : stage.Holds s' := by
  have hrecords {last : ByteArray} (hr : s.Records last) : s'.Records last :=
    hr.of_same (by rw [hwriter]) (by rw [hwriter]) hreceived
  cases stage with
  | replaying recording write =>
    obtain ⟨hbody, hle, hsent⟩ := h
    exact ⟨hbody, hle, hreceived.trans hsent⟩
  | writing write patience next =>
    obtain ⟨hpatience, ⟨hsent, hle, hr⟩, hnext⟩ := h
    exact ⟨hpatience, ⟨by rwa [hwriter], hle, hrecords hr⟩, hnext⟩
  | sleeping wake next => exact ⟨hrecords h.1, h.2⟩
  | asking question next => exact ⟨hrecords h.1, h.2⟩
  | endless => exact trivial

namespace Journaled

/-- A dispatch that is well on its way. -/
structure Flies (ttl : Duration) (started : Nat) (journal : List Answered) (s : Service τ)
    (f : Flight ε Ticket) : Prop where
  fits : f.tag.Fits started journal f.dispatch.key
  lent : s.dispatcher.pool.Lent s.link f.dispatch.writer.handle
  holds : f.dispatch.stage.Holds (⟨f.dispatch.writer, s.link⟩ : Session τ)
  echoes : ∀ recording write, f.dispatch.stage = .replaying recording write →
    f.tag.Echoes ttl journal recording.received

structure Sound (ttl : Duration) (j : Journaled τ ε) : Prop where
  tidy : Pool.Tidy j.service.dispatcher.pool.handles j.service.link
  flies : ∀ id f, j.flights.find? id = some f →
    f.tag.id = id ∧ Flies ttl j.started j.journal j.service f
  /-- No two dispatches have one handle. -/
  apart : ∀ id f other g, j.flights.find? id = some f → j.flights.find? other = some g →
    other ≠ id → g.dispatch.writer.handle ≠ f.dispatch.writer.handle
  stores : ∀ c, j.service.dispatcher.cache = some c → c.Stores ttl j.journal
  notes : ∀ a ∈ j.journal, a.Noted ttl j.started j.now j.journal

/-- The handle is lent, and to no flight but the one with this number. -/
structure Free (j : Journaled τ ε) (id : Nat) (handle : HandleId) : Prop where
  lent : j.service.dispatcher.pool.Lent j.service.link handle
  apart : ∀ other f, j.flights.find? other = some f → other ≠ id →
    f.dispatch.writer.handle ≠ handle

/-! ## What a turn does to what holds -/

/-- One handle was at work, and was given to the pool at the end if it is there now. -/
structure Spends (handle : HandleId) (s s' : Service τ) : Prop where
  frames : s.link.Frames handle s'.link
  handles : s'.dispatcher.pool.handles = s.dispatcher.pool.handles ++ [handle] ∨
    s'.dispatcher.pool.handles = s.dispatcher.pool.handles
  cache_eq : s'.dispatcher.cache = s.dispatcher.cache

section

variable {ttl : Duration} {j : Journaled τ ε} {f : Flight ε Ticket} {a : Answered} {id : Nat}
  {handle : HandleId} {s s' : Service τ}

/-- Another handle was at work. -/
theorem Flies.spends {started : Nat} {journal : List Answered}
    (h : Flies ttl started journal s f) (hs : Spends handle s s')
    (hne : f.dispatch.writer.handle ≠ handle) : Flies ttl started journal s' f := by
  refine ⟨h.fits, ⟨hs.frames.issued_of _ h.lent.issued, ?_⟩, ?_, h.echoes⟩
  · have hunpooled := h.lent.unpooled
    rcases hs.handles with heq | heq <;> rw [heq]
    · simp [hunpooled, hne]
    · exact hunpooled
  · exact h.holds.of_received rfl (hs.frames.received_ne _ hne)

/-- A dispatch is over. -/
theorem Sound.leave (h : j.Sound ttl) (hfree : j.Free id handle)
    (hs : Spends handle j.service s) :
    { j with service := s, flights := j.flights.erase id }.Sound ttl where
  tidy := by
    show Pool.Tidy s.dispatcher.pool.handles s.link
    rcases hs.handles with heq | heq <;> rw [heq]
    · exact (h.tidy.concat hfree.lent).sublist (.refl _) hs.frames.issued_of
    · exact h.tidy.sublist (.refl _) hs.frames.issued_of
  flies other f hf := by
    obtain ⟨hne, hf⟩ := Table.of_find?_erase hf
    obtain ⟨hid, hflies⟩ := h.flies other f hf
    exact ⟨hid, hflies.spends hs (hfree.apart other f hf hne)⟩
  apart first f second g hf hg hne :=
    h.apart first f second g (Table.of_find?_erase hf).2 (Table.of_find?_erase hg).2 hne
  stores c hc := h.stores c (hs.cache_eq ▸ hc)
  notes := h.notes

/-- A dispatch waits. -/
theorem Sound.wait (h : j.Sound ttl) (hfree : j.Free id f.dispatch.writer.handle)
    (hs : Spends f.dispatch.writer.handle j.service s)
    (hpool : s.dispatcher.pool = j.service.dispatcher.pool) (hid : f.tag.id = id)
    (hfits : f.tag.Fits j.started j.journal f.dispatch.key)
    (hholds : f.dispatch.stage.Holds (⟨f.dispatch.writer, s.link⟩ : Session τ))
    (hechoes : ∀ recording write, f.dispatch.stage = .replaying recording write →
      f.tag.Echoes ttl j.journal recording.received) :
    { j with service := s, flights := j.flights.insert id f }.Sound ttl where
  tidy := h.tidy.sublist (hpool ▸ .refl _) hs.frames.issued_of
  flies other g hg := by
    rcases Table.of_find?_insert hg with ⟨rfl, rfl⟩ | ⟨hne, hg⟩
    · have hlent := hfree.lent
      exact ⟨hid, hfits, ⟨hs.frames.issued_of _ hlent.issued, hpool ▸ hlent.unpooled⟩, hholds,
        hechoes⟩
    · obtain ⟨hid', hflies⟩ := h.flies other g hg
      exact ⟨hid', hflies.spends hs (hfree.apart other g hg hne)⟩
  apart first g second g' hg hg' hne := by
    rcases Table.of_find?_insert hg with ⟨hfirst, rfl⟩ | ⟨hfirst, hold⟩ <;>
      rcases Table.of_find?_insert hg' with ⟨hsecond, rfl⟩ | ⟨hsecond, hold'⟩
    · exact absurd (hsecond.trans hfirst.symm) hne
    · exact hfree.apart second g' hold' hsecond
    · exact Ne.symm (hfree.apart first g hold hfirst)
    · exact h.apart first g second g' hold hold' hne
  stores c hc := h.stores c (hs.cache_eq ▸ hc)
  notes := h.notes

/-- An answer is noted, and the cache is as the answer left it. -/
theorem Sound.note (h : j.Sound ttl) (ha : a.Noted ttl j.started j.now j.journal)
    {cache : Option Cache} (hstores : ∀ c, cache = some c → c.Stores ttl (j.journal ++ [a])) :
    { j with journal := j.journal ++ [a], service.dispatcher.cache := cache }.Sound ttl where
  tidy := h.tidy
  flies id f hf := by
    obtain ⟨hid, hflies⟩ := h.flies id f hf
    -- a ticket looks at the journal as it was when the request came
    exact ⟨hid, hflies.fits.concat a, hflies.lent, hflies.holds,
      fun r w hr => (hflies.echoes r w hr).concat hflies.fits.known_le a⟩
  apart := h.apart
  stores := hstores
  notes b hb := by
    rcases List.mem_append.1 hb with hb | hb
    · exact (h.notes b hb).concat a
    · obtain rfl := List.mem_singleton.1 hb
      exact ha.concat b

end

/-- The turn that begins for a ticket. -/
structure Begins (j : Journaled τ ε) (ticket : Ticket) (t : Turn τ) : Prop where
  dispatcher_eq : t.dispatcher = j.service.dispatcher
  link_eq : t.session.link = j.service.link
  free : j.Free ticket.id t.session.writer.handle
  fits : ticket.Fits j.started j.journal t.key

section

variable {ttl : Duration} {j : Journaled τ ε} {ticket : Ticket} {t t' : Turn τ} {s s' : Service τ}
  {o : Outcome ε}

theorem spends_left (hdispatcher : t.dispatcher = s.dispatcher)
    (hframes : s.link.Frames t.session.writer.handle t.session.link) (hleft : t.Left s') :
    Spends t.session.writer.handle s s' := by
  refine ⟨hframes.trans hleft.link.tends.toFrames, ?_, ?_⟩
  · rw [← hdispatcher]
    exact hleft.handles
  · rw [hleft.dispatcher_eq, ← hdispatcher]

namespace Begins

theorem spends (hb : j.Begins ticket t) (hgoes : t.Goes t') (hleft : t'.Left s) :
    Spends t.session.writer.handle j.service s := by
  have hframes := hgoes.session.link.toFrames
  rw [← hgoes.session.handle_eq] at hframes ⊢
  rw [hb.link_eq] at hframes
  exact spends_left (hgoes.dispatcher_eq.trans hb.dispatcher_eq) hframes hleft

theorem kept_eq (hb : j.Begins ticket t) (hgoes : t.Goes t') (hleft : t'.Left s) :
    s.link.kept = j.service.link.kept := by
  rw [hleft.link.kept_eq, hgoes.session.link.kept_eq, hb.link_eq]

end Begins

/-- A dispatch that waits. -/
theorem Sound.settle_waits (h : j.Sound ttl) (hb : j.Begins ticket t) (hgoes : t.Goes t')
    {stage : Stage ε} (hholds : stage.Holds t'.session)
    (hechoes : ∀ recording write, stage = .replaying recording write →
      ticket.Echoes ttl j.journal recording.received) :
    (j.settle ticket.id ticket (⟨t'.dispatcher, t'.session.link⟩,
      .inFlight ⟨t'.session.writer, t'.key, stage⟩)).Sound ttl := by
  have hdispatcher := hgoes.dispatcher_eq.trans hb.dispatcher_eq
  have hframes := hgoes.session.link.toFrames
  have hfree := hb.free
  have hfits := hb.fits
  rw [← hgoes.session.handle_eq, hb.link_eq] at hframes
  rw [← hgoes.session.handle_eq] at hfree
  rw [← hgoes.key_eq] at hfits
  let f : Flight ε Ticket := ⟨ticket, t'.session.writer, t'.key, stage⟩
  have hspends : Spends f.dispatch.writer.handle j.service ⟨t'.dispatcher, t'.session.link⟩ :=
    ⟨hframes, .inr (by rw [hdispatcher]), by rw [hdispatcher]⟩
  exact h.wait hfree hspends (by rw [hdispatcher]) rfl hfits hholds hechoes

/-- A dispatch that returned an answer, and had not reported it as kept. -/
theorem Sound.settle_answered (h : j.Sound ttl) (hb : j.Begins ticket t) (hgoes : t.Goes t')
    (hleft : t'.Left s) {served : Served}
    (hechoes : served.source = .cache →
      ticket.Echoes ttl j.journal (received s.link.transport served.handle)) :
    (j.settle ticket.id ticket (s, .returned (.ok served))).Sound ttl := by
  let a : Answered := { ticket with
    ended := j.now
    served
    received := received s.link.transport served.handle
    kept := j.newlyKept s.link }
  have hkept : a.kept = none := newlyKept_of_eq (hb.kept_eq hgoes hleft)
  have ha : a.Noted ttl j.started j.now j.journal := by
    refine ⟨hb.fits.id_lt, hb.fits.known_le, Nat.le_refl _, fun path hpath => ?_, hechoes⟩
    rw [hkept] at hpath
    cases hpath
  have hnote := h.note ha fun c hc => (h.stores c hc).concat hkept
  exact hnote.leave ⟨hb.free.lent, hb.free.apart⟩ (hb.spends hgoes hleft)

/-- A dispatch that returned an answer that was kept. -/
theorem Sound.settle_kept (h : j.Sound ttl) (hb : j.Begins ticket t) {t₁ t₂ : Turn τ}
    (hgoes : t.Goes t₁) {key : String} {recording : Recording}
    (hkeeps : t₁.Keeps j.now t₂ key recording) (hleft : t₂.Left s) :
    (j.settle ticket.id ticket (s, .returned (.ok (t₁.served .ok .handler)))).Sound ttl := by
  obtain ⟨cache, cache', events, hcache, hstore, hdispatcher⟩ := hkeeps.store
  rw [hgoes.dispatcher_eq, hb.dispatcher_eq] at hcache hdispatcher
  let a : Answered := { ticket with
    ended := j.now
    served := t₁.served .ok .handler
    received := received s.link.transport t₁.session.writer.handle
    kept := j.newlyKept s.link }
  have hkept : a.kept = some key := by
    refine newlyKept_of_concat ?_
    rw [hleft.link.kept_eq, hkeeps.link.kept_eq, Link.kept_report, hgoes.session.link.kept_eq,
      hb.link_eq]
    rfl
  have hreceived : a.received = recording.received := by
    rw [← hkeeps.received_eq]
    exact (hleft.link.received_eq _).trans (hkeeps.link.received_eq _)
  have ha : a.Noted ttl j.started j.now j.journal := by
    refine ⟨hb.fits.id_lt, hb.fits.known_le, Nat.le_refl _, fun path hpath => ?_, nofun⟩
    obtain rfl : key = path := Option.some.inj (hkept.symm.trans hpath)
    obtain ⟨hmethod, hpath⟩ := hb.fits.key key (hgoes.key_eq ▸ hkeeps.key_eq)
    exact ⟨rfl, hmethod, hpath, rfl⟩
  have hstores : ∀ c, some cache' = some c → c.Stores ttl (j.journal ++ [a]) := by
    intro c hc
    cases hc
    exact (h.stores cache hcache).store hstore hkeeps.contains hkept rfl hreceived
  -- the answer is noted and stored first; what is left is a dispatch that leaves
  have hnote := h.note ha hstores
  have hframes : j.service.link.Frames t₂.session.writer.handle t₂.session.link := by
    have hframes := (hgoes.session.link.toFrames.report (.responseCached key
      recording.body.size)).trans hkeeps.link.tends.toFrames
    rwa [hb.link_eq, ← hgoes.session.handle_eq, ← hkeeps.handle_eq] at hframes
  have hspends := spends_left (s := { j.service with dispatcher.cache := some cache' }) hdispatcher
    hframes hleft
  have hfree := hb.free
  rw [← hgoes.session.handle_eq, ← hkeeps.handle_eq] at hfree
  exact hnote.leave ⟨hfree.lent, hfree.apart⟩ hspends

/-- A dispatch that is answered or fails. -/
theorem Sound.settle_comes (h : j.Sound ttl) (hb : j.Begins ticket t)
    (hcomes : t.Comes j.now s o) : (j.settle ticket.id ticket (s, o)).Sound ttl := by
  cases hcomes with
  | waits hgoes hstage hholds =>
    refine h.settle_waits hb hgoes hholds fun recording write hreplay => ?_
    rw [hreplay] at hstage
    cases hstage
  | failed hgoes hleft => exact h.leave hb.free (hb.spends hgoes hleft)
  | crashed hgoes hleft => exact h.leave hb.free (hb.spends hgoes hleft)
  | @overflowed t' _ key size _ hgoes hleft =>
    have hframes := hgoes.session.link.toFrames.report (.responseCached key size)
    have hfree := hb.free
    rw [hb.link_eq, ← hgoes.session.handle_eq] at hframes
    rw [← hgoes.session.handle_eq] at hfree
    have hdispatcher := hgoes.dispatcher_eq.trans hb.dispatcher_eq
    exact h.leave hfree
      (spends_left (t := t'.report (.responseCached key size)) hdispatcher hframes hleft)
  | answered hgoes hleft => exact h.settle_answered hb hgoes hleft nofun
  | kept hgoes hkeeps hleft => exact h.settle_kept hb hgoes hkeeps hleft

/-- A dispatch that repeats a recording. -/
theorem Sound.settle_repeats (h : j.Sound ttl) (hb : j.Begins ticket t) {recording : Recording}
    (hechoes : ticket.Echoes ttl j.journal recording.received)
    (hrepeats : t.Repeats recording s o) : (j.settle ticket.id ticket (s, o)).Sound ttl := by
  cases hrepeats with
  | waits hgoes hreplayed =>
    refine h.settle_waits hb hgoes hreplayed fun r w hstage => ?_
    cases hstage
    exact hechoes
  | stuck hgoes => exact h.settle_waits hb hgoes trivial nofun
  | failed hgoes hleft => exact h.leave hb.free (hb.spends hgoes hleft)
  | @answered t' _ hgoes hreceived hleft =>
    have hs : received s.link.transport t'.session.writer.handle = recording.received :=
      (hleft.link.received_eq _).trans hreceived
    refine h.settle_answered hb hgoes hleft fun _ => ?_
    show ticket.Echoes ttl j.journal (received s.link.transport t'.session.writer.handle)
    rwa [hs]

/-- A dispatch in flight begins a turn. -/
theorem Sound.begins (h : j.Sound ttl) {id : Nat} {f : Flight ε Ticket}
    (hf : j.flights.find? id = some f) :
    j.Begins f.tag (f.dispatch.turn j.service) := by
  obtain ⟨rfl, hflies⟩ := h.flies id f hf
  have hfree : j.Free f.tag.id f.dispatch.writer.handle :=
    ⟨hflies.lent, fun other g hg hne => h.apart f.tag.id f other g hf hg hne⟩
  exact ⟨rfl, rfl, hfree, hflies.fits⟩

/-- A dispatch in flight that went on. -/
theorem Sound.settle_carries (h : j.Sound ttl) {id : Nat} {f : Flight ε Ticket}
    (hf : j.flights.find? id = some f)
    (hcarries : (f.dispatch.turn j.service).Carries j.now f.dispatch.stage s o) :
    (j.settle id f.tag (s, o)).Sound ttl := by
  have hb := h.begins hf
  obtain ⟨rfl, hflies⟩ := h.flies id f hf
  have hechoes := hflies.echoes
  revert hcarries hechoes
  cases f.dispatch.stage with
  | replaying recording write =>
    intro hcarries hechoes
    exact h.settle_repeats hb (hechoes recording write rfl) hcarries
  | _ =>
    intro hcarries _
    exact h.settle_comes hb hcarries

/-- Handles and entries of the cache may go, as long as no response changes. -/
theorem Sound.rests (h : j.Sound ttl) (hlink : j.service.link.Rests s.link)
    (hpool : s.dispatcher.pool.handles.Sublist j.service.dispatcher.pool.handles)
    (hcache : ∀ c', s.dispatcher.cache = some c' →
      ∃ c, j.service.dispatcher.cache = some c ∧ c.Covers c') :
    { j with service := s }.Sound ttl where
  tidy := h.tidy.sublist hpool hlink.issued_of
  flies id f hf := by
    obtain ⟨hid, hflies⟩ := h.flies id f hf
    have hlent := hflies.lent
    exact ⟨hid, hflies.fits, ⟨hlink.issued_of _ hlent.issued, fun hmem =>
      hlent.unpooled (hpool.subset hmem)⟩, hflies.holds.of_received rfl (hlink.received_eq _),
      hflies.echoes⟩
  apart := h.apart
  stores c' hc' := by
    obtain ⟨c, hc, hcovers⟩ := hcache c' hc'
    exact (h.stores c hc).covers hcovers
  notes := h.notes

/-- Time passes, and requests come. -/
theorem Sound.later (h : j.Sound ttl) {started : Nat} {now : Instant}
    (hstarted : j.started ≤ started) (hnow : j.now ≤ now) :
    { j with started, now }.Sound ttl where
  tidy := h.tidy
  flies id f hf := by
    obtain ⟨hid, ⟨hlt, hknown, hkey⟩, hlent, hholds, hechoes⟩ := h.flies id f hf
    exact ⟨hid, ⟨Nat.lt_of_lt_of_le hlt hstarted, hknown, hkey⟩, hlent, hholds, hechoes⟩
  apart := h.apart
  stores := h.stores
  notes a ha := by
    obtain ⟨hid, hknown, hended, hpage, hechoes⟩ := h.notes a ha
    exact ⟨Nat.lt_of_lt_of_le hid hstarted, hknown, Nat.le_trans hended hnow, hpage, hechoes⟩

/-- A dispatch is no longer in flight. -/
theorem Sound.erase (h : j.Sound ttl) (id : Nat) :
    { j with flights := j.flights.erase id }.Sound ttl where
  tidy := h.tidy
  flies other f hf := h.flies other f (Table.of_find?_erase hf).2
  apart first f second g hf hg hne :=
    h.apart first f second g (Table.of_find?_erase hf).2 (Table.of_find?_erase hg).2 hne
  stores := h.stores
  notes := h.notes

/-- A settlement looks at the service that was only for what had been kept. -/
theorem settle_of_kept_eq (h : s.link.kept = j.service.link.kept) (id : Nat) (ticket : Ticket)
    (out : Service τ × Outcome ε) :
    { j with service := s }.settle id ticket out = j.settle id ticket out := by
  rcases out with ⟨s, (e | served) | message | dispatch⟩ <;>
    simp [settle, noted, Dispatches.settle, newlyKept, h]

/-- A turn that is opened for the next request. -/
theorem Sound.opens (h : j.Sound ttl) {request : Request} (ho : j.service.Opens t)
    (hkey : ∀ key, t.key = some key → request.cacheKey? = some key) :
    { j.next with service := ⟨t.dispatcher, t.session.link⟩ }.Sound ttl ∧
      { j.next with service := ⟨t.dispatcher, t.session.link⟩ }.Begins (j.ticket request) t ∧
      t.session.link.kept = j.next.service.link.kept := by
  obtain ⟨link, hchecks, hlink⟩ := ho.pool
  have hlends := hchecks.lends h.tidy
  have hrests := hlends.rests.trans hlink
  have hlater := h.later (Nat.le_succ j.started) (Nat.le_refl j.now.nanos)
  refine ⟨hlater.rests hrests hlends.sublist ho.cache, ⟨rfl, rfl, ⟨?_, ?_⟩, ?_⟩, ?_⟩
  · exact ⟨hlink.issued_of _ hlends.lent.issued, hlends.lent.unpooled⟩
  · exact fun other f hf _ => hlends.ne _ (h.flies other f hf).2.lent
  · exact ⟨Nat.lt_succ_self _, Nat.le_refl _, fun key hk => Request.cacheKey?_eq_some (hkey key hk)⟩
  · exact hrests.kept_eq

/-- What is found in the cache for the next request. -/
theorem Sound.echoes_get (h : j.Sound ttl) {request : Request} {cache : Cache} {key : String}
    {recording : Recording} (hcache : j.service.dispatcher.cache = some cache)
    (hkey : request.cacheKey? = some key)
    (hfound : (cache.get j.now key).2.2 = some recording) :
    (j.ticket request).Echoes ttl j.journal recording.received := by
  obtain ⟨hmethod, rfl⟩ := Request.cacheKey?_eq_some hkey
  obtain ⟨-, e, hlast, hreceived, hfresh⟩ := (h.stores cache hcache).get hfound
  obtain ⟨hmem, hkept⟩ := mem_of_lastKept hlast
  have hnoted := h.notes e hmem
  refine ⟨hmethod, e, ?_, hnoted.page _ hkept, hnoted.ended_le, hfresh, hreceived⟩
  show lastKept request.path (j.journal.take j.journal.length) = some e
  rwa [List.take_length]

/-- The next request is taken up. -/
theorem Sound.settle_starts (h : j.Sound ttl) {request : Request}
    (hstarts : j.service.Starts j.now request s o) :
    (j.next.settle j.started (j.ticket request) (s, o)).Sound ttl := by
  have hnext : j.next.Sound ttl := h.later (Nat.le_succ j.started) (Nat.le_refl j.now.nanos)
  cases hstarts with
  | @refused link e hrests =>
    exact (hnext.rests (s := ⟨j.service.dispatcher, link⟩) hrests (.refl _)
      fun c hc => ⟨c, hc, .refl c⟩).erase j.started
  | @hit t _ _ cache key recording hopens hcache hkey hfound htkey hrepeats _ =>
    obtain ⟨hsound, hbegins, hkept⟩ := h.opens hopens fun k hk => by
      rw [htkey] at hk
      cases hk
      exact hkey
    rw [← settle_of_kept_eq (s := ⟨t.dispatcher, t.session.link⟩) hkept]
    exact hsound.settle_repeats hbegins (h.echoes_get hcache hkey hfound) hrepeats
  | @called t _ _ hopens hkey hcomes =>
    obtain ⟨hsound, hbegins, hkept⟩ := h.opens hopens hkey
    rw [← settle_of_kept_eq (s := ⟨t.dispatcher, t.session.link⟩) hkept]
    exact hsound.settle_comes hbegins hcomes

theorem Sound.starts (h : j.Sound ttl) {program : Program ε} (hpatient : program.Patient)
    (request : Request) :
    j.service.Starts j.now request (j.service.start j.now request program).1
      (j.service.start j.now request program).2 := by
  refine Service.starts_start hpatient ?_ rfl
  intro cache key recording hcache hfound
  exact ((h.stores cache hcache).get hfound).1

/-- What is purged has expired. -/
theorem Sound.purge (h : j.Sound ttl) : { j with service := j.service.purge j.now }.Sound ttl := by
  unfold Service.purge
  split
  · exact h
  · rename_i cache hcache
    refine h.rests (j.service.link.rests_reportAll (cache.keptKey?_purge j.now)) (.refl _) ?_
    intro c hc
    cases hc
    exact ⟨cache, hcache, cache.covers_purge j.now⟩

theorem Sound.act (h : j.Sound ttl) {handler : Nat → Request → Program ε}
    (hpatient : ∀ id request, (handler id request).Patient) (happening : Happening τ) :
    (j.act handler happening).Sound ttl := by
  cases happening with
  | start request => exact h.settle_starts (h.starts (hpatient j.started request) request)
  | resume id =>
    rw [act_resume]
    split
    · exact h
    · rename_i f hf
      exact h.settle_carries hf (Service.carries_resume (h.flies id f hf).2.holds rfl)
  | answer id n =>
    rw [act_answer]
    split
    · exact h
    · rename_i f hf
      exact h.settle_carries hf (Service.carries_answer (h.flies id f hf).2.holds rfl)
  | cancel id =>
    rw [act_cancel]
    split
    · exact h
    · rename_i f hf
      have hb := h.begins hf
      obtain ⟨rfl, -⟩ := h.flies id f hf
      exact h.leave hb.free (hb.spends (.refl _) (Turn.left_leave _))
  | advance d => exact h.later (Nat.le_refl _) (Nat.le_add_right _ _)
  | sweep => exact h.purge
  | outside o => exact h.rests (o.rests j.service.link) (.refl _) fun c hc => ⟨c, hc, .refl c⟩

theorem Sound.run (h : j.Sound ttl) {handler : Nat → Request → Program ε}
    (hpatient : ∀ id request, (handler id request).Patient) (happenings : List (Happening τ)) :
    (j.run handler happenings).Sound ttl := by
  induction happenings generalizing j with
  | nil => exact h
  | cons happening rest ih => exact ih (h.act hpatient happening)

end

end Journaled

end Sluice
