import Sluice.Proofs.Sending.TracedDispatch
import Sluice.Proofs.Serving.Composed
import Sluice.Proofs.Writing.Strokes

/-!
# As when alone

A request that has a freshly built dispatcher and an unbounded transport to itself is answered in
the end, if its handler is steady. The same request, taken up by a dispatcher that has others at
work, on handles that others had before and with buffers that others drain, is answered with the
same status or error, and the transport is given the same response. Only where nothing is sent is
there still what was there before.
-/
namespace Sluice

/-! ## What was just built -/

namespace Loopback

/-- The second transport is the first, but for handles that were allocated since. -/
def Allots (t t' : Loopback) : Prop := t' = { t with allocated := t'.allocated }

variable {t t₁ t₂ : Loopback}

theorem Allots.trans (h : Allots t t₁) (h' : Allots t₁ t₂) : Allots t t₂ := by
  unfold Allots at *
  rw [h'] at *
  rw [h]

theorem Allots.capacity_eq (h : Allots t t₁) : t₁.capacity = t.capacity := by rw [h]

theorem Allots.exchanges_eq (h : Allots t t₁) : t₁.exchanges = t.exchanges := by rw [h]

end Loopback

theorem Pool.allots_allocateMany (l : Link Loopback) (done : List HandleId) (missing : Nat) :
    l.transport.Allots (allocateMany l done missing).1.transport := by
  induction missing generalizing l done with
  | zero => rfl
  | succ missing ih =>
    have hone : l.transport.Allots l.allocate.1.transport := rfl
    exact hone.trans (ih l.allocate.1 _)

theorem Pool.allots_checkout (p : Pool) (l : Link Loopback) :
    l.transport.Allots (p.checkout l).2.1.transport := by
  unfold checkout
  split <;> rfl

/-- To build a dispatcher handles are allocated, and nothing else is asked of the transport. -/
theorem Dispatcher.allots_build {settings : Settings} {context : BuildContext}
    {l l' : Link Loopback} {d : Dispatcher} {interval : Option Duration}
    (h : build settings context l = (l', .ok (d, interval))) : l.transport.Allots l'.transport := by
  obtain ⟨-, ⟨l₁, hpool, htransport⟩, -, -⟩ := builds_build h
  rw [htransport]
  rcases buildPool_eq_ok hpool with ⟨-, rfl⟩ | ⟨l₂, hmany, hsame⟩
  · rfl
  · have hallots := Pool.allots_allocateMany l [] settings.pool.capacity
    rw [hmany, ← hsame] at hallots
    exact hallots

/-! ## An unbounded transport -/

/-- A transport with room for everything, and nothing on it yet. -/
def Link.unused : Link Loopback := { transport := {} }

namespace Loopback

/-- What a call does to the transport, it does with its capacity as it is. -/
theorem capacity_sendSection (t : Loopback) (handle : HandleId) (status : Http.Status)
    (layout : Layout) (fields : List (FieldName × FieldValue)) :
    (Transport.sendSection t handle status layout fields).1.capacity = t.capacity := by
  refine Transport.sendSection_induct (P := fun u : Loopback => u.capacity = t.capacity)
    (fun u _ _ hu => hu) (fun u name value hu => ?_) (fun u hu => ?_) rfl status layout fields
  · show (u.addField handle name value).1.capacity = t.capacity
    rcases hcall : u.addField handle name value with ⟨u', e | ⟨⟨⟩⟩⟩
    · rwa [addField_eq_error hcall]
    · rwa [addField_eq_ok hcall]
  · show (u.sendHeaders handle).1.capacity = t.capacity
    rcases hcall : u.sendHeaders handle with ⟨u', e | ⟨⟨⟩⟩⟩
    · rwa [sendHeaders_eq_error hcall]
    · rwa [sendHeaders_eq_ok hcall]

end Loopback

namespace Session

variable {s s' : Session Loopback} {now : Instant} {body : ByteArray}

theorem Stroke.capacity_eq (h : Stroke s s') :
    s'.link.transport.capacity = s.link.transport.capacity := by
  cases h with
  | notes => rfl
  | reports => rfl
  | @sends status layout fields link answer hsend =>
    have hcapacity := s.link.transport.capacity_sendSection s.writer.handle status layout fields
    rwa [(Link.sendSection_eq_iff.1 hsend).1] at hcapacity
  | offers chunk =>
    rw [transport_offer]
    rfl
  | registers => rw [transport_register]
  | unregisters => rw [transport_unregister]
  | takes => rw [Link.transport_setBoard]

theorem Strokes.capacity_eq (h : Strokes s s') :
    s'.link.transport.capacity = s.link.transport.capacity := by
  induction h with
  | refl => rfl
  | tail _ hstroke ih => exact hstroke.capacity_eq.trans ih

/-- Where there is room for everything, every offer is accepted as a whole. -/
theorem offer_eq_size {chunk : ByteArray} {a : Nat} (h : s.offer chunk = (s', a))
    (hunbounded : s.link.transport.capacity = none) : a = chunk.size := by
  obtain rfl : (s.offer chunk).2 = a := congrArg Prod.snd h
  have haccepted : (s.link.offer s.writer.handle chunk).2 = chunk.size := by
    show Loopback.room s.link.transport.capacity _ chunk.size = chunk.size
    rw [hunbounded]
    rfl
  show min (s.link.offer s.writer.handle chunk).2 chunk.size = chunk.size
  rw [haccepted, Nat.min_self]

/-- So no body has to wait. -/
theorem Pours.finished {n : Nat} {p : Progress} (h : Pours now body s n s' p)
    (hunbounded : s.link.transport.capacity = none) (hchunk : s.writer.settings.chunkSize ≠ 0) :
    ∃ result, p = .finished result := by
  have hwhole {s s₁ : Session Loopback} {n a : Nat} (hn : n < body.size)
      (hunbounded : s.link.transport.capacity = none)
      (hoffer : s.offer (body.extract n (s.chunkEnd body n)) = (s₁, a)) :
      ¬ n + a < s.chunkEnd body n := by
    have hle : s.chunkEnd body n ≤ body.size := Nat.min_le_left _ _
    rw [offer_eq_size hoffer hunbounded, ByteArray.size_extract]
    omega
  induction h with
  | done => exact ⟨_, rfl⟩
  | endless _ hzero => exact absurd hzero hchunk
  | whole _ _ hoffer _ _ ih =>
    have hcapacity := (strokes_offer hoffer).capacity_eq
    obtain rfl : (Session.offer _ _).1 = _ := congrArg Prod.fst hoffer
    exact ih (hcapacity.trans hunbounded) hchunk
  | retried hn _ hoffer hshort => exact absurd hshort (hwhole hn hunbounded hoffer)
  | blocked hn _ hoffer hshort => exact absurd hshort (hwhole hn hunbounded hoffer)

/-- A write is over at once. -/
theorem Writes.finished {p : Progress} (h : Writes now body s s' p)
    (hunbounded : s.link.transport.capacity = none) (hchunk : s.writer.settings.chunkSize ≠ 0) :
    ∃ result, p = .finished result := by
  cases h with
  | failed => exact ⟨_, rfl⟩
  | pours hflush hpours =>
    refine hpours.finished (hflush.strokes.capacity_eq.trans hunbounded) ?_
    rwa [hflush.gives.settings_eq]

end Session

/-! ## A request that has it to itself -/

section

variable {ε : Type}

/-- An unbounded transport, and a writer in no hurry. -/
structure Turn.Roomy (t : Turn Loopback) : Prop extends t.Plain where
  capacity_eq : t.session.link.transport.capacity = none

theorem Turn.Roomy.session {t : Turn Loopback} (h : t.Roomy) {s : Session Loopback}
    (hstrokes : t.session.Strokes s) (hsettings : s.writer.settings = t.session.writer.settings) :
    Roomy { t with session := s } where
  toPlain := h.toPlain.session hsettings
  capacity_eq := hstrokes.capacity_eq.trans h.capacity_eq

/-- With no key to keep it under, an answer is over once it is complete. -/
theorem Turn.Completes.verdict {t : Turn Loopback} {now : Instant} {s : Service Loopback}
    {o : Outcome ε} (h : t.Completes now s o) (hkey : t.key = none) :
    ∃ verdict, o.verdict? = some verdict := by
  cases h with
  | fails => exact ⟨_, rfl⟩
  | files _ hfiles =>
    obtain ⟨-, rfl⟩ := hfiles.eq_of_key_eq_none hkey
    exact ⟨_, rfl⟩

namespace Journaled

/-- In the course of these happenings, none of them another request, a dispatch is over. -/
def Concludes {τ : Type} [Transport τ] [Transport.Obliging τ] (handler : Nat → Request → Program ε)
    (j : Journaled τ ε) (ending : Over) : Prop :=
  ∃ happenings last, (∀ request, .start request ∉ happenings ++ [last]) ∧
    (j.run handler happenings).over? handler last = some ending

variable {handler : Nat → Request → Program ε} {j : Journaled Loopback ε} {x : Happening Loopback}

theorem Concludes.after {ending : Over} (hx : ∀ request, x ≠ .start request)
    (h : Concludes handler (j.act handler x) ending) : Concludes handler j ending := by
  obtain ⟨happenings, last, hothers, hending⟩ := h
  refine ⟨x :: happenings, last, fun request hmem => ?_, hending⟩
  rcases List.mem_cons.1 hmem with heq | hmem
  · exact hx request heq.symm
  · exact hothers request hmem

/-- The dispatch with this number is over with what it came to, or it will be. -/
def Finishes (handler : Nat → Request → Program ε) (j : Journaled Loopback ε) (id : Nat)
    (ticket : Ticket) (out : Service Loopback × Outcome ε) : Prop :=
  (∃ verdict, out.2.verdict? = some verdict) ∨
    ∃ ending, Concludes handler (j.settle id ticket out) ending

variable {id : Nat} {ticket : Ticket}

/-- A dispatch is over with its turn, or later. -/
theorem concludes_turn {handle : HandleId} {s : Service Loopback} {o : Outcome ε}
    (hx : ∀ request, x ≠ .start request) (hturn : j.turnOn? handler x = some (id, handle, s, o))
    (hact : j.act handler x = j.settle id ticket (s, o))
    (h : j.Finishes handler id ticket (s, o)) : ∃ ending, Concludes handler j ending := by
  rcases h with ⟨verdict, hverdict⟩ | ⟨ending, hending⟩
  · let ending : Over := ⟨id, handle, verdict, Transport.Faithful.received s.link.transport handle⟩
    have hending : j.over? handler x = some ending :=
      over?_eq_some_iff.2 ⟨s, o, hturn, hverdict, rfl⟩
    exact ⟨ending, [], x, fun request hmem => hx request (List.mem_singleton.1 hmem).symm, hending⟩
  · rw [← hact] at hending
    exact ⟨ending, hending.after hx⟩

/-- Who sleeps is woken. -/
theorem concludes_sleep {t : Turn Loopback} {length : Duration} {next : Program ε}
    (h : ∀ j : Journaled Loopback ε, j.Finishes handler id ticket (t.run j.now next))
    (j : Journaled Loopback ε) :
    ∃ ending, Concludes handler
      (j.settle id ticket (t.suspend (.sleeping (j.now.timer length) next))) ending := by
  let wake := j.now.timer length
  let f : Flight ε Ticket := ⟨ticket, t.session.writer, t.key, .sleeping wake next⟩
  let slept : Journaled Loopback ε :=
    (j.settle id ticket (t.suspend (.sleeping wake next))).act handler
      (.advance ⟨length.nanos + Instant.graduation.nanos⟩)
  have hf : slept.flights.find? id = some f := Table.find?_insert_self ..
  have hwake : wake ≤ slept.now :=
    Nat.le_trans (j.now.timer_le_after length) (Nat.le_of_eq (Nat.add_assoc ..))
  have hresume : slept.service.resume slept.now f.dispatch = t.run slept.now next := by
    simp only [Service.resume, Dispatch.isReady, f, decide_eq_true hwake, if_true]
    rfl
  have hturn : slept.turnOn? handler (.resume id) =
      some (id, t.session.writer.handle, t.run slept.now next) := by
    rw [turnOn?_resume, hf, Option.map_some, hresume]
  have hact : slept.act handler (.resume id) =
      slept.settle id ticket (t.run slept.now next) := by
    simp only [act_resume, hf, hresume]
    rfl
  obtain ⟨ending, hending⟩ := concludes_turn (fun _ h => by cases h) hturn hact (h slept)
  exact ⟨ending, hending.after fun _ h => by cases h⟩

/-- Who asks is answered. -/
theorem concludes_ask {t : Turn Loopback} {question : ε} {next : Nat → Program ε}
    (h : ∀ j : Journaled Loopback ε, j.Finishes handler id ticket (t.run j.now (next 0)))
    (j : Journaled Loopback ε) :
    ∃ ending, Concludes handler (j.settle id ticket (t.suspend (.asking question next)))
      ending := by
  let f : Flight ε Ticket := ⟨ticket, t.session.writer, t.key, .asking question next⟩
  let asked : Journaled Loopback ε := j.settle id ticket (t.suspend (.asking question next))
  have hf : asked.flights.find? id = some f := Table.find?_insert_self ..
  have hturn : asked.turnOn? handler (.answer id 0) =
      some (id, t.session.writer.handle, t.run asked.now (next 0)) := by
    rw [turnOn?_answer, hf, Option.map_some]
    rfl
  have hact : asked.act handler (.answer id 0) =
      asked.settle id ticket (t.run asked.now (next 0)) := by
    simp only [act_answer, hf]
    rfl
  exact concludes_turn (fun _ h => by cases h) hturn hact (h asked)

/-- A steady handler gets to its end where there is room for everything and nobody is in its way. -/
theorem finishes_run {program : Program ε} (hsteady : program.Steady) {t : Turn Loopback}
    (ht : t.Roomy) (j : Journaled Loopback ε) :
    j.Finishes handler id ticket (t.run j.now program) := by
  -- on the handler's tree: writes do not wait, and whatever else waits can be made to go on
  induction program generalizing t j with
  | finish => exact .inl ((Turn.completes_complete rfl).verdict ht.key_eq)
  | fail cause => exact .inl ⟨_, rfl⟩
  | crash message => exact .inl ⟨_, rfl⟩
  | edit change next ih =>
    exact ih hsteady (ht.session (t.session.strokes_edit change) rfl) j
  | inspect next ih => exact ih _ (hsteady _).2 ht j
  | writeHeader status next ih =>
    have hheads := t.session.heads_writeHeader status
    exact ih _ (hsteady _) (ht.session hheads.strokes hheads.gives.settings_eq) j
  | flush next ih =>
    have hflush := t.session.flushes_flush
    exact ih _ (hsteady _) (ht.session hflush.strokes hflush.gives.settings_eq) j
  | write body patience next ih =>
    obtain ⟨rfl, hnext⟩ := hsteady
    have hwrites := t.session.writes_write j.now body
    have ht₁ := ht.session hwrites.strokes hwrites.settings_eq
    obtain ⟨result, hresult⟩ := hwrites.finished ht.capacity_eq ht.unhurried.chunkSize_ne
    revert hresult ht₁
    simp only [Turn.run]
    rcases t.session.write j.now body with ⟨session, p⟩
    rintro ht₁ rfl
    exact ih _ (hnext result) ht₁ j
  | sleep length next ih => exact .inr (concludes_sleep (ih hsteady ht) j)
  | ask question next ih => exact .inr (concludes_ask (ih 0 (hsteady 0).2 ht) j)

theorem capacity_opened {s : Service Loopback} {t : Turn Loopback} (ht : s.opened? = some t) :
    t.session.link.transport.capacity = s.link.transport.capacity := by
  have hallots := s.dispatcher.pool.allots_checkout s.link
  unfold Service.opened? at ht
  split at ht
  · cases ht
  · rename_i pool link handle hcheckout
    cases ht
    rw [hcheckout] at hallots
    exact hallots.capacity_eq

/-- On a loopback transport there is a handle for everybody. -/
theorem opened?_ne_none (s : Service Loopback) : s.opened? ≠ none := by
  unfold Service.opened? Pool.checkout
  split
  · rename_i hcheckout
    split at hcheckout <;> cases hcheckout
  · exact Option.some_ne_none _

end Journaled

end

namespace Journaled

variable {τ ε : Type} [Transport τ] [Transport.Obliging τ]
open Transport.Faithful

/-- The request is the only one, and its dispatch is over so. -/
def OverAlone (first : Journaled τ ε) (handler : Request → Program ε) (request : Request)
    (ending : Over) : Prop :=
  ∃ happenings last rest, happenings ++ [last] = .start request :: rest ∧
    (∀ other, .start other ∉ rest) ∧
    (first.run (fun _ => handler) happenings).over? (fun _ => handler) last = some ending

/-- A request that has a freshly built dispatcher to itself is answered in the end. -/
theorem exists_overAlone {settings : Settings} {context : BuildContext} {l : Link Loopback}
    {d : Dispatcher} {interval : Option Duration}
    (hbuild : Dispatcher.build settings context .unused = (l, .ok (d, interval)))
    (hunhurried : settings.writer.Unhurried) {handler : Request → Program ε} {request : Request}
    (hsteady : (handler request).Steady)
    (huncached : d.cache = none ∨ request.cacheKey? = none) :
    ∃ ending, (opening d l).OverAlone handler request ending := by
  obtain ⟨t, ht⟩ := Option.ne_none_iff_exists'.1 (opened?_ne_none ⟨d, l⟩)
  have hopened := Service.opened_of_opened? ht
  have hroomy : t.Roomy := by
    refine ⟨⟨hopened.key_eq, ?_⟩, ?_⟩
    · rw [hopened.settings_eq, (Dispatcher.built_build hbuild).settings_eq]
      exact hunhurried
    · rw [capacity_opened ht]
      exact (Dispatcher.allots_build hbuild).capacity_eq
  let x : Happening Loopback := .start request
  let first : Journaled Loopback ε := opening d l
  have hstart : first.service.start first.now request (handler request) =
      t.run first.now (handler request) :=
    Service.start_of_opened? huncached ht _
  have hact : first.act (fun _ => handler) x =
      first.next.settle 0 (first.ticket request) (t.run first.now (handler request)) := by
    rw [← hstart]
    rfl
  have hturn : first.turnOn? (fun _ => handler) x =
      some (0, t.session.writer.handle, t.run first.now (handler request)) := by
    have hopened? : first.service.opened? = some t := ht
    rw [turnOn?_start, hopened?, Option.map_some, ← hstart]
    rfl
  have hrun : first.next.Finishes (fun _ => handler) 0 (first.ticket request)
      (t.run first.now (handler request)) :=
    finishes_run hsteady hroomy first.next
  rcases hrun with ⟨verdict, hverdict⟩ | ⟨ending, happenings, last, hothers, hending⟩
  · let ending : Over := ⟨0, t.session.writer.handle, verdict, Transport.Faithful.received
      (t.run first.now (handler request)).1.link.transport t.session.writer.handle⟩
    have hending : first.over? (fun _ => handler) x = some ending :=
      over?_eq_some_iff.2 ⟨_, _, hturn, hverdict, rfl⟩
    exact ⟨ending, [], x, [], rfl, fun _ hmem => absurd hmem List.not_mem_nil, hending⟩
  · refine ⟨ending, x :: happenings, last, happenings ++ [last], rfl, hothers, ?_⟩
    rw [← hending]
    show ((first.act (fun _ => handler) x).run _ happenings).over? _ last = _
    rw [hact]

/-- Two dispatches of one handler for one request differ in what was on their handles before. -/
theorem alike_of_run_blank {before before' : Received} {program : Program ε} {ending alone : Over}
    (hverdict : ((Draft.blank before).run program).2 = ending.verdict)
    (hreceived : ((Draft.blank before).run program).1.received = ending.received)
    (hverdict' : ((Draft.blank before').run program).2 = alone.verdict)
    (hreceived' : ((Draft.blank before').run program).1.received = alone.received) :
    ending.verdict = alone.verdict ∧ (ending.received = alone.received ∨
      ending.received = before ∧ alone.received = before' ∧ ending.verdict.Unsent) := by
  have hrebase (r : Received) : (Draft.blank r).run program =
      (((Draft.blank before).run program).1.rebase r, ((Draft.blank before).run program).2) :=
    (Draft.blank before).run_rebase r program
  rw [hrebase before'] at hverdict' hreceived'
  refine ⟨hverdict.symm.trans hverdict', ?_⟩
  cases hsent : ((Draft.blank before).run program).1.sent with
  | some status =>
    rw [Draft.rebase_of_sent (by simp [hsent])] at hreceived'
    exact .inl (hreceived.symm.trans hreceived')
  | none =>
    have hbefore := congrArg (fun out => out.1.received) (hrebase before)
    refine .inr ⟨?_, ?_, ?_⟩
    · rw [← hreceived, hbefore, Draft.received_rebase_of_unsent hsent]
    · rw [← hreceived', Draft.received_rebase_of_unsent hsent]
    · rw [← hverdict]
      exact Draft.unsent_run hsent

/-- What a dispatch that had it all to itself came to. -/
theorem OverAlone.run_blank {settings : Settings} {context : BuildContext} {l : Link Loopback}
    {d : Dispatcher} {interval : Option Duration}
    (hbuild : Dispatcher.build settings context .unused = (l, .ok (d, interval)))
    (hunhurried : settings.writer.Unhurried) {handler : Request → Program ε} {request : Request}
    (hsteady : ∀ request, (handler request).Steady)
    (huncached : d.cache = none ∨ request.cacheKey? = none) {alone : Over}
    (h : (opening d l).OverAlone handler request alone) :
    ((Draft.blank {}).run (handler request)).2 = alone.verdict ∧
      ((Draft.blank {}).run (handler request)).1.received = alone.received := by
  obtain ⟨happenings, last, rest, hlist, hothers, hending⟩ := h
  have hstarts (other : Request) (hmem : .start other ∈ happenings ++ [last]) :
      other = request := by
    rw [hlist] at hmem
    rcases List.mem_cons.1 hmem with heq | hmem
    · cases heq
      rfl
    · exact absurd hmem (hothers other)
  obtain ⟨other, before, ⟨earlier, later, hcame, -, hbefore⟩, hverdict, hreceived⟩ :=
    over_eq_run_blank hbuild hunhurried (fun _ => hsteady) happenings last
      (fun other hmem => hstarts other hmem ▸ huncached) hending
  -- nothing happened before the request came
  obtain rfl : earlier = [] := by
    cases earlier with
    | nil => rfl
    | cons x earlier =>
      rw [hlist, List.cons_append, List.cons.injEq] at hcame
      exact absurd (hcame.2 ▸ List.mem_append_right _ List.mem_cons_self) (hothers other)
  rw [hlist, List.nil_append, List.cons.injEq] at hcame
  cases hcame.1
  have hempty : received l.transport alone.handle = {} := by
    have hexchanges := (Dispatcher.allots_build hbuild).exchanges_eq
    show (l.transport.exchange alone.handle).received = {}
    rw [Loopback.exchange, hexchanges]
    rfl
  obtain rfl : before = {} := hbefore.symm.trans hempty
  exact ⟨hverdict, hreceived⟩

/-- Dispatches do not influence each other's responses. A dispatcher works on a transport that takes
every header section, with whatever capacity and with drains and acknowledgments at any time;
requests that do not use the cache come, and steady handlers go on in any order, on new handles and
on old ones. A dispatch that is over has the status or the error that it has when its request is the
only one, on an unbounded transport, and in that case it does end. The transport holds the same
response, or nothing was sent at all, because the header section did not fit or the handler
panicked: then there is what was there when the request came, where there would be nothing. -/
theorem over_eq_alone {settings : Settings} {context context' : BuildContext} {l l' : Link τ}
    {u : Link Loopback} {d d' : Dispatcher} {interval interval' : Option Duration}
    (hbuild : Dispatcher.build settings context l = (l', .ok (d, interval)))
    (halone : Dispatcher.build settings context' .unused = (u, .ok (d', interval')))
    (huntimed : settings.writer.ackTimeoutMs = none) {handler : Nat → Request → Program ε}
    (hsteady : ∀ id request, (handler id request).Steady) (happenings : List (Happening τ))
    (last : Happening τ) (huncached : ∀ request, .start request ∈ happenings ++ [last] →
      settings.cache.enabled = false ∨ request.method ≠ .get) {ending : Over}
    (hending : ((opening d l').run handler happenings).over? handler last = some ending) :
    ∃ request before,
      Came handler (opening d l') (happenings ++ [last]) ending.id ending.handle request before ∧
      (∃ alone, (opening d' u).OverAlone (handler ending.id) request alone) ∧
      ∀ alone, (opening d' u).OverAlone (handler ending.id) request alone →
        ending.verdict = alone.verdict ∧ (ending.received = alone.received ∨
          ending.received = before ∧ alone.received = {} ∧ ending.verdict.Unsent) := by
  have hbuilt := Dispatcher.built_build hbuild
  have hbuilt' := Dispatcher.built_build halone
  have hunhurried : settings.writer.Unhurried := ⟨hbuilt.chunkSize_ne, huntimed⟩
  have huncached_of {d : Dispatcher} {request : Request} (hbuilt : Dispatcher.Built settings d)
      (h : settings.cache.enabled = false ∨ request.method ≠ .get) :
      d.cache = none ∨ request.cacheKey? = none :=
    h.imp hbuilt.cache fun hmethod => if_neg hmethod
  obtain ⟨request, before, hcame, hverdict, hreceived⟩ :=
    over_eq_run_blank hbuild hunhurried hsteady
    happenings last (fun request hmem => huncached_of hbuilt (huncached request hmem)) hending
  have halone' : d'.cache = none ∨ request.cacheKey? = none := by
    obtain ⟨earlier, later, hlist, -⟩ := hcame
    exact huncached_of hbuilt' (huncached request (by simp [hlist]))
  refine ⟨request, before, hcame, exists_overAlone halone hunhurried (hsteady _ _) halone',
    fun alone hending' => ?_⟩
  obtain ⟨hverdict', hreceived'⟩ := hending'.run_blank halone hunhurried (hsteady ending.id) halone'
  exact alike_of_run_blank hverdict hreceived hverdict' hreceived'

/-- Settings without a cache, and with a pool that keeps one handle. -/
def sparse : Settings := { pool := { capacity := 1 }, cache := { enabled := false } }

/-- The dispatcher that is built of them. -/
def sparseDispatcher : Dispatcher := ⟨.shared, { capacity := 1 }, none, sparse⟩

/-- A link once such a dispatcher was built on it. -/
def sparseBuilt (l : Link Loopback) : Link Loopback := l.report (.dispatcherBuilt 1 false 65536)

/-- Each request has a body of its own. -/
def lettered (id : Nat) (_ : Request) : Program Empty :=
  .write (["abcdef", "klm", "uvwxyz"].getD id "").toUTF8 none fun _ => .finish

/-- The first and the third response wait for room, the third on the handle that the second had. -/
def crossed : List (Happening Loopback) :=
  [.start ⟨.get, "/a"⟩, .start ⟨.get, "/b"⟩, .start ⟨.get, "/c"⟩, .outside (.drain ⟨2⟩),
    .outside (.drain ⟨1⟩), .outside (.raise (.ackAll 1)), .resume 2]

theorem over_eq_alone_crossed :
    ∃ request alone,
      (opening sparseDispatcher (sparseBuilt .unused)).OverAlone (lettered 0) request alone ∧
      alone.verdict = .served .ok ∧ alone.received.body = "abcdef".toUTF8 := by
  have hbuild (l : Link Loopback) : Dispatcher.build sparse {} l =
      (sparseBuilt l, .ok (sparseDispatcher, none)) := rfl
  let ending : Over := ⟨0, ⟨1⟩, .served .ok, ⟨some .ok,
    [(FieldName.contentType.bytes, FieldValue.defaultContentType.bytes)], true, "abcdef".toUTF8⟩⟩
  have hending : ((opening sparseDispatcher (sparseBuilt Course.shortLink)).run lettered
      crossed).over? lettered (.resume 0) = some ending := by
    decide +kernel
  have hsteady (id : Nat) (request : Request) : (lettered id request).Steady :=
    ⟨rfl, fun _ => trivial⟩
  obtain ⟨request, before, -, ⟨alone, halone⟩, hsame⟩ := over_eq_alone (hbuild Course.shortLink)
    (hbuild .unused) rfl hsteady crossed (.resume 0) (fun _ _ => .inl rfl) hending
  obtain ⟨hverdict, hreceived | ⟨-, -, hunsent⟩⟩ := hsame alone halone
  · exact ⟨request, alone, halone, hverdict.symm, congrArg Received.body hreceived.symm⟩
  · exact hunsent.elim

/-- The second handler sets a field that does not fit. -/
def hushed (id : Nat) (_ : Request) : Program Empty :=
  if id = 0 then .write "pin".toUTF8 none fun _ => .finish else TracedDispatch.longNamed

/-- Nothing is sent for the second request, and its handle still holds the response to the first.
Alone, it holds none. -/
theorem over_ne_alone :
    ∃ ending alone, ((opening sparseDispatcher (sparseBuilt Course.shortLink)).run hushed
        [.start ⟨.get, "/a"⟩]).over? hushed (.start ⟨.get, "/b"⟩) = some ending ∧
      (opening sparseDispatcher (sparseBuilt .unused)).OverAlone (hushed 1) ⟨.get, "/b"⟩ alone ∧
      ending.verdict = alone.verdict ∧ ending.received.status = some .ok ∧
      ending.received.body = "pin".toUTF8 ∧ alone.received = {} := by
  let verdict : Verdict := .failed (.write (.fieldTooLarge (.nameTooLong 256)))
  let ending : Over := ⟨1, ⟨1⟩, verdict, ⟨some .ok,
    [(FieldName.contentType.bytes, FieldValue.defaultContentType.bytes)], true, "pin".toUTF8⟩⟩
  have hending : ((opening sparseDispatcher (sparseBuilt Course.shortLink)).run hushed
      [.start ⟨.get, "/a"⟩]).over? hushed (.start ⟨.get, "/b"⟩) = some ending := by
    decide +kernel
  have halone : (opening sparseDispatcher (sparseBuilt .unused)).over? (fun _ => hushed 1)
      (.start ⟨.get, "/b"⟩) = some ⟨0, ⟨1⟩, verdict, {}⟩ := by
    decide +kernel
  exact ⟨ending, ⟨0, ⟨1⟩, verdict, {}⟩, hending, ⟨[], _, [], rfl, nofun, halone⟩,
    rfl, rfl, rfl, rfl⟩

end Journaled

end Sluice
