import Sluice.Dispatch.Build
import Sluice.Proofs.Sending.Exits
import Sluice.Transport.Loopback

/-!
# What a dispatch that returned has sent

One dispatch is followed from its request to its return, with the calls that were made for it.
Between its turns everybody else does with the service what they like: other dispatches are carried
on, the cache is swept, buffers are drained. Where the transport refuses no header call, it has sent
one header section, or it returned the error that its fields do not fit, and has sent nothing.
-/
namespace Sluice

/-- One dispatch, and the calls that were made for it. -/
structure TracedDispatch (τ ε : Type) where
  service : Service (Tapped τ)
  outcome : Outcome ε
  calls : List TransportCall

namespace TracedDispatch

variable {τ ε : Type}

/-- What can happen next. -/
inductive Move (τ : Type) where
  /-- The dispatch is looked at, and goes on if it can. -/
  | resume (now : Instant)
  | answer (now : Instant) (n : Nat)
  /-- Others have the service. -/
  | others (change : Service (Tapped τ) → Service (Tapped τ))

/-- The calls that were heard from one service to the next. -/
def heard (s s' : Service (Tapped τ)) : List TransportCall :=
  s'.link.transport.calls.drop s.link.transport.calls.length

theorem heard_eq {s s' : Service (Tapped τ)} {calls : List TransportCall}
    (h : s'.link.transport.calls = s.link.transport.calls ++ calls) : heard s s' = calls := by
  rw [heard, h, List.drop_left]

/-- What the dispatch returned. -/
def result? (r : TracedDispatch τ ε) : Option (Except DispatchError Served) :=
  match r.outcome with
  | .returned result => some result
  | _ => none

/-- The calls that write a response. -/
def written (r : TracedDispatch τ ε) : List TransportCall :=
  r.calls.filter fun c => c.writesOn?.isSome

theorem filter_isSend_written (r : TracedDispatch τ ε) :
    r.written.filter TransportCall.isSend = r.calls.filter TransportCall.isSend := by
  rw [written, List.filter_filter]
  apply List.filter_congr
  intro c _
  cases c <;> simp [TransportCall.isSend, TransportCall.writesOn?]

/-- One header section was sent, on this handle and with this status. -/
structure SentOnce (r : TracedDispatch τ ε) (handle : HandleId) (status : Http.Status) : Prop where
  once : r.calls.filter TransportCall.isSend = [.header handle .send (.ok ())]
  /-- It is whole, and offers follow. -/
  written : ∃ t : HeaderTry, t.status = status ∧ ∃ offers,
    r.written = t.sentCalls handle ++ offers ∧ ∀ c ∈ offers, ∃ chunk n, c = .offer handle chunk n

theorem filter_isSend_sentCalls (t : HeaderTry) (handle : HandleId) :
    (t.sentCalls handle).filter TransportCall.isSend = [.header handle .send (.ok ())] := by
  have hfields (fields : List (FieldName × FieldValue)) :
      ((fields.map fun f => HeaderStep.field f.1.bytes f.2.bytes).map fun step =>
        TransportCall.header handle step (.ok ())).filter TransportCall.isSend = [] := by
    apply List.filter_eq_nil_iff.2
    intro c hc
    obtain ⟨step, hstep, rfl⟩ := List.mem_map.1 hc
    obtain ⟨f, -, rfl⟩ := List.mem_map.1 hstep
    exact Bool.false_ne_true
  rw [HeaderTry.sentCalls, HeaderTry.steps, HeaderStep.ofSection, List.map_append,
    List.filter_append, List.map_cons, List.filter_cons_of_neg Bool.false_ne_true, hfields]
  rfl

/-- Offers say nothing of a header section. -/
theorem filter_isSend_offers {handle : HandleId} {offers : List TransportCall}
    (h : ∀ c ∈ offers, ∃ chunk n, c = .offer handle chunk n) :
    offers.filter TransportCall.isSend = [] := by
  apply List.filter_eq_nil_iff.2
  intro c hc
  obtain ⟨chunk, n, rfl⟩ := h c hc
  exact Bool.false_ne_true

/-- A section that goes out with offers behind it is the only one. -/
theorem sentOnce_of_written {r : TracedDispatch τ ε} {handle : HandleId} {t : HeaderTry}
    {offers : List TransportCall}
    (hwritten : r.written = t.sentCalls handle ++ offers)
    (hoffers : ∀ c ∈ offers, ∃ chunk n, c = .offer handle chunk n) :
    r.SentOnce handle t.status := by
  refine ⟨?_, t, rfl, offers, hwritten, hoffers⟩
  rw [← filter_isSend_written, hwritten, List.filter_append, filter_isSend_sentCalls,
    filter_isSend_offers hoffers]
  rfl

/-- A turn of the dispatch is over. -/
def goOn (r : TracedDispatch τ ε) : Service (Tapped τ) × Outcome ε → TracedDispatch τ ε
  | (s, o) => ⟨s, o, r.calls ++ heard r.service s⟩

variable [Transport τ]

def start (s : Service (Tapped τ)) (now : Instant) (request : Request) (program : Program ε) :
    TracedDispatch τ ε :=
  let (s', o) := s.start now request program
  ⟨s', o, heard s s'⟩

def act (r : TracedDispatch τ ε) (move : Move τ) : TracedDispatch τ ε :=
  match move, r.outcome with
  | .resume now, .inFlight d => r.goOn (r.service.resume now d)
  | .answer now n, .inFlight d => r.goOn (r.service.answer now d n)
  | .others change, _ => { r with service := change r.service }
  | _, _ => r

def run (r : TracedDispatch τ ε) (moves : List (Move τ)) : TracedDispatch τ ε := moves.foldl act r

end TracedDispatch

/-! ## What holds at every moment -/

/-- How far a dispatch on this handle came that has said this. -/
def Outcome.Stands {ε : Type} (may : Http.Status → Prop) (handle : HandleId)
    (said : List TransportCall) : Outcome ε → Prop
  | .inFlight d => d.writer.handle = handle ∧ d.stage.Stands may d.writer.sent ∧
      ∃ tries, Dialogue handle none d.writer.sent tries said ∧ ∀ a ∈ tries, may a.status
  | .returned result => ∃ sent tries, Dialogue handle none sent tries said ∧
      (∀ a ∈ tries, Turn.Allows may result a) ∧ Returns sent said result
  | .crashed _ => True

theorem filter_writes_of_dialogue {handle : HandleId} {sent sent' : Option Http.Status}
    {tries : List HeaderTry} {calls : List TransportCall}
    (h : Dialogue handle sent sent' tries calls) :
    calls.filter (fun c => c.writesOn?.isSome) = calls := by
  apply List.filter_eq_self.2
  intro c hc
  rw [h.writesOn? c hc]
  rfl

theorem Pool.Stows.filter_writes {p p' : Pool} {handle : HandleId} {calls : List TransportCall}
    (h : p.Stows handle p' calls) : calls.filter (fun c => c.writesOn?.isSome) = [] := by
  cases h <;> rfl

theorem Pool.Draws.filter_writes {p p' : Pool} {answer : Except TransportError HandleId}
    {calls : List TransportCall} (h : p.Draws p' calls answer) :
    calls.filter (fun c => c.writesOn?.isSome) = [] := by
  cases h <;> rfl

section

variable {τ ε : Type} [Transport τ] {may : Http.Status → Prop} {handle : HandleId}
  {t : Turn (Tapped τ)} {s : Service (Tapped τ)} {o : Outcome ε} {tries : List HeaderTry}
  {said : List TransportCall}

/-- A turn takes the dialogue of its writer further. -/
theorem Turn.Exits.stands (h : t.Exits may s o) (hhandle : t.session.writer.handle = handle)
    (hsaid : Dialogue handle none t.session.writer.sent tries said)
    (hmay : ∀ a ∈ tries, may a.status) :
    ∃ calls, s.link.transport.calls = t.session.link.transport.calls ++ calls ∧
      o.Stands may handle (said ++ calls.filter fun c => c.writesOn?.isSome) := by
  subst hhandle
  have hall {more : List HeaderTry} {P : HeaderTry → Prop} (hnew : ∀ a ∈ more, P a)
      (hold : ∀ a, may a.status → P a) : ∀ a ∈ tries ++ more, P a := by
    intro a ha
    exact (List.mem_append.1 ha).elim (fun ha => hold a (hmay a ha)) (hnew a)
  cases h with
  | waits hspeaks hnew hstands =>
    refine ⟨_, hspeaks.session.calls_eq, ?_⟩
    rw [filter_writes_of_dialogue hspeaks.session.dialogue]
    exact ⟨hspeaks.session.handle_eq, hstands, _, hsaid.trans hspeaks.session.dialogue,
      hall hnew fun _ => id⟩
  | @returned t' _ _ calls hspeaks hnew hreturns =>
    obtain ⟨last, hlast, hstows⟩ := t'.stows_leave
    refine ⟨calls ++ last, ?_, ?_⟩
    · rw [hlast, hspeaks.session.calls_eq, List.append_assoc]
    · rw [List.filter_append, hstows.filter_writes, List.append_nil,
        filter_writes_of_dialogue hspeaks.session.dialogue]
      exact ⟨_, _, hsaid.trans hspeaks.session.dialogue, hall hnew fun _ => .inl, hreturns.append⟩
  | @crashed t' _ _ calls hspeaks =>
    obtain ⟨last, hlast, -⟩ := t'.stows_leave
    refine ⟨calls ++ last, ?_, trivial⟩
    rw [hlast, hspeaks.session.calls_eq, List.append_assoc]

end

namespace TracedDispatch

variable {τ ε : Type} [Transport τ] {may : Http.Status → Prop} {handle : HandleId}
  {r : TracedDispatch τ ε}
  {s s' : Service (Tapped τ)} {now : Instant} {request : Request} {program : Program ε}

/-- What holds of a dispatch once it has its handle. -/
def Sound (may : Http.Status → Prop) (handle : HandleId) (r : TracedDispatch τ ε) : Prop :=
  r.outcome.Stands may handle r.written

theorem sound_start {pool : Pool} {link : Link (Tapped τ)}
    (hcheckout : s.dispatcher.pool.checkout s.link = (pool, link, .ok handle)) :
    (start s now request program).Sound (s.Expects now request program) handle := by
  obtain ⟨first, hfirst, hdraws⟩ := s.dispatcher.pool.draws_checkout s.link
  rcases hstart : s.start now request program with ⟨s', o⟩
  simp only [Sound, start, hstart]
  cases Service.takes_start hstart with
  | refused hrefused =>
    rw [hcheckout] at hrefused
    cases hrefused
  | @taken t _ _ _ htaken htransport hsent hexits =>
    rw [hcheckout] at htaken hfirst hdraws
    cases htaken
    have hsilent : Dialogue t.session.writer.handle none t.session.writer.sent [] [] :=
      hsent ▸ .silent
    obtain ⟨calls, hcalls, hstands⟩ := hexits.stands rfl hsilent nofun
    have hheard : heard s s' = first ++ calls := by
      apply heard_eq
      rw [hcalls, htransport, hfirst, List.append_assoc]
    have hwritten : (⟨s', o, heard s s'⟩ : TracedDispatch τ ε).written =
        calls.filter fun c => c.writesOn?.isSome := by
      rw [written, hheard, List.filter_append, hdraws.filter_writes, List.nil_append]
    rw [hwritten]
    exact hstands

theorem Sound.goOn (h : r.Sound may handle) {d : Dispatch ε} (hd : r.outcome = .inFlight d)
    {out : Service (Tapped τ) × Outcome ε} (hexits : (d.turn r.service).Exits may out.1 out.2) :
    (r.goOn out).Sound may handle := by
  unfold Sound at h
  rw [hd] at h
  obtain ⟨hhandle, -, tries, hsaid, hmay⟩ := h
  obtain ⟨calls, hcalls, hstands⟩ := hexits.stands hhandle hsaid hmay
  have hwritten : (r.goOn out).written =
      r.written ++ calls.filter fun c => c.writesOn?.isSome := by
    rw [written, TracedDispatch.goOn, heard_eq hcalls, List.filter_append]
    rfl
  unfold Sound
  rw [hwritten]
  exact hstands

theorem Sound.act (h : r.Sound may handle) (move : Move τ) : (r.act move).Sound may handle := by
  cases houtcome : r.outcome with
  | inFlight d =>
    have hstands : d.stage.Stands may d.writer.sent := by
      unfold Sound at h
      rw [houtcome] at h
      exact h.2.1
    cases move with
    | resume now =>
      simp only [TracedDispatch.act, houtcome]
      exact h.goOn houtcome (Service.exits_resume hstands rfl)
    | answer now n =>
      simp only [TracedDispatch.act, houtcome]
      exact h.goOn houtcome (Service.exits_answer hstands rfl)
    | others change => exact h
  | _ =>
    cases move with
    | others change => exact h
    | _ =>
      simp only [TracedDispatch.act, houtcome]
      exact h

theorem Sound.run (h : r.Sound may handle) (moves : List (Move τ)) :
    (r.run moves).Sound may handle := by
  induction moves generalizing r with
  | nil => exact h
  | cons move rest ih => exact ih (h.act move)

/-! ## What was sent -/

/-- Where no header call is refused, a dispatch that had a handle and returned has sent exactly one
header section, whatever the cache holds and the handler does. Its status is that of the recording
which was sent again, or one that the handler named, or 200, or 500 because the handler failed. The
one exception are fields that do not fit: the dispatch may return this error with nothing sent. -/
theorem sent_once_or_unfit (s : Service (Tapped τ)) (now : Instant) (request : Request)
    (program : Program ε) (moves : List (Move τ)) {pool : Pool} {link : Link (Tapped τ)}
    {result : Except DispatchError Served}
    (hcheckout : s.dispatcher.pool.checkout s.link = (pool, link, .ok handle))
    (hreturned : ((start s now request program).run moves).result? = some result)
    (haccepted : ∀ c ∈ ((start s now request program).run moves).calls, c.isAccepted = true) :
    let r := (start s now request program).run moves
    (∃ fault, result = .error (.write (.fieldTooLarge fault))) ∧ r.written = [] ∨
      (∀ fault, result ≠ .error (.write (.fieldTooLarge fault))) ∧
        ∃ status, r.SentOnce handle status ∧
          (s.Expects now request program status ∨
            status = .internalServerError ∧ ∃ cause, result = .error (.handler cause)) ∧
          ∀ served, result = .ok served → served.status = status := by
  intro r
  have hsound : r.Sound (s.Expects now request program) handle := (sound_start hcheckout).run moves
  have houtcome : r.outcome = .returned result := by
    unfold result? at hreturned
    split at hreturned
    · rename_i houtcome
      cases hreturned
      exact houtcome
    · cases hreturned
  unfold Sound at hsound
  rw [houtcome] at hsound
  obtain ⟨sent, tries, hdialogue, hallows, hreturns⟩ := hsound
  have hwritten : ∀ c ∈ r.written, c.isAccepted = true := fun c hc =>
    haccepted c (List.mem_filter.1 hc).1
  have hno : ¬ ∃ c ∈ r.written, c.isAccepted = false := by
    rintro ⟨c, hc, hrefused⟩
    rw [hwritten c hc] at hrefused
    cases hrefused
  rcases hdialogue.of_accepted rfl hwritten with ⟨rfl, hnil⟩ | ⟨t, ht, offers, rfl, hcalls, hoffers⟩
  · left
    refine ⟨?_, hnil⟩
    cases hreturns with
    | answered hsent => cases hsent
    | broken htells =>
      cases htells with
      | @unfit fault _ => exact ⟨fault, rfl⟩
      | refused hrefused => exact absurd hrefused hno
      | late hsent => exact absurd rfl hsent
    | failed hor => exact absurd (hor.resolve_left fun hsent => hsent rfl) hno
  · right
    refine ⟨?_, t.status, sentOnce_of_written hcalls hoffers, hallows t ht, ?_⟩
    · rintro fault rfl
      cases hreturns with
      | broken htells =>
        cases htells with
        | unfit hsent => cases hsent
    · rintro served rfl
      cases hreturns with
      | answered hsent => exact (Option.some.inj hsent).symm

/-- A new dispatcher, at a loopback with buffers of four bytes. -/
def newService : Service (Tapped Loopback) :=
  ⟨⟨.shared, { capacity := 10 }, some (.ofSettings {}), {}⟩,
    { transport := ⟨{ capacity := some 4, routing := some .perHandle }, []⟩ }⟩

/-- Drains the first handle, with the signals that this raises. -/
def drainFirst (s : Service (Tapped Loopback)) : Service (Tapped Loopback) :=
  let (inner, _, signals) := s.link.transport.inner.drain ⟨1⟩
  let transport : Tapped Loopback := { s.link.transport with inner }
  { s with link := { s.link with transport }.raiseAll signals }

/-- The handler says that there is no such page. -/
def notFound : Program Empty :=
  .writeHeader { code := 404 } fun _ => .write "gone, all of it".toUTF8 none fun _ => .finish

theorem sent_once_or_unfit_notFound :
    let r := (start newService .start ⟨.get, "/p"⟩ notFound).run
      [.others drainFirst, .resume .start, .others drainFirst, .resume .start,
        .others drainFirst, .resume .start]
    (∀ c ∈ r.calls, c.isAccepted = true) ∧ r.SentOnce ⟨1⟩ { code := 404 } := by
  intro r
  have haccepted : ∀ c ∈ r.calls, c.isAccepted = true := by decide +kernel
  have hreturned : r.result? = some (.ok ⟨{ code := 404 }, .handler, ⟨1⟩, ⟨7, 3, 3, 15⟩⟩) := by
    decide +kernel
  rcases sent_once_or_unfit newService .start ⟨.get, "/p"⟩ notFound _ rfl hreturned haccepted with
    ⟨⟨fault, hfault⟩, -⟩ | ⟨-, status, honce, -, hserved⟩
  · cases hfault
  · obtain rfl := hserved _ rfl
    exact ⟨haccepted, honce⟩

/-- A name of 256 bytes, one more than the transport can be told. -/
def longName : FieldName :=
  ⟨⟨Array.replicate 256 120⟩, by decide +kernel, by decide +kernel, by decide +kernel⟩

/-- The handler sets a field with a long name, and is done. -/
def longNamed : Program Empty := .edit (.insert longName ⟨"v".toUTF8, by decide⟩) .finish

/-- It takes fields that fit. With a field that does not, the dispatch returns after it had a
handle, no call was refused, and nothing was sent at all. -/
theorem unsent_longNamed :
    let r : TracedDispatch Loopback Empty := start newService .start ⟨.get, "/p"⟩ longNamed
    r.result? = some (.error (.write (.fieldTooLarge (.nameTooLong 256)))) ∧
      r.calls = [.allocate (.ok ⟨1⟩)] ∧ (∀ c ∈ r.calls, c.isAccepted = true) ∧
      r.calls.filter TransportCall.isSend = [] := by
  decide +kernel

end TracedDispatch

end Sluice
