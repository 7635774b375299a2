import Sluice.Proofs.Writing.Calls
import Sluice.Transport.Tapped

/-!
# What a writer says to its transport

First come attempts at a header section that fail: one that does not fit is not even begun, and one
that the transport refuses ends with the call that was refused. Then one may succeed, and from then
on there are offers only. `Dialogue` is this grammar, between any two moments of a writer; every
call of a writer keeps to it.
-/
namespace Sluice

/-- An attempt to send a header section: the status, and the fields there were at the call. -/
structure HeaderTry where
  status : Http.Status
  fields : Fields

namespace HeaderTry

/-- The fields that are to go out, in order: those there are, and the default content type last if
they name none. -/
def carried (t : HeaderTry) : List (FieldName × FieldValue) :=
  if t.fields.contains .contentType then t.fields.instances
  else t.fields.instances ++ [(.contentType, .defaultContentType)]

/-- The steps of the whole section. The layout is that of the fields. -/
def steps (t : HeaderTry) : List HeaderStep :=
  HeaderStep.ofSection t.status (.ofInstances t.carried) t.carried

/-- The section is one that the transport can be told the size of. -/
def Fits (t : HeaderTry) : Prop := ∃ layout, Layout.measure t.fields.withContentType = .ok layout

/-- The calls of an attempt that succeeds. -/
def sentCalls (handle : HandleId) (t : HeaderTry) : List TransportCall :=
  t.steps.map fun step => .header handle step (.ok ())

/-- The attempt fails with these calls. -/
inductive Failed (handle : HandleId) (t : HeaderTry) : List TransportCall → Prop where
  | unfit : ¬ t.Fits → Failed handle t []
  | refused {e calls} : t.Fits → TransportCall.Carries handle t.steps (.error e) calls →
      Failed handle t calls

/-- The steps are those that a writer with these fields has. -/
theorem steps_eq {t : HeaderTry} {layout : Layout}
    (h : Layout.measure t.fields.withContentType = .ok layout) :
    t.steps = HeaderStep.ofSection t.status layout t.fields.withContentType.instances := by
  have hcarried : t.fields.withContentType.instances = t.carried :=
    t.fields.instances_withContentType
  rw [Layout.measure_eq_ok h, hcarried, steps]

theorem not_fits {t : HeaderTry} {fault : FieldFault}
    (h : Layout.measure t.fields.withContentType = .error fault) : ¬ t.Fits := by
  rintro ⟨layout, hlayout⟩
  rw [h] at hlayout
  cases hlayout

theorem Failed.writesOn? {handle : HandleId} {t : HeaderTry} {calls : List TransportCall}
    (h : t.Failed handle calls) : ∀ c ∈ calls, c.writesOn? = some handle := by
  cases h with
  | unfit => exact fun c hc => absurd hc List.not_mem_nil
  | refused _ hcarries => exact hcarries.writesOn?

theorem Failed.send_not_mem {handle : HandleId} {t : HeaderTry} {calls : List TransportCall}
    (h : t.Failed handle calls) : .header handle .send (.ok ()) ∉ calls := by
  cases h with
  | unfit => exact List.not_mem_nil
  | refused _ hcarries => exact hcarries.send_not_mem

theorem send_mem_sentCalls {handle : HandleId} (t : HeaderTry) :
    .header handle .send (.ok ()) ∈ t.sentCalls handle :=
  List.mem_map.2 ⟨.send, List.mem_append_right _ List.mem_cons_self, rfl⟩

/-- Where no call is refused, an attempt that fails makes none. -/
theorem Failed.eq_nil {handle : HandleId} {t : HeaderTry} {calls : List TransportCall}
    (h : t.Failed handle calls) (haccepted : ∀ c ∈ calls, c.isAccepted = true) : calls = [] := by
  cases h with
  | unfit => rfl
  | refused _ hcarries =>
    obtain ⟨c, hc, hrefused⟩ := hcarries.not_isAccepted
    rw [haccepted c hc] at hrefused
    cases hrefused

end HeaderTry

/-- What a writer of this handle may say between two moments. The first status is the one that had
gone out before, the second the one that has gone out now. -/
inductive Dialogue (handle : HandleId) :
    Option Http.Status → Option Http.Status → List HeaderTry → List TransportCall → Prop where
  | silent {sent} : Dialogue handle sent sent [] []
  | failed {t : HeaderTry} {sent tries calls more} : t.Failed handle calls →
      Dialogue handle none sent tries more → Dialogue handle none sent (t :: tries) (calls ++ more)
  | sent {t : HeaderTry} {sent tries more} : t.Fits →
      Dialogue handle (some t.status) sent tries more →
      Dialogue handle none sent (t :: tries) (t.sentCalls handle ++ more)
  | offered {status sent tries chunk n more} : Dialogue handle (some status) sent tries more →
      Dialogue handle (some status) sent tries (.offer handle chunk n :: more)

namespace Dialogue

variable {handle : HandleId} {sent sent₁ sent₂ : Option Http.Status} {status : Http.Status}
  {tries more : List HeaderTry} {calls later : List TransportCall}

theorem trans (h : Dialogue handle sent sent₁ tries calls)
    (h' : Dialogue handle sent₁ sent₂ more later) :
    Dialogue handle sent sent₂ (tries ++ more) (calls ++ later) := by
  induction h with
  | silent => exact h'
  | failed hfailed _ ih =>
    rw [List.append_assoc]
    exact .failed hfailed (ih h')
  | sent hfits _ ih =>
    rw [List.append_assoc]
    exact .sent hfits (ih h')
  | offered _ ih => exact .offered (ih h')

theorem one_failed {t : HeaderTry} (h : t.Failed handle calls) :
    Dialogue handle none none [t] calls := by
  have hone : Dialogue handle none none [t] (calls ++ []) := .failed h .silent
  rwa [List.append_nil] at hone

theorem one_sent {t : HeaderTry} (h : t.Fits) :
    Dialogue handle none (some t.status) [t] (t.sentCalls handle) := by
  have hone : Dialogue handle none (some t.status) [t] (t.sentCalls handle ++ []) :=
    .sent h .silent
  rwa [List.append_nil] at hone

/-- After the header section there are offers only, and the status stays. -/
theorem of_some (h : Dialogue handle sent sent₁ tries calls) (hsent : sent = some status) :
    sent₁ = some status ∧ tries = [] ∧ ∀ c ∈ calls, ∃ chunk n, c = .offer handle chunk n := by
  induction h with
  | silent => exact ⟨hsent, rfl, fun c hc => absurd hc List.not_mem_nil⟩
  | failed => cases hsent
  | sent => cases hsent
  | @offered _ _ _ chunk n _ _ ih =>
    obtain ⟨hstays, htries, hcalls⟩ := ih hsent
    refine ⟨hstays, htries, fun c hc => ?_⟩
    rcases List.mem_cons.1 hc with rfl | hc
    · exact ⟨chunk, n, rfl⟩
    · exact hcalls c hc

/-- A status that goes out is that of an attempt. -/
theorem sent_mem (h : Dialogue handle sent sent₁ tries calls) (hsent : sent = none)
    (hout : sent₁ = some status) : ∃ t ∈ tries, t.status = status := by
  induction h with
  | silent =>
    rw [hsent] at hout
    cases hout
  | failed _ _ ih =>
    obtain ⟨t, ht, hstatus⟩ := ih hsent hout
    exact ⟨t, List.mem_cons_of_mem _ ht, hstatus⟩
  | @sent t _ _ _ _ hrest =>
    rw [(hrest.of_some rfl).1] at hout
    exact ⟨t, List.mem_cons_self, Option.some.inj hout⟩
  | offered => cases hsent

/-- A status has gone out when a section was sent to its end, and only then. -/
theorem isSome_iff (h : Dialogue handle sent sent₁ tries calls) (hsent : sent = none) :
    sent₁.isSome = true ↔ .header handle .send (.ok ()) ∈ calls := by
  induction h with
  | silent => simp [hsent]
  | failed hfailed _ ih => rw [ih hsent, List.mem_append, or_iff_right hfailed.send_not_mem]
  | @sent t _ _ _ _ hrest =>
    rw [(hrest.of_some rfl).1]
    exact iff_of_true rfl (List.mem_append_left _ t.send_mem_sentCalls)
  | offered => cases hsent

theorem writesOn? (h : Dialogue handle sent sent₁ tries calls) :
    ∀ c ∈ calls, c.writesOn? = some handle := by
  induction h with
  | silent => exact fun c hc => absurd hc List.not_mem_nil
  | failed hfailed _ ih =>
    intro c hc
    exact (List.mem_append.1 hc).elim (hfailed.writesOn? c) (ih c)
  | sent _ _ ih =>
    intro c hc
    rcases List.mem_append.1 hc with hc | hc
    · obtain ⟨step, -, rfl⟩ := List.mem_map.1 hc
      rfl
    · exact ih c hc
  | offered _ ih =>
    intro c hc
    rcases List.mem_cons.1 hc with rfl | hc
    · rfl
    · exact ih c hc

/-- Where no call is refused, there are calls only once a section fits; then it goes out whole, and
offers follow. -/
theorem of_accepted (h : Dialogue handle sent sent₁ tries calls) (hsent : sent = none)
    (haccepted : ∀ c ∈ calls, c.isAccepted = true) :
    sent₁ = none ∧ calls = [] ∨
      ∃ t ∈ tries, ∃ offers, sent₁ = some t.status ∧ calls = t.sentCalls handle ++ offers ∧
        ∀ c ∈ offers, ∃ chunk n, c = .offer handle chunk n := by
  induction h with
  | silent => exact .inl ⟨hsent, rfl⟩
  | @failed t _ _ calls more hfailed _ ih =>
    have hnil := hfailed.eq_nil fun c hc => haccepted c (List.mem_append_left _ hc)
    subst hnil
    rcases ih hsent haccepted with hunsent | ⟨last, hlast, hrest⟩
    · exact .inl hunsent
    · exact .inr ⟨last, List.mem_cons_of_mem _ hlast, hrest⟩
  | @sent t _ _ _ _ hrest =>
    obtain ⟨rfl, rfl, hoffers⟩ := hrest.of_some rfl
    exact .inr ⟨t, List.mem_cons_self, _, rfl, rfl, hoffers⟩
  | offered => cases hsent

end Dialogue

/-- What an error of a writer tells of the status that has gone out and of the calls that were
made. -/
inductive WriteError.Tells (sent : Option Http.Status) (calls : List TransportCall) :
    WriteError → Prop where
  | unfit {fault} : sent = none → Tells sent calls (.fieldTooLarge fault)
  | refused {e} : (∃ c ∈ calls, c.isAccepted = false) → Tells sent calls (.transport e)
  | late {waited} : sent ≠ none → Tells sent calls (.ackTimeout waited)

theorem WriteError.Tells.append {sent : Option Http.Status} {calls more : List TransportCall}
    {e : WriteError} (h : e.Tells sent more) : e.Tells sent (calls ++ more) := by
  cases h with
  | unfit hsent => exact .unfit hsent
  | refused hrefused =>
    obtain ⟨c, hc, hno⟩ := hrefused
    exact .refused ⟨c, List.mem_append_right _ hc, hno⟩
  | late hsent => exact .late hsent

/-! ## Every call of a writer keeps to it -/

namespace Session

/-- The attempt at a header section that a call with this status makes: none if one went out. -/
def tries {τ : Type} (s : Session τ) (status : Http.Status) : List HeaderTry :=
  match s.writer.sent with
  | some _ => []
  | none => [⟨status, s.writer.fields⟩]

theorem tries_of_none {τ : Type} {s : Session τ} (h : s.writer.sent = none)
    (status : Http.Status) : s.tries status = [⟨status, s.writer.fields⟩] := by
  simp only [tries, h]

theorem tries_of_some {τ : Type} {s : Session τ} {earlier : Http.Status}
    (h : s.writer.sent = some earlier) (status : Http.Status) : s.tries status = [] := by
  simp only [tries, h]

/-- An attempt has the status of its call. -/
theorem status_of_mem_tries {τ : Type} {s : Session τ} {status : Http.Status} {t : HeaderTry}
    (h : t ∈ s.tries status) : t.status = status := by
  unfold tries at h
  split at h
  · cases h
  · obtain rfl := List.mem_singleton.1 h
    rfl

variable {τ : Type}

/-- From the first session to the second the writer made these attempts and these calls. -/
structure Speaks (s s' : Session (Tapped τ)) (tries : List HeaderTry) (calls : List TransportCall) :
    Prop where
  handle_eq : s'.writer.handle = s.writer.handle
  calls_eq : s'.link.transport.calls = s.link.transport.calls ++ calls
  dialogue : Dialogue s.writer.handle s.writer.sent s'.writer.sent tries calls

namespace Speaks

variable {s s₁ s₂ : Session (Tapped τ)} {tries more : List HeaderTry}
  {calls later : List TransportCall}

theorem trans (h : Speaks s s₁ tries calls) (h' : Speaks s₁ s₂ more later) :
    Speaks s s₂ (tries ++ more) (calls ++ later) where
  handle_eq := h'.handle_eq.trans h.handle_eq
  calls_eq := by rw [h'.calls_eq, h.calls_eq, List.append_assoc]
  dialogue := h.dialogue.trans (h.handle_eq ▸ h'.dialogue)

/-- The writer kept its handle and its status, and nothing was heard. -/
theorem of_same (hhandle : s₁.writer.handle = s.writer.handle)
    (hsent : s₁.writer.sent = s.writer.sent)
    (hcalls : s₁.link.transport.calls = s.link.transport.calls) : Speaks s s₁ [] [] where
  handle_eq := hhandle
  calls_eq := by rw [hcalls, List.append_nil]
  dialogue := hsent ▸ .silent

theorem refl (s : Session (Tapped τ)) : Speaks s s [] [] := of_same rfl rfl rfl

/-- First nothing, then this. -/
theorem after (h : Speaks s s₁ [] []) (h' : Speaks s₁ s₂ more later) : Speaks s s₂ more later :=
  h.trans h'

/-- First this, then nothing. -/
theorem before (h : Speaks s s₁ tries calls) (h' : Speaks s₁ s₂ [] []) :
    Speaks s s₂ tries calls := by
  simpa using h.trans h'

/-- The status that has gone out stays. -/
theorem sent_eq (h : Speaks s s₁ tries calls) {status : Http.Status}
    (hsent : s.writer.sent = some status) : s₁.writer.sent = some status :=
  (h.dialogue.of_some hsent).1

theorem sent_ne_none (h : Speaks s s₁ tries calls) (hsent : s.writer.sent ≠ none) :
    s₁.writer.sent ≠ none := by
  obtain ⟨status, hstatus⟩ := Option.ne_none_iff_exists'.1 hsent
  rw [h.sent_eq hstatus]
  exact Option.some_ne_none _

end Speaks

variable {s s₁ s₂ s₃ s' : Session (Tapped τ)} {status : Http.Status}

theorem speaks_report (s : Session (Tapped τ)) (e : Event) : Speaks s (s.report e) [] [] :=
  .of_same rfl rfl rfl

theorem speaks_edit (s : Session (Tapped τ)) (change : Fields.Edit) :
    Speaks s (s.edit change) [] [] :=
  .of_same rfl rfl rfl

theorem speaks_register {waiter : WaiterId} (h : s.countShort.register = (s', waiter)) :
    Speaks s s' [] [] := by
  obtain rfl : s.countShort.register.1 = s' := congrArg Prod.fst h
  have hwriter := s.countShort.writer_register
  refine .of_same ?_ ?_ ?_
  · rw [hwriter]
    rfl
  · rw [hwriter]
    rfl
  · rw [transport_register]
    rfl

theorem speaks_unregister (s : Session (Tapped τ)) : Speaks s s.unregister [] [] :=
  .of_same rfl rfl (by rw [transport_unregister])

/-- A wait that ended changed the board only. -/
theorem speaks_ended (s : Session (Tapped τ)) (board : AckBoard) :
    Speaks s { s with link := s.link.setBoard s.writer.board board } [] [] :=
  .of_same rfl rfl (by rw [Link.transport_setBoard])

variable [Transport τ]

/-- A header section that was sent, or refused on the way. -/
theorem hears_sendSection {link : Link (Tapped τ)} {layout : Layout}
    {answer : Except TransportError Unit}
    (hmeasure : Layout.measure s.writer.prepared.fields = .ok layout)
    (hsend : s.link.sendSection s.writer.handle status layout s.writer.prepared.fields.instances =
      (link, answer)) :
    s.link.transport.Hears link.transport s.writer.handle
      (⟨status, s.writer.fields⟩ : HeaderTry).steps answer := by
  have hears := s.link.transport.hears_sendSection s.writer.handle status layout
    s.writer.prepared.fields.instances
  rw [(Link.sendSection_eq_iff.1 hsend).1] at hears
  have hsteps : (⟨status, s.writer.fields⟩ : HeaderTry).steps = _ := HeaderTry.steps_eq hmeasure
  rw [hsteps]
  exact hears

/-- A call that may send a header section makes one attempt, unless one went out before. -/
theorem Heads.speaks {result : Except WriteError Unit} (h : Heads status s s' result) :
    ∃ calls, Speaks s s' (s.tries status) calls ∧
      ∀ e, result = .error e → e.Tells s'.writer.sent calls := by
  cases h with
  | repeated hsent =>
    rw [tries_of_some hsent]
    exact ⟨[], .of_same rfl rfl rfl, nofun⟩
  | unfit hsent hmeasure =>
    rw [tries_of_none hsent]
    refine ⟨[], ⟨rfl, (List.append_nil _).symm, ?_⟩, ?_⟩
    · show Dialogue s.writer.handle s.writer.sent s.writer.sent _ _
      rw [hsent]
      exact .one_failed (.unfit (HeaderTry.not_fits hmeasure))
    · rintro e ⟨⟩
      exact .unfit hsent
  | refused hsent hmeasure hsend =>
    rw [tries_of_none hsent]
    obtain ⟨calls, hcalls, hcarries⟩ := hears_sendSection hmeasure hsend
    refine ⟨calls, ⟨rfl, hcalls, ?_⟩, ?_⟩
    · show Dialogue s.writer.handle s.writer.sent s.writer.sent _ _
      rw [hsent]
      exact .one_failed (.refused ⟨_, hmeasure⟩ hcarries)
    · rintro e ⟨⟩
      exact .refused hcarries.not_isAccepted
  | sent hsent hmeasure hsend =>
    rw [tries_of_none hsent]
    obtain ⟨calls, hcalls, hcarries⟩ := hears_sendSection hmeasure hsend
    obtain rfl := hcarries.eq_of_ok
    refine ⟨_, ⟨rfl, hcalls, ?_⟩, nofun⟩
    show Dialogue s.writer.handle s.writer.sent (some status) _ _
    rw [hsent]
    exact .one_sent (t := ⟨status, s.writer.fields⟩) ⟨_, hmeasure⟩

theorem Flushes.speaks {result : Except WriteError Unit} (h : Flushes s s' result) :
    ∃ calls, Speaks s s' (s.tries .ok) calls ∧
      ∀ e, result = .error e → e.Tells s'.writer.sent calls := by
  cases h with
  | already hsent =>
    rw [tries_of_some hsent]
    exact ⟨[], .refl s, nofun⟩
  | heads _ hheads => exact hheads.speaks

/-! ## Bodies -/

theorem speaks_offer {chunk : ByteArray} {a : Nat} (hsent : s.writer.sent ≠ none)
    (h : s.offer chunk = (s', a)) : ∃ calls, Speaks s s' [] calls := by
  obtain ⟨sent, hsent⟩ := Option.ne_none_iff_exists'.1 hsent
  obtain rfl : (s.offer chunk).1 = s' := congrArg Prod.fst h
  have hcalls : (s.offer chunk).1.link.transport.calls = s.link.transport.calls ++
      [.offer s.writer.handle chunk
        (Transport.offer s.link.transport.inner s.writer.handle chunk).2.1] := by
    rw [transport_offer]
    rfl
  refine ⟨_, rfl, hcalls, ?_⟩
  show Dialogue s.writer.handle s.writer.sent s.writer.sent [] _
  rw [hsent]
  exact .offered .silent

theorem speaks_finishBody (s : Session (Tapped τ)) (body : ByteArray) :
    Speaks s (s.finishBody body) [] [] := by
  have hwriter := s.writer_finishBody body
  refine .of_same ?_ ?_ ?_
  · rw [hwriter]
  · rw [hwriter]
  · rw [transport_finishBody]

/-- An offer, a registration, and the offer of the rest. -/
theorem speaks_retry {chunk rest : ByteArray} {a r : Nat} {waiter : WaiterId}
    (hsent : s.writer.sent ≠ none) (hoffer : s.offer chunk = (s₁, a))
    (hregister : s₁.countShort.register = (s₂, waiter)) (hagain : s₂.offer rest = (s₃, r)) :
    ∃ calls, Speaks s s₃ [] calls := by
  obtain ⟨calls, hfirst⟩ := speaks_offer hsent hoffer
  have hregistered := hfirst.before (speaks_register hregister)
  obtain ⟨more, hsecond⟩ := speaks_offer (hregistered.sent_ne_none hsent) hagain
  exact ⟨_, hregistered.trans hsecond⟩

/-- Once the header section is out, a run of the loop makes offers only, and does not fail. -/
theorem Pours.speaks {now : Instant} {body : ByteArray} {n : Nat} {p : Progress}
    (h : Pours now body s n s' p) (hsent : s.writer.sent ≠ none) :
    ∃ calls, Speaks s s' [] calls := by
  induction h with
  | @done s n _ => exact ⟨[], s.speaks_finishBody body⟩
  | @endless s n _ _ => exact ⟨[], .refl s⟩
  | whole _ _ hoffer _ _ ih =>
    obtain ⟨calls, hfirst⟩ := speaks_offer hsent hoffer
    obtain ⟨more, hrest⟩ := ih (hfirst.sent_ne_none hsent)
    exact ⟨_, hfirst.trans hrest⟩
  | @retried _ _ _ s₃ _ _ _ _ _ _ _ _ hoffer _ hregister hagain _ _ ih =>
    obtain ⟨calls, hretry⟩ := speaks_retry hsent hoffer hregister hagain
    have hgone := hretry.before s₃.speaks_unregister
    obtain ⟨more, hrest⟩ := ih (hgone.sent_ne_none hsent)
    exact ⟨_, hgone.trans hrest⟩
  | blocked _ _ hoffer _ hregister hagain =>
    obtain ⟨calls, hretry⟩ := speaks_retry hsent hoffer hregister hagain
    exact ⟨calls, hretry.before (.of_same rfl rfl rfl)⟩

theorem Writes.speaks {now : Instant} {body : ByteArray} {p : Progress}
    (h : Writes now body s s' p) : ∃ calls, Speaks s s' (s.tries .ok) calls ∧
      ∀ e, p = .finished (.error e) → e.Tells s'.writer.sent calls := by
  cases h with
  | failed hflush =>
    obtain ⟨calls, hspeaks, htells⟩ := hflush.speaks
    refine ⟨calls, hspeaks, fun e hp => htells e ?_⟩
    cases hp
    rfl
  | pours hflush hpours =>
    obtain ⟨calls, hfirst, -⟩ := hflush.speaks
    obtain ⟨more, hrest⟩ := hpours.speaks hflush.sent_ne_none
    exact ⟨calls ++ more, by simpa using hfirst.trans hrest,
      fun e hp => absurd hp (hpours.ne_error e)⟩

/-- A write that has to wait has sent the header section. -/
theorem Writes.sent_ne_none {now : Instant} {body : ByteArray} {p : Progress}
    (h : Writes now body s s' p) (hp : ∀ result, p ≠ .finished (.error result)) :
    s'.writer.sent ≠ none := by
  cases h with
  | failed => exact absurd rfl (hp _)
  | pours hflush hpours =>
    obtain ⟨calls, hrest⟩ := hpours.speaks hflush.sent_ne_none
    exact hrest.sent_ne_none hflush.sent_ne_none

theorem Resumes.speaks {now : Instant} {write : PendingWrite} {p : Progress}
    (h : Resumes now write s s' p) (hsent : s.writer.sent ≠ none) :
    ∃ calls, Speaks s s' [] calls ∧
      ∀ e, p = .finished (.error e) → e.Tells s'.writer.sent calls := by
  cases h with
  | waits => exact ⟨[], .refl s, nofun⟩
  | @gaveUp board e hends =>
    have hgone := (s.speaks_ended board).after (speaks_unregister _)
    refine ⟨[], hgone.before (.of_same rfl rfl rfl), ?_⟩
    rintro e ⟨⟩
    cases ends_of_waitEnds? hends with
    | late => exact .late hsent
  | @pours board ready _ _ _ hpours =>
    obtain ⟨calls, hrest⟩ := hpours.speaks hsent
    exact ⟨calls, (s.speaks_ended board).after ((speaks_report _ _).after hrest),
      fun e hp => absurd hp (hpours.ne_error e)⟩

/-- A recording is sent again with its own status. -/
theorem Replays.speaks {now : Instant} {r : Recording} {p : Progress}
    (h : Replays now r s s' p) : ∃ calls, Speaks s s' ((s.withFields r).tries r.status) calls ∧
      ∀ e, p = .finished (.error e) → e.Tells s'.writer.sent calls := by
  have hfields : Speaks s (s.withFields r) [] [] := .of_same rfl rfl rfl
  cases h with
  | failed hheads =>
    obtain ⟨calls, hspeaks, htells⟩ := hheads.speaks
    refine ⟨calls, hfields.after hspeaks, fun e hp => htells e ?_⟩
    cases hp
    rfl
  | bare hheads =>
    obtain ⟨calls, hspeaks, -⟩ := hheads.speaks
    exact ⟨calls, hfields.after hspeaks, nofun⟩
  | writes hheads _ hwrites =>
    obtain ⟨calls, hspeaks, -⟩ := hheads.speaks
    obtain ⟨more, hrest, htells⟩ := hwrites.speaks
    obtain ⟨status, hstatus⟩ := Option.ne_none_iff_exists'.1 hheads.sent_ne_none
    -- the header section is out, so that the write does not send another
    rw [tries_of_some hstatus] at hrest
    exact ⟨calls ++ more, by simpa using (hfields.after hspeaks).trans hrest,
      fun e hp => (htells e hp).append⟩

/-- A recording that no error stopped has gone out. -/
theorem Replays.sent_eq {now : Instant} {r : Recording} {p : Progress}
    (h : Replays now r s s' p) (hsent : s.writer.sent = none)
    (hp : ∀ e, p ≠ .finished (.error e)) : s'.writer.sent = some r.status := by
  obtain ⟨calls, hspeaks, -⟩ := h.speaks
  have hout : s'.writer.sent ≠ none := by
    cases h with
    | failed => exact absurd rfl (hp _)
    | bare hheads => exact hheads.sent_ne_none
    | writes _ _ hwrites => exact hwrites.sent_ne_none hp
  obtain ⟨status, hstatus⟩ := Option.ne_none_iff_exists'.1 hout
  obtain ⟨t, ht, rfl⟩ := hspeaks.dialogue.sent_mem hsent hstatus
  rw [hstatus, status_of_mem_tries ht]

end Session

end Sluice
