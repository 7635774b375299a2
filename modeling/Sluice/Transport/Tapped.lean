import Sluice.Link
import Sluice.Transport.Faithful

/-!
# Tapped transports

A tapped transport passes every call on to another one, and keeps a list of the calls with their
answers. Whoever works on it notices nothing, so that what the list holds afterwards is what any
transport would have been asked.
-/
namespace Sluice

/-- A step in the sending of a header section. -/
inductive HeaderStep where
  | init (status : Http.Status) (layout : Layout)
  | field (name value : ByteArray)
  | send
deriving DecidableEq

/-- The steps of a whole section. -/
def HeaderStep.ofSection (status : Http.Status) (layout : Layout)
    (fields : List (FieldName × FieldValue)) : List HeaderStep :=
  .init status layout :: (fields.map fun f => .field f.1.bytes f.2.bytes) ++ [.send]

/-- Answers are compared by their parts. -/
instance decidableEqAnswer {ε α : Type} [DecidableEq ε] [DecidableEq α] : DecidableEq (Except ε α)
  | .ok a, .ok b => decidable_of_iff (a = b) ⟨congrArg Except.ok, Except.ok.inj⟩
  | .error a, .error b => decidable_of_iff (a = b) ⟨congrArg Except.error, Except.error.inj⟩
  | .ok _, .error _ => .isFalse nofun
  | .error _, .ok _ => .isFalse nofun

/-- A call, and its answer. -/
inductive TransportCall where
  | allocate (answer : Except TransportError HandleId)
  | finalize (handle : HandleId) (completion : Completion)
  | offer (handle : HandleId) (chunk : ByteArray) (accepted : Nat)
  | header (handle : HandleId) (step : HeaderStep) (answer : Except TransportError Unit)
deriving DecidableEq

namespace TransportCall

/-- The handle on which the call writes a response, if it does. -/
def writesOn? : TransportCall → Option HandleId
  | .offer handle .. | .header handle .. => some handle
  | .allocate _ | .finalize .. => none

/-- The handle that the call allocated. -/
def allocated? : TransportCall → Option HandleId
  | .allocate (.ok handle) => some handle
  | _ => none

/-- The handle that was given back by the call, and with what completion. -/
def finalized? : TransportCall → Option (HandleId × Completion)
  | .finalize handle completion => some (handle, completion)
  | _ => none

/-- The call is not one for a header section that was refused. -/
def isAccepted : TransportCall → Bool
  | .header _ _ (.error _) => false
  | _ => true

/-- The call says that a header section is complete. -/
def isSend : TransportCall → Bool
  | .header _ .send _ => true
  | _ => false

theorem allocated?_of_writesOn? {c : TransportCall} {handle : HandleId}
    (h : c.writesOn? = some handle) : c.allocated? = none := by
  cases c with
  | allocate answer => cases h
  | _ => rfl

theorem finalized?_of_writesOn? {c : TransportCall} {handle : HandleId}
    (h : c.writesOn? = some handle) : c.finalized? = none := by
  cases c with
  | finalize => cases h
  | _ => rfl

/-- The steps were carried out in turn, up to the first that was refused, with these calls and this
answer. -/
inductive Carries (handle : HandleId) :
    List HeaderStep → Except TransportError Unit → List TransportCall → Prop where
  | all {steps} : Carries handle steps (.ok ()) (steps.map fun step => .header handle step (.ok ()))
  | refused {done step rest e} : Carries handle (done ++ step :: rest) (.error e)
      ((done.map fun step => .header handle step (.ok ())) ++ [.header handle step (.error e)])

namespace Carries

variable {handle : HandleId} {steps more : List HeaderStep} {calls calls' : List TransportCall}
  {answer : Except TransportError Unit}

theorem one (step : HeaderStep) : Carries handle [step] answer [.header handle step answer] := by
  cases answer with
  | ok => exact .all
  | error e => exact @refused handle [] step [] e

/-- After steps that all succeeded come others. -/
theorem append (h : Carries handle steps (.ok ()) calls) (h' : Carries handle more answer calls') :
    Carries handle (steps ++ more) answer (calls ++ calls') := by
  cases h
  cases h' with
  | all =>
    rw [← List.map_append]
    exact .all
  | refused =>
    rw [← List.append_assoc, ← List.append_assoc, ← List.map_append]
    exact .refused

/-- After a step that was refused there is nothing more to do. -/
theorem stop {e : TransportError} (h : Carries handle steps (.error e) calls)
    (more : List HeaderStep) : Carries handle (steps ++ more) (.error e) calls := by
  cases h
  rw [List.append_assoc]
  exact .refused

theorem writesOn? (h : Carries handle steps answer calls) :
    ∀ c ∈ calls, c.writesOn? = some handle := by
  cases h with
  | all =>
    intro c hc
    obtain ⟨step, -, rfl⟩ := List.mem_map.1 hc
    rfl
  | refused =>
    intro c hc
    rcases List.mem_append.1 hc with hc | hc
    · obtain ⟨step, -, rfl⟩ := List.mem_map.1 hc
      rfl
    · obtain rfl := List.mem_singleton.1 hc
      rfl

/-- Where nothing went wrong every step was made. -/
theorem eq_of_ok (h : Carries handle steps (.ok ()) calls) :
    calls = steps.map fun step => .header handle step (.ok ()) := by
  cases h
  rfl

/-- A section that was refused on the way was not sent. -/
theorem send_not_mem {status : Http.Status} {layout : Layout}
    {fields : List (FieldName × FieldValue)} {e : TransportError}
    (h : Carries handle (HeaderStep.ofSection status layout fields) (.error e) calls) :
    .header handle .send (.ok ()) ∉ calls := by
  generalize hsteps : HeaderStep.ofSection status layout fields = steps at h
  cases h with
  | @refused done step rest =>
    -- the step that was refused is the last one or comes before it
    have hdone : HeaderStep.init status layout ::
        (fields.map fun f => HeaderStep.field f.1.bytes f.2.bytes) =
          done ++ (step :: rest).dropLast := by
      have hinit := congrArg List.dropLast hsteps
      rwa [HeaderStep.ofSection, List.dropLast_concat, List.dropLast_append_cons] at hinit
    intro hmem
    rcases List.mem_append.1 hmem with hmem | hmem
    · obtain ⟨last, hlast, heq⟩ := List.mem_map.1 hmem
      cases heq
      have hin := List.mem_append_left (step :: rest).dropLast hlast
      rw [← hdone] at hin
      simp at hin
    · cases List.mem_singleton.1 hmem

/-- What went wrong can be heard. -/
theorem not_isAccepted {e : TransportError} (h : Carries handle steps (.error e) calls) :
    ∃ c ∈ calls, c.isAccepted = false := by
  cases h
  exact ⟨_, List.mem_append_right _ List.mem_cons_self, rfl⟩

end Carries

end TransportCall

structure Tapped (τ : Type) where
  inner : τ
  /-- The calls so far, in order. -/
  calls : List TransportCall := []

namespace Tapped

variable {τ : Type}

/-- The transport inside has changed with a call. -/
def hear (t : Tapped τ) (inner : τ) (call : TransportCall) : Tapped τ := ⟨inner, t.calls ++ [call]⟩

instance [Transport τ] : Transport (Tapped τ) where
  allocate t :=
    let (inner, answer) := Transport.allocate t.inner
    (t.hear inner (.allocate answer), answer)
  finalize t handle completion :=
    t.hear (Transport.finalize t.inner handle completion) (.finalize handle completion)
  offer t handle chunk :=
    let (inner, accepted, signals) := Transport.offer t.inner handle chunk
    (t.hear inner (.offer handle chunk accepted), accepted, signals)
  initResponse t handle status layout :=
    let (inner, answer) := Transport.initResponse t.inner handle status layout
    (t.hear inner (.header handle (.init status layout) answer), answer)
  addField t handle name value :=
    let (inner, answer) := Transport.addField t.inner handle name value
    (t.hear inner (.header handle (.field name value) answer), answer)
  sendHeaders t handle :=
    let (inner, answer) := Transport.sendHeaders t.inner handle
    (t.hear inner (.header handle .send answer), answer)

/-- It holds what the transport inside holds. -/
instance [Transport τ] [Transport.Orderly τ] : Transport.Orderly (Tapped τ) where
  received t := Transport.Faithful.received t.inner
  offer_le_size t := Transport.Faithful.offer_le_size t.inner
  received_offer t := Transport.Faithful.received_offer t.inner
  received_initResponse t := Transport.Faithful.received_initResponse t.inner
  received_addField t := Transport.Faithful.received_addField t.inner
  received_sendHeaders t := Transport.Faithful.received_sendHeaders t.inner
  issued t := Transport.Orderly.issued t.inner
  allocate_fresh t := Transport.Orderly.allocate_fresh t.inner
  issued_allocate t := Transport.Orderly.issued_allocate t.inner
  issued_finalize t := Transport.Orderly.issued_finalize t.inner
  issued_offer t := Transport.Orderly.issued_offer t.inner
  issued_initResponse t := Transport.Orderly.issued_initResponse t.inner
  issued_addField t := Transport.Orderly.issued_addField t.inner
  issued_sendHeaders t := Transport.Orderly.issued_sendHeaders t.inner
  received_allocate t := Transport.Orderly.received_allocate t.inner
  received_finalize t := Transport.Orderly.received_finalize t.inner
  received_offer_ne t := Transport.Orderly.received_offer_ne t.inner
  received_initResponse_ne t := Transport.Orderly.received_initResponse_ne t.inner
  received_addField_ne t := Transport.Orderly.received_addField_ne t.inner
  received_sendHeaders_ne t := Transport.Orderly.received_sendHeaders_ne t.inner

end Tapped

/-! ## What is heard of a header section -/

namespace Tapped

open TransportCall

variable {τ : Type}

/-- From one tapped transport to the next the steps were carried out, with this answer. -/
def Hears (t t' : Tapped τ) (handle : HandleId) (steps : List HeaderStep)
    (answer : Except TransportError Unit) : Prop :=
  ∃ calls, t'.calls = t.calls ++ calls ∧ Carries handle steps answer calls

section

variable {t t₁ t₂ : Tapped τ} {handle : HandleId} {steps more : List HeaderStep}
  {answer : Except TransportError Unit}

theorem Hears.append (h : t.Hears t₁ handle steps (.ok ())) (h' : t₁.Hears t₂ handle more answer) :
    t.Hears t₂ handle (steps ++ more) answer := by
  obtain ⟨calls, hcalls, hcarries⟩ := h
  obtain ⟨calls', hcalls', hcarries'⟩ := h'
  refine ⟨calls ++ calls', ?_, hcarries.append hcarries'⟩
  rw [hcalls', hcalls, List.append_assoc]

theorem Hears.stop {e : TransportError} (h : t.Hears t₁ handle steps (.error e))
    (more : List HeaderStep) : t.Hears t₁ handle (steps ++ more) (.error e) := by
  obtain ⟨calls, hcalls, hcarries⟩ := h
  exact ⟨calls, hcalls, hcarries.stop more⟩

end

variable [Transport τ] (t : Tapped τ) (handle : HandleId)

theorem hears_initResponse (status : Http.Status) (layout : Layout) :
    t.Hears (Transport.initResponse t handle status layout).1 handle [.init status layout]
      (Transport.initResponse t handle status layout).2 :=
  ⟨_, rfl, .one _⟩

theorem hears_addField (name value : ByteArray) :
    t.Hears (Transport.addField t handle name value).1 handle [.field name value]
      (Transport.addField t handle name value).2 :=
  ⟨_, rfl, .one _⟩

theorem hears_sendHeaders :
    t.Hears (Transport.sendHeaders t handle).1 handle [.send]
      (Transport.sendHeaders t handle).2 :=
  ⟨_, rfl, .one _⟩

theorem hears_addFields (fields : List (FieldName × FieldValue)) :
    t.Hears (Transport.addFields t handle fields).1 handle
      (fields.map fun f => .field f.1.bytes f.2.bytes)
      (Transport.addFields t handle fields).2 := by
  induction fields generalizing t with
  | nil => exact ⟨[], (List.append_nil _).symm, .all⟩
  | cons f rest ih =>
    obtain ⟨name, value⟩ := f
    have hfirst := t.hears_addField handle name.bytes value.bytes
    revert hfirst
    simp only [Transport.addFields]
    rcases Transport.addField t handle name.bytes value.bytes with ⟨t₁, e | ⟨⟨⟩⟩⟩ <;> intro hfirst
    · exact hfirst.stop _
    · exact hfirst.append (ih t₁)

/-- A section is begun, filled and sent, as far as the transport lets it. -/
theorem hears_sendSection (status : Http.Status) (layout : Layout)
    (fields : List (FieldName × FieldValue)) :
    t.Hears (Transport.sendSection t handle status layout fields).1 handle
      (HeaderStep.ofSection status layout fields)
      (Transport.sendSection t handle status layout fields).2 := by
  have hinit := t.hears_initResponse handle status layout
  revert hinit
  simp only [Transport.sendSection]
  rcases Transport.initResponse t handle status layout with ⟨t₁, e | ⟨⟨⟩⟩⟩ <;> intro hinit
  · exact hinit.stop _
  · have hfields := t₁.hears_addFields handle fields
    revert hfields
    dsimp only
    rcases Transport.addFields t₁ handle fields with ⟨t₂, e | ⟨⟨⟩⟩⟩ <;> intro hfields
    · exact hinit.append (hfields.stop _)
    · exact hinit.append (hfields.append (t₂.hears_sendHeaders handle))

end Tapped

end Sluice
