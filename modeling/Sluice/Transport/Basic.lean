import Sluice.Error
import Sluice.Fields.Layout
import Sluice.Handle
import Sluice.Http.Status

/-!
# Transports

A transport owns request handles and moves body bytes through a bounded buffer to the front end.
None of its calls blocks: a full buffer shows in an offer that is accepted in part or not at all.
Freed space is told by signals, which may be raised at any time, also while an offer is made.
-/
namespace Sluice

/-- What a transport tells while it works. -/
inductive Signal where
  /-- The front end took `freed` bytes out of the buffer of a handle. -/
  | drained (handle : HandleId) (freed : Nat)
  /-- Space was freed for one handle. -/
  | ack (handle : HandleId) (count : Nat)
  /-- Space was freed, and it is not known for which handle. -/
  | ackAll (count : Nat)
deriving DecidableEq, Inhabited

/-- The calls of a transport with state `τ`. A header section is `initResponse`, one `addField`
for each field instance, and `sendHeaders`. -/
class Transport (τ : Type) where
  allocate : τ → τ × Except TransportError HandleId
  finalize : τ → HandleId → Completion → τ
  /-- Offers bytes to the buffer. The answer is how many were accepted, and the signals raised
  meanwhile, in order. -/
  offer : τ → HandleId → ByteArray → τ × Nat × List Signal
  initResponse : τ → HandleId → Http.Status → Layout → τ × Except TransportError Unit
  addField : τ → HandleId → (name value : ByteArray) → τ × Except TransportError Unit
  sendHeaders : τ → HandleId → τ × Except TransportError Unit

namespace Transport

variable {τ : Type} [Transport τ]

/-- Adds fields in order, up to the first that is refused. -/
def addFields (t : τ) (handle : HandleId) :
    List (FieldName × FieldValue) → τ × Except TransportError Unit
  | [] => (t, .ok ())
  | (name, value) :: rest =>
    match addField t handle name.bytes value.bytes with
    | (t, .ok ()) => addFields t handle rest
    | (t, .error e) => (t, .error e)

/-- Sends a whole header section; a refused call is the last one. -/
def sendSection (t : τ) (handle : HandleId) (status : Http.Status) (layout : Layout)
    (fields : List (FieldName × FieldValue)) : τ × Except TransportError Unit :=
  match initResponse t handle status layout with
  | (t, .error e) => (t, .error e)
  | (t, .ok ()) =>
    match addFields t handle fields with
    | (t, .error e) => (t, .error e)
    | (t, .ok ()) => sendHeaders t handle

theorem addFields_induct {P : τ → Prop} {handle : HandleId}
    (hadd : ∀ t name value, P t → P (addField t handle name value).1) {t : τ} (h : P t)
    (fields : List (FieldName × FieldValue)) : P (addFields t handle fields).1 := by
  induction fields generalizing t with
  | nil => exact h
  | cons f rest ih =>
    obtain ⟨name, value⟩ := f
    have ht := hadd t name.bytes value.bytes h
    revert ht
    simp only [addFields]
    rcases addField t handle name.bytes value.bytes with ⟨t', e | ⟨⟨⟩⟩⟩ <;> intro ht
    · exact ht
    · exact ih ht

/-- What each header call keeps is kept when a header section is sent, however far it gets. -/
theorem sendSection_induct {P : τ → Prop} {handle : HandleId}
    (hinit : ∀ t status layout, P t → P (initResponse t handle status layout).1)
    (hadd : ∀ t name value, P t → P (addField t handle name value).1)
    (hsend : ∀ t, P t → P (sendHeaders t handle).1) {t : τ} (h : P t) (status : Http.Status)
    (layout : Layout) (fields : List (FieldName × FieldValue)) :
    P (sendSection t handle status layout fields).1 := by
  have h₁ := hinit t status layout h
  revert h₁
  simp only [sendSection]
  rcases initResponse t handle status layout with ⟨t₁, e | ⟨⟨⟩⟩⟩ <;> intro h₁
  · exact h₁
  · have h₂ := addFields_induct hadd h₁ fields
    revert h₂
    dsimp only
    rcases addFields t₁ handle fields with ⟨t₂, e | ⟨⟨⟩⟩⟩ <;> intro h₂
    · exact h₂
    · exact hsend t₂ h₂

end Transport

end Sluice
