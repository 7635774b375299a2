import Sluice.Transport.Loopback

/-!
# Faithful transports

What a faithful transport was given for a response can be read back from it: of an offer it takes
as many bytes as it answers, from the front of the chunk, and a new header section begins with no
fields and no body. What a refused call leaves behind is not said. On an orderly transport the
handles do not get in each other's way either, and none is allocated twice.
-/
namespace Sluice

/-- What a transport holds of the response on one handle. -/
structure Received where
  status : Option Http.Status := none
  /-- Names and values as they came. -/
  fields : List (ByteArray × ByteArray) := []
  headersSent : Bool := false
  body : ByteArray := .empty
deriving DecidableEq, Inhabited

namespace Received

/-- The response with these bytes after its body. -/
def append (r : Received) (bytes : ByteArray) : Received := { r with body := r.body ++ bytes }

/-- The response with these fields after its own. -/
def addFields (r : Received) (fields : List (FieldName × FieldValue)) : Received :=
  { r with fields := r.fields ++ fields.map fun f => (f.1.bytes, f.2.bytes) }

/-- A response whose header section was sent, and no body yet. -/
def ofHeader (status : Http.Status) (fields : Fields) : Received where
  status := some status
  fields := fields.instances.map fun f => (f.1.bytes, f.2.bytes)
  headersSent := true

@[simp] theorem body_append (r : Received) (bytes : ByteArray) :
    (r.append bytes).body = r.body ++ bytes := rfl

@[simp] theorem append_append (r : Received) (a b : ByteArray) :
    (r.append a).append b = r.append (a ++ b) := by
  simp [append, ByteArray.append_assoc]

@[simp] theorem append_empty (r : Received) : r.append .empty = r := by
  simp [append]

end Received

namespace Transport

class Faithful (τ : Type) [Transport τ] where
  received : τ → HandleId → Received
  offer_le_size : ∀ (t : τ) handle chunk, (offer t handle chunk).2.1 ≤ chunk.size
  received_offer : ∀ (t : τ) handle chunk,
    received (offer t handle chunk).1 handle =
      (received t handle).append (chunk.extract 0 (offer t handle chunk).2.1)
  received_initResponse : ∀ (t : τ) handle status layout,
    (initResponse t handle status layout).2 = .ok () →
      received (initResponse t handle status layout).1 handle = { status := some status }
  received_addField : ∀ (t : τ) handle name value,
    (addField t handle name value).2 = .ok () →
      received (addField t handle name value).1 handle =
        { received t handle with fields := (received t handle).fields ++ [(name, value)] }
  received_sendHeaders : ∀ (t : τ) handle,
    (sendHeaders t handle).2 = .ok () →
      received (sendHeaders t handle).1 handle = { received t handle with headersSent := true }

class Orderly (τ : Type) [Transport τ] extends Faithful τ where
  /-- The handle was allocated. -/
  issued : τ → HandleId → Prop
  allocate_fresh : ∀ (t : τ) handle, (allocate t).2 = .ok handle →
    ¬ issued t handle ∧ issued (allocate t).1 handle
  issued_allocate : ∀ (t : τ) g, issued t g → issued (allocate t).1 g
  issued_finalize : ∀ (t : τ) handle completion g, issued t g →
    issued (finalize t handle completion) g
  issued_offer : ∀ (t : τ) handle chunk g, issued t g → issued (offer t handle chunk).1 g
  issued_initResponse : ∀ (t : τ) handle status layout g, issued t g →
    issued (initResponse t handle status layout).1 g
  issued_addField : ∀ (t : τ) handle name value g, issued t g →
    issued (addField t handle name value).1 g
  issued_sendHeaders : ∀ (t : τ) handle g, issued t g → issued (sendHeaders t handle).1 g
  received_allocate : ∀ (t : τ) g, received (allocate t).1 g = received t g
  received_finalize : ∀ (t : τ) handle completion g,
    received (finalize t handle completion) g = received t g
  received_offer_ne : ∀ (t : τ) handle chunk g, g ≠ handle →
    received (offer t handle chunk).1 g = received t g
  received_initResponse_ne : ∀ (t : τ) handle status layout g, g ≠ handle →
    received (initResponse t handle status layout).1 g = received t g
  received_addField_ne : ∀ (t : τ) handle name value g, g ≠ handle →
    received (addField t handle name value).1 g = received t g
  received_sendHeaders_ne : ∀ (t : τ) handle g, g ≠ handle →
    received (sendHeaders t handle).1 g = received t g

variable {τ : Type} [Transport τ]

section Faithful

variable [Faithful τ]
open Faithful

theorem received_addFields (t : τ) (handle : HandleId) (fields : List (FieldName × FieldValue))
    (h : (addFields t handle fields).2 = .ok ()) :
    received (addFields t handle fields).1 handle = (received t handle).addFields fields := by
  induction fields generalizing t with
  | nil => simp [addFields, Received.addFields]
  | cons f rest ih =>
    obtain ⟨name, value⟩ := f
    have hadd := received_addField t handle name.bytes value.bytes
    revert h hadd
    simp only [addFields]
    rcases addField t handle name.bytes value.bytes with ⟨t', e | ⟨⟨⟩⟩⟩
    · intro h
      cases h
    · intro h hadd
      rw [ih t' h, hadd rfl]
      simp [Received.addFields]

/-- A header section that was sent is held as it was sent, and the body begins. -/
theorem received_sendSection (t : τ) (handle : HandleId) (status : Http.Status) (layout : Layout)
    (fields : Fields) (h : (sendSection t handle status layout fields.instances).2 = .ok ()) :
    received (sendSection t handle status layout fields.instances).1 handle =
      Received.ofHeader status fields := by
  have hinit := received_initResponse t handle status layout
  revert h hinit
  simp only [sendSection]
  rcases initResponse t handle status layout with ⟨t₁, e | ⟨⟨⟩⟩⟩
  · intro h
    cases h
  · have hadd := received_addFields t₁ handle fields.instances
    revert hadd
    dsimp only
    rcases addFields t₁ handle fields.instances with ⟨t₂, e | ⟨⟨⟩⟩⟩
    · intro _ h
      cases h
    · intro hadd h hinit
      rw [received_sendHeaders t₂ handle h, hadd rfl, hinit rfl]
      simp [Received.addFields, Received.ofHeader]

end Faithful

end Transport

/-! ## The loopback transport is orderly -/

namespace Loopback

/-- What an exchange tells of its response. -/
def Exchange.received (e : Exchange) : Received := ⟨e.status, e.fields, e.headersSent, e.body⟩

/-- A header call that succeeds finds the exchange of its handle and changes that one alone. -/
theorem addField_eq_ok {t t' : Loopback} {handle : HandleId} {name value : ByteArray}
    (h : t.addField handle name value = (t', .ok ())) :
    t' = t.set handle { t.exchange handle with
      fields := (t.exchange handle).fields ++ [(name, value)] } := by
  unfold addField at h
  split at h
  · cases h
  · rename_i e he
    split at h
    · cases h
    · cases h
      simp [exchange, he]

theorem sendHeaders_eq_ok {t t' : Loopback} {handle : HandleId}
    (h : t.sendHeaders handle = (t', .ok ())) :
    t' = t.set handle { t.exchange handle with headersSent := true } := by
  unfold sendHeaders at h
  split at h
  · cases h
  · rename_i e he
    cases h
    simp [exchange, he]

/-- A header call that is refused changes nothing. -/
theorem addField_eq_error {t t' : Loopback} {handle : HandleId} {name value : ByteArray}
    {e : TransportError} (h : t.addField handle name value = (t', .error e)) : t' = t := by
  unfold addField at h
  split at h
  · cases h
    rfl
  · split at h
    · cases h
      rfl
    · cases h

theorem sendHeaders_eq_error {t t' : Loopback} {handle : HandleId} {e : TransportError}
    (h : t.sendHeaders handle = (t', .error e)) : t' = t := by
  unfold sendHeaders at h
  split at h
  · cases h
    rfl
  · cases h

theorem exchange_addField_ne (t : Loopback) {handle g : HandleId} (name value : ByteArray)
    (h : g ≠ handle) : (t.addField handle name value).1.exchange g = t.exchange g := by
  rcases hcall : t.addField handle name value with ⟨t', e | ⟨⟨⟩⟩⟩
  · rw [addField_eq_error hcall]
  · rw [addField_eq_ok hcall, exchange_set, if_neg (Ne.symm h)]

theorem exchange_sendHeaders_ne (t : Loopback) {handle g : HandleId} (h : g ≠ handle) :
    (t.sendHeaders handle).1.exchange g = t.exchange g := by
  rcases hcall : t.sendHeaders handle with ⟨t', e | ⟨⟨⟩⟩⟩
  · rw [sendHeaders_eq_error hcall]
  · rw [sendHeaders_eq_ok hcall, exchange_set, if_neg (Ne.symm h)]

theorem allocated_addField (t : Loopback) (handle : HandleId) (name value : ByteArray) :
    (t.addField handle name value).1.allocated = t.allocated := by
  rcases hcall : t.addField handle name value with ⟨t', e | ⟨⟨⟩⟩⟩
  · rw [addField_eq_error hcall]
  · rw [addField_eq_ok hcall]
    rfl

theorem allocated_sendHeaders (t : Loopback) (handle : HandleId) :
    (t.sendHeaders handle).1.allocated = t.allocated := by
  rcases hcall : t.sendHeaders handle with ⟨t', e | ⟨⟨⟩⟩⟩
  · rw [sendHeaders_eq_error hcall]
  · rw [sendHeaders_eq_ok hcall]
    rfl

/-- Draining leaves every response as it is. -/
theorem received_exchange_drain (t : Loopback) (handle g : HandleId) :
    ((t.drain handle).1.exchange g).received = (t.exchange g).received := by
  unfold drain
  split
  · rfl
  · rename_i e he
    rw [exchange_set]
    split
    · rename_i hg
      simp [← hg, exchange, he, Exchange.received]
    · rfl

theorem allocated_drain (t : Loopback) (handle : HandleId) :
    (t.drain handle).1.allocated = t.allocated := by
  unfold drain
  split <;> rfl

instance : Transport.Orderly Loopback where
  received t handle := (t.exchange handle).received
  offer_le_size t handle chunk := room_le ..
  received_offer t handle chunk := by
    simp [Transport.offer, offer, exchange_set, Exchange.received, Received.append]
  received_initResponse t handle status layout _ := by
    simp [Transport.initResponse, initResponse, exchange_set, Exchange.received]
  received_addField t handle name value h := by
    have hcall : t.addField handle name value = ((t.addField handle name value).1, .ok ()) :=
      Prod.ext rfl h
    show ((t.addField handle name value).1.exchange handle).received = _
    rw [addField_eq_ok hcall, exchange_set, if_pos rfl]
    rfl
  received_sendHeaders t handle h := by
    have hcall : t.sendHeaders handle = ((t.sendHeaders handle).1, .ok ()) := Prod.ext rfl h
    show ((t.sendHeaders handle).1.exchange handle).received = _
    rw [sendHeaders_eq_ok hcall, exchange_set, if_pos rfl]
    rfl
  issued t handle := handle.number ≤ t.allocated
  allocate_fresh t handle h := by
    cases h
    exact ⟨Nat.not_succ_le_self _, Nat.le_refl _⟩
  issued_allocate t g h := Nat.le_succ_of_le h
  issued_finalize t handle completion g h := h
  issued_offer t handle chunk g h := h
  issued_initResponse t handle status layout g h := h
  issued_addField t handle name value g h := by
    show g.number ≤ (t.addField handle name value).1.allocated
    rwa [allocated_addField]
  issued_sendHeaders t handle g h := by
    show g.number ≤ (t.sendHeaders handle).1.allocated
    rwa [allocated_sendHeaders]
  received_allocate t g := rfl
  received_finalize t handle completion g := rfl
  received_offer_ne t handle chunk g h := by
    simp [Transport.offer, offer, exchange_set, Ne.symm h]
  received_initResponse_ne t handle status layout g h := by
    simp [Transport.initResponse, initResponse, exchange_set, Ne.symm h]
  received_addField_ne t handle name value g h :=
    congrArg Exchange.received (t.exchange_addField_ne name value h)
  received_sendHeaders_ne t handle g h :=
    congrArg Exchange.received (t.exchange_sendHeaders_ne h)

end Loopback

end Sluice
