import Sluice.Table
import Sluice.Transport.Basic

/-!
# The loopback transport

A transport in memory. It keeps, for each handle, the latest response it was given. Accepted
bytes take up buffer space until the handle is drained.
-/
namespace Sluice

/-- To whom freed space is acknowledged. -/
inductive AckRouting where
  | perHandle
  | context
deriving DecidableEq, Inhabited

namespace Loopback

/-- The latest response given on one handle. -/
structure Exchange where
  status : Option Http.Status := none
  /-- The layout that was announced for the header section. -/
  declared : Layout := ⟨0, 0⟩
  /-- Names and values as they came. -/
  fields : List (ByteArray × ByteArray) := []
  headersSent : Bool := false
  body : ByteArray := .empty
  offers : Nat := 0
  /-- Bytes accepted and not yet drained. -/
  pending : Nat := 0
deriving DecidableEq, Inhabited

/-- The small letter of a capital ASCII letter. -/
def foldCase (text : String) : List Nat := text.toList.map fun c => Http.lower c.toNat

/-- The values of all fields of this name, whatever the case of its letters. -/
def Exchange.valuesOf (e : Exchange) (name : String) : List String :=
  (e.fields.filter fun f => foldCase (Text.ofBytes f.1) = foldCase name).map
    fun f => Text.ofBytes f.2

end Loopback

structure Loopback where
  /-- The buffer space of each handle; unbounded without it. -/
  capacity : Option Nat := none
  /-- Where freed space is acknowledged, if anywhere. -/
  routing : Option AckRouting := none
  /-- How many handles were allocated; they are numbered from one. -/
  allocated : Nat := 0
  exchanges : Table HandleId Loopback.Exchange := .empty
  finalized : Table HandleId Completion := .empty
deriving DecidableEq, Inhabited

namespace Loopback

/-- How many of `wanted` bytes fit beside `pending` ones. -/
def room (capacity : Option Nat) (pending wanted : Nat) : Nat :=
  match capacity with
  | none => wanted
  | some c => min (c - pending) wanted

/-- The exchange of a handle, empty if there was none. -/
def exchange (t : Loopback) (handle : HandleId) : Exchange :=
  (t.exchanges.find? handle).getD {}

def set (t : Loopback) (handle : HandleId) (e : Exchange) : Loopback :=
  { t with exchanges := t.exchanges.insert handle e }

def allocate (t : Loopback) : Loopback × HandleId :=
  ({ t with allocated := t.allocated + 1 }, ⟨t.allocated + 1⟩)

def finalize (t : Loopback) (handle : HandleId) (completion : Completion) : Loopback :=
  { t with finalized := t.finalized.insert handle completion }

/-- Accepts the first bytes, as many as fit. -/
def offer (t : Loopback) (handle : HandleId) (chunk : ByteArray) : Loopback × Nat :=
  let e := t.exchange handle
  let accepted := room t.capacity e.pending chunk.size
  (t.set handle
    { e with
      offers := e.offers + 1
      body := e.body ++ chunk.extract 0 accepted
      pending := e.pending + accepted },
    accepted)

/-- A new response begins; nothing of the last one on the handle is kept. -/
def initResponse (t : Loopback) (handle : HandleId) (status : Http.Status) (layout : Layout) :
    Loopback :=
  t.set handle { status := some status, declared := layout }

def addField (t : Loopback) (handle : HandleId) (name value : ByteArray) :
    Loopback × Except TransportError Unit :=
  match t.exchanges.find? handle with
  | none => (t, .error (.rejected .addField "response not initialized"))
  | some e =>
    if e.headersSent then (t, .error (.rejected .addField "headers already sent"))
    else (t.set handle { e with fields := e.fields ++ [(name, value)] }, .ok ())

def sendHeaders (t : Loopback) (handle : HandleId) : Loopback × Except TransportError Unit :=
  match t.exchanges.find? handle with
  | none => (t, .error (.rejected .sendHeaders "response not initialized"))
  | some e => (t.set handle { e with headersSent := true }, .ok ())

/-- The signals of `freed` bytes taken out of a buffer: none if there were none. -/
def drainSignals (routing : Option AckRouting) (handle : HandleId) (freed : Nat) : List Signal :=
  if freed = 0 then []
  else .drained handle freed ::
    match routing with
    | none => []
    | some .perHandle => [.ack handle 1]
    | some .context => [.ackAll 1]

/-- Empties the buffer of a handle and tells how many bytes that freed. -/
def drain (t : Loopback) (handle : HandleId) : Loopback × Nat × List Signal :=
  match t.exchanges.find? handle with
  | none => (t, 0, [])
  | some e =>
    (t.set handle { e with pending := 0 }, e.pending, drainSignals t.routing handle e.pending)

/-- Empties the buffers of these handles in turn. -/
def drainEach (t : Loopback) : List HandleId → Loopback × Nat × List Signal
  | [] => (t, 0, [])
  | handle :: rest =>
    let (t, freed, signals) := t.drain handle
    let (t, more, later) := t.drainEach rest
    (t, freed + more, signals ++ later)

/-- Empties every buffer that holds something. -/
def drainAll (t : Loopback) : Loopback × Nat × List Signal :=
  t.drainEach ((t.exchanges.filter fun _ e => 0 < e.pending).keys)

/-- The handles given back, by number. -/
def finalizedHandles (t : Loopback) : List (HandleId × Completion) :=
  t.finalized.entries.mergeSort fun a b => a.1.number ≤ b.1.number

theorem room_le (capacity : Option Nat) (pending wanted : Nat) :
    room capacity pending wanted ≤ wanted := by
  cases capacity with
  | none => exact Nat.le_refl _
  | some c => exact Nat.min_le_right ..

/-- A call on one handle leaves the exchanges of the others alone. -/
theorem exchange_set (t : Loopback) (handle other : HandleId) (e : Exchange) :
    (t.set handle e).exchange other = if handle = other then e else t.exchange other := by
  unfold exchange set
  rw [Table.find?_insert]
  split <;> rfl

/-- A drain empties the buffer of its own handle and leaves the others as they are. -/
theorem pending_drain (t : Loopback) (drained handle : HandleId) :
    ((t.drain drained).1.exchange handle).pending =
      if drained = handle then 0 else (t.exchange handle).pending := by
  unfold drain
  split
  · rename_i hnone
    split
    · rename_i heq
      simp [exchange, ← heq, hnone]
    · rfl
  · rw [exchange_set]
    split <;> rfl

/-- A drain tells of what it freed. -/
theorem signals_drain (t : Loopback) (handle : HandleId) :
    (t.drain handle).2.2 = drainSignals t.routing handle (t.exchange handle).pending := by
  unfold drain exchange
  cases t.exchanges.find? handle <;> rfl

theorem capacity_drain (t : Loopback) (handle : HandleId) :
    (t.drain handle).1.capacity = t.capacity := by
  unfold drain
  split <;> rfl

theorem routing_drain (t : Loopback) (handle : HandleId) :
    (t.drain handle).1.routing = t.routing := by
  unfold drain
  split <;> rfl

/-- An offer fills the buffer of its own handle and leaves the others as they are. -/
theorem pending_offer (t : Loopback) (offered handle : HandleId) (chunk : ByteArray) :
    ((t.offer offered chunk).1.exchange handle).pending =
      if offered = handle then (t.exchange offered).pending + (t.offer offered chunk).2
      else (t.exchange handle).pending := by
  simp only [offer, exchange_set]
  split <;> rfl

instance : Transport Loopback where
  allocate t := let (t, handle) := t.allocate; (t, .ok handle)
  finalize := finalize
  offer t handle chunk := let (t, accepted) := t.offer handle chunk; (t, accepted, [])
  initResponse t handle status layout := (t.initResponse handle status layout, .ok ())
  addField := addField
  sendHeaders := sendHeaders

end Loopback

end Sluice
