import Sluice.Transport.Loopback

/-!
# Faults

A loopback transport whose calls fail by a plan. The plan names calls by number, counted per kind
of call from one. An allocation or a header call that is to fail does not reach the loopback; an
offer always does, but it may be cut short, its answer may be raised, and signals may come
meanwhile.
-/
namespace Sluice

/-- What happens in an offer after the loopback took its bytes. -/
inductive Disturbance where
  /-- The answer tells of this many bytes more than were taken. -/
  | extra (n : Nat)
  | ack (count : Nat)
  | ackAll (count : Nat)
  | drain
deriving DecidableEq, Inhabited

/-- What the plan says of an offer. -/
inductive OfferFault where
  /-- The loopback is offered at most this many of the bytes. -/
  | limit (n : Nat)
  | disturb (d : Disturbance)
deriving DecidableEq, Inhabited

structure FaultPlan where
  allocate : List Nat := []
  headerCall : HeaderCall → List Nat := fun _ => []
  /-- What happens in which offer; an offer may be named more than once. -/
  offer : List (Nat × OfferFault) := []

instance : Inhabited FaultPlan := ⟨{}⟩

namespace FaultPlan

/-- What the plan says of the offer with this number, in order. -/
def offerFaults (p : FaultPlan) (number : Nat) : List OfferFault :=
  (p.offer.filter fun f => f.1 = number).map Prod.snd

/-- The smallest limit, applied to `size` bytes. -/
def limitOf (faults : List OfferFault) (size : Nat) : Nat :=
  faults.foldl (fun n f => match f with
    | .limit m => min n m
    | .disturb _ => n) size

def disturbances (faults : List OfferFault) : List Disturbance :=
  faults.filterMap fun f => match f with
    | .limit _ => none
    | .disturb d => some d

end FaultPlan

/-- How many calls of each kind were made. -/
structure CallCounts where
  allocate : Nat := 0
  initResponse : Nat := 0
  addField : Nat := 0
  sendHeaders : Nat := 0
  offer : Nat := 0
deriving DecidableEq, Inhabited

structure Faulty where
  inner : Loopback := {}
  plan : FaultPlan := {}
  calls : CallCounts := {}
deriving Inhabited

namespace Faulty

/-- The reason given for every planned failure. -/
def reason : String := "injected"

def refused (call : HeaderCall) : Except TransportError Unit := .error (.rejected call reason)

/-- One disturbance of an offer: the answer and the signals so far, and what it adds. -/
def disturb (handle : HandleId) (t : Loopback) (accepted : Nat) (signals : List Signal) :
    Disturbance → Loopback × Nat × List Signal
  | .extra n => (t, accepted + n, signals)
  | .ack count => (t, accepted, signals ++ [.ack handle count])
  | .ackAll count => (t, accepted, signals ++ [.ackAll count])
  | .drain =>
    let (t, _, more) := t.drain handle
    (t, accepted, signals ++ more)

def disturbAll (handle : HandleId) (t : Loopback) (accepted : Nat) (signals : List Signal) :
    List Disturbance → Loopback × Nat × List Signal
  | [] => (t, accepted, signals)
  | d :: rest =>
    let (t, accepted, signals) := disturb handle t accepted signals d
    disturbAll handle t accepted signals rest

def allocate (t : Faulty) : Faulty × Except TransportError HandleId :=
  let number := t.calls.allocate + 1
  let t := { t with calls := { t.calls with allocate := number } }
  if number ∈ t.plan.allocate then (t, .error (.allocate reason))
  else
    let (inner, handle) := t.inner.allocate
    ({ t with inner }, .ok handle)

def finalize (t : Faulty) (handle : HandleId) (completion : Completion) : Faulty :=
  { t with inner := t.inner.finalize handle completion }

def offer (t : Faulty) (handle : HandleId) (chunk : ByteArray) : Faulty × Nat × List Signal :=
  let number := t.calls.offer + 1
  let faults := t.plan.offerFaults number
  let (inner, accepted) :=
    t.inner.offer handle (chunk.extract 0 (FaultPlan.limitOf faults chunk.size))
  let (inner, accepted, signals) :=
    disturbAll handle inner accepted [] (FaultPlan.disturbances faults)
  ({ t with inner, calls := { t.calls with offer := number } }, accepted, signals)

def initResponse (t : Faulty) (handle : HandleId) (status : Http.Status) (layout : Layout) :
    Faulty × Except TransportError Unit :=
  let number := t.calls.initResponse + 1
  let t := { t with calls := { t.calls with initResponse := number } }
  if number ∈ t.plan.headerCall .initResponse then (t, refused .initResponse)
  else ({ t with inner := t.inner.initResponse handle status layout }, .ok ())

def addField (t : Faulty) (handle : HandleId) (name value : ByteArray) :
    Faulty × Except TransportError Unit :=
  let number := t.calls.addField + 1
  let t := { t with calls := { t.calls with addField := number } }
  if number ∈ t.plan.headerCall .addField then (t, refused .addField)
  else
    let (inner, answer) := t.inner.addField handle name value
    ({ t with inner }, answer)

def sendHeaders (t : Faulty) (handle : HandleId) : Faulty × Except TransportError Unit :=
  let number := t.calls.sendHeaders + 1
  let t := { t with calls := { t.calls with sendHeaders := number } }
  if number ∈ t.plan.headerCall .sendHeaders then (t, refused .sendHeaders)
  else
    let (inner, answer) := t.inner.sendHeaders handle
    ({ t with inner }, answer)

instance : Transport Faulty where
  allocate := allocate
  finalize := finalize
  offer := offer
  initResponse := initResponse
  addField := addField
  sendHeaders := sendHeaders

end Faulty

end Sluice
