import Sluice.Acks.Board
import Sluice.Transport.Basic

/-!
# Links

A link is what writers work on: a transport, the boards they register on, and the log. The
transport's acknowledgments reach the shared board. A dispatcher may keep a board of its own,
which no acknowledgment reaches.
-/
namespace Sluice

/-- Which of the two boards is meant. -/
inductive BoardName where
  | shared
  | own
deriving DecidableEq, Inhabited

structure Link (τ : Type) where
  transport : τ
  shared : AckBoard := {}
  own : AckBoard := {}
  /-- What was reported so far, in order. -/
  log : Array Event := #[]

namespace Link

variable {τ : Type}

def board (l : Link τ) : BoardName → AckBoard
  | .shared => l.shared
  | .own => l.own

def setBoard (l : Link τ) (name : BoardName) (b : AckBoard) : Link τ :=
  match name with
  | .shared => { l with shared := b }
  | .own => { l with own := b }

def report (l : Link τ) (e : Event) : Link τ := { l with log := l.log.push e }

def reportAll (l : Link τ) (events : List Event) : Link τ :=
  { l with log := l.log ++ events.toArray }

/-- Passes a signal of the transport on. -/
def raise (l : Link τ) : Signal → Link τ
  | .drained handle freed => l.report (.drained handle freed)
  | .ack handle count =>
    let (b, events, _) := l.shared.notifyHandle handle count
    { l with shared := b }.reportAll events
  | .ackAll count =>
    let (b, events, _) := l.shared.notifyAll count
    { l with shared := b }.reportAll events

def raiseAll (l : Link τ) (signals : List Signal) : Link τ := signals.foldl raise l

/-- A new waiter on the named board. -/
def openMailbox (l : Link τ) (name : BoardName) : Link τ × WaiterId :=
  let (b, waiter) := (l.board name).openMailbox
  (l.setBoard name b, waiter)

def closeMailbox (l : Link τ) (name : BoardName) (waiter : WaiterId) : Link τ :=
  l.setBoard name ((l.board name).closeMailbox waiter)

def attach (l : Link τ) (name : BoardName) (handle : HandleId) (waiter : WaiterId) : Link τ :=
  let (b, events) := (l.board name).attach handle waiter
  (l.setBoard name b).reportAll events

def detach (l : Link τ) (name : BoardName) (handle : HandleId) : Link τ :=
  l.setBoard name ((l.board name).detach handle).1

/-! ## What leaves the transport alone -/

@[simp] theorem transport_setBoard (l : Link τ) (name : BoardName) (b : AckBoard) :
    (l.setBoard name b).transport = l.transport := by
  cases name <;> rfl

@[simp] theorem transport_report (l : Link τ) (e : Event) :
    (l.report e).transport = l.transport := rfl

@[simp] theorem transport_reportAll (l : Link τ) (events : List Event) :
    (l.reportAll events).transport = l.transport := rfl

@[simp] theorem transport_raise (l : Link τ) (signal : Signal) :
    (l.raise signal).transport = l.transport := by
  cases signal <;> rfl

@[simp] theorem transport_raiseAll (l : Link τ) (signals : List Signal) :
    (l.raiseAll signals).transport = l.transport := by
  induction signals generalizing l with
  | nil => rfl
  | cons signal rest ih => exact (ih (l.raise signal)).trans (l.transport_raise signal)

@[simp] theorem transport_openMailbox (l : Link τ) (name : BoardName) :
    (l.openMailbox name).1.transport = l.transport :=
  l.transport_setBoard ..

@[simp] theorem transport_closeMailbox (l : Link τ) (name : BoardName) (waiter : WaiterId) :
    (l.closeMailbox name waiter).transport = l.transport :=
  l.transport_setBoard ..

@[simp] theorem transport_attach (l : Link τ) (name : BoardName) (handle : HandleId)
    (waiter : WaiterId) : (l.attach name handle waiter).transport = l.transport :=
  l.transport_setBoard ..

@[simp] theorem transport_detach (l : Link τ) (name : BoardName) (handle : HandleId) :
    (l.detach name handle).transport = l.transport :=
  l.transport_setBoard ..

variable [Transport τ]

def allocate (l : Link τ) : Link τ × Except TransportError HandleId :=
  let (t, answer) := Transport.allocate l.transport
  ({ l with transport := t }, answer)

def finalize (l : Link τ) (handle : HandleId) : Link τ :=
  { l with transport := Transport.finalize l.transport handle .ok }

/-- Offers bytes. The signals raised meanwhile are passed on before the answer is looked at. -/
def offer (l : Link τ) (handle : HandleId) (chunk : ByteArray) : Link τ × Nat :=
  let (t, accepted, signals) := Transport.offer l.transport handle chunk
  ({ l with transport := t }.raiseAll signals, accepted)

@[simp] theorem transport_offer (l : Link τ) (handle : HandleId) (chunk : ByteArray) :
    (l.offer handle chunk).1.transport = (Transport.offer l.transport handle chunk).1 :=
  transport_raiseAll ..

def sendSection (l : Link τ) (handle : HandleId) (status : Http.Status) (layout : Layout)
    (fields : List (FieldName × FieldValue)) : Link τ × Except TransportError Unit :=
  let (t, answer) := Transport.sendSection l.transport handle status layout fields
  ({ l with transport := t }, answer)

theorem sendSection_eq_iff {l l' : Link τ} {handle : HandleId} {status : Http.Status}
    {layout : Layout} {fields : List (FieldName × FieldValue)}
    {answer : Except TransportError Unit} :
    l.sendSection handle status layout fields = (l', answer) ↔
      Transport.sendSection l.transport handle status layout fields = (l'.transport, answer) ∧
        l' = { l with transport := l'.transport } := by
  unfold sendSection
  rcases Transport.sendSection l.transport handle status layout fields with ⟨t, a⟩
  constructor
  · intro h
    cases h
    exact ⟨rfl, rfl⟩
  · rintro ⟨h, hl⟩
    cases h
    exact Prod.ext hl.symm rfl

end Link

end Sluice
