import Mathlib.Algebra.Ring.Nat
import Mathlib.Data.List.Basic
import Sluice.Transport.Faithful
import Sluice.Transport.Tapped

/-!
# What is asked of a loopback transport

Calls and drains in any order, on any handles. Each is written down with its answer and the signals
that it raised. `Turns` says once what an entry makes of the exchange of one handle; whatever holds
of exchanges after any history is proved from it.
-/
namespace Sluice

namespace Signal

/-- How many bytes the signal says were taken out of the buffer of this handle. -/
def freed (handle : HandleId) : Signal → Nat
  | .drained other n => if other = handle then n else 0
  | _ => 0

/-- The signal acknowledges space. -/
def isAck : Signal → Bool
  | .drained .. => false
  | .ack .. | .ackAll _ => true

end Signal

namespace Loopback

/-- What a loopback transport can be asked. -/
inductive Op where
  | allocate
  | finalize (handle : HandleId) (completion : Completion)
  | init (handle : HandleId) (status : Http.Status) (layout : Layout)
  | field (handle : HandleId) (name value : ByteArray)
  | send (handle : HandleId)
  | offer (handle : HandleId) (chunk : ByteArray)
  | drain (handle : HandleId)
  | drainAll
deriving DecidableEq

namespace Op

/-- The handle whose exchange it is about. -/
def handle? : Op → Option HandleId
  | .init handle .. | .field handle .. | .send handle | .offer handle _ | .drain handle =>
    some handle
  | .allocate | .finalize .. | .drainAll => none

/-- A new response begins on the handle. -/
def begins (handle : HandleId) : Op → Bool
  | .init other .. => other = handle
  | _ => false

end Op

inductive Answer where
  | done
  | handle (handle : HandleId)
  | header (answer : Except TransportError Unit)
  /-- So many were accepted, or freed. -/
  | bytes (n : Nat)
deriving DecidableEq

def act (t : Loopback) : Op → Loopback × Answer × List Signal
  | .allocate => let (t, handle) := t.allocate; (t, .handle handle, [])
  | .finalize handle completion => (t.finalize handle completion, .done, [])
  | .init handle status layout => (t.initResponse handle status layout, .header (.ok ()), [])
  | .field handle name value =>
    let (t, answer) := t.addField handle name value
    (t, .header answer, [])
  | .send handle => let (t, answer) := t.sendHeaders handle; (t, .header answer, [])
  | .offer handle chunk => let (t, accepted) := t.offer handle chunk; (t, .bytes accepted, [])
  | .drain handle => let (t, freed, signals) := t.drain handle; (t, .bytes freed, signals)
  | .drainAll => let (t, freed, signals) := t.drainAll; (t, .bytes freed, signals)

/-- What was asked, what was answered, and the signals that were raised. -/
structure Entry where
  op : Op
  answer : Answer
  signals : List Signal
deriving DecidableEq

/-- A loopback transport, and all that was seen of it. -/
structure Observed where
  transport : Loopback
  seen : List Entry := []

namespace Observed

/-- A new transport. -/
def start (capacity : Option Nat) (routing : Option AckRouting) : Observed where
  transport := { capacity, routing }

def act (w : Observed) (op : Op) : Observed :=
  let (transport, answer, signals) := w.transport.act op
  ⟨transport, w.seen ++ [⟨op, answer, signals⟩]⟩

def run (w : Observed) (ops : List Op) : Observed := ops.foldl act w

theorem run_append (w : Observed) (ops more : List Op) :
    w.run (ops ++ more) = (w.run ops).run more :=
  List.foldl_append

/-- What holds at the start and is kept by whatever is asked, holds of every run. -/
theorem run_induct {P : Observed → Prop} (hact : ∀ w op, P w → P (w.act op))
    {w : Observed} (h : P w) (ops : List Op) : P (w.run ops) := by
  induction ops generalizing w with
  | nil => exact h
  | cons op rest ih => exact ih (hact w op h)

end Observed

/-! ## Drains -/

/-- The exchange once its buffer is empty. -/
def Exchange.drained (e : Exchange) : Exchange := { e with pending := 0 }

theorem Exchange.drained_of_pending {e : Exchange} (h : e.pending = 0) : e.drained = e := by
  rw [Exchange.drained, ← h]

/-- How many bytes the signals say were taken out of the buffer of this handle. -/
def freed (handle : HandleId) (signals : List Signal) : Nat :=
  (signals.map (Signal.freed handle)).sum

@[simp] theorem freed_nil (handle : HandleId) : freed handle [] = 0 := rfl

theorem freed_append (handle : HandleId) (signals more : List Signal) :
    freed handle (signals ++ more) = freed handle signals + freed handle more := by
  simp [freed]

/-- A drain tells of the bytes of its own handle. -/
theorem freed_drainSignals (routing : Option AckRouting) (drained handle : HandleId) (n : Nat) :
    freed handle (drainSignals routing drained n) = if drained = handle then n else 0 := by
  unfold drainSignals
  by_cases hzero : n = 0
  · simp [hzero]
  · cases routing with
    | none => simp [hzero, freed, Signal.freed]
    | some r => cases r <;> simp [hzero, freed, Signal.freed]

variable {t : Loopback} {handle g : HandleId}

theorem find?_set (t : Loopback) (handle g : HandleId) (e : Exchange) :
    (t.set handle e).exchanges.find? g = if handle = g then some e else t.exchanges.find? g :=
  Table.find?_insert ..

theorem find?_drain (t : Loopback) (handle g : HandleId) :
    (t.drain handle).1.exchanges.find? g =
      if handle = g then (t.exchanges.find? g).map Exchange.drained else t.exchanges.find? g := by
  unfold drain
  split
  · rename_i hnone
    split
    · rename_i heq
      simp [← heq, hnone]
    · rfl
  · rename_i e he
    rw [find?_set]
    split
    · rename_i heq
      simp [← heq, he, Exchange.drained]
    · rfl

theorem freed_drain (t : Loopback) (handle : HandleId) :
    (t.drain handle).2.1 = (t.exchange handle).pending := by
  unfold drain exchange
  cases t.exchanges.find? handle <;> rfl

/-- A drain of one handle leaves the buffers of the others. -/
theorem exchange_drain_ne (h : handle ≠ g) : (t.drain handle).1.exchange g = t.exchange g := by
  rw [exchange, find?_drain, if_neg h, exchange]

theorem find?_drainEach (t : Loopback) (handles : List HandleId) (g : HandleId) :
    (t.drainEach handles).1.exchanges.find? g =
      if g ∈ handles then (t.exchanges.find? g).map Exchange.drained
      else t.exchanges.find? g := by
  induction handles generalizing t with
  | nil => rfl
  | cons handle rest ih =>
    have hrest : (t.drainEach (handle :: rest)).1 = ((t.drain handle).1.drainEach rest).1 := rfl
    rw [hrest, ih, find?_drain]
    by_cases heq : handle = g
    · -- a buffer that is empty may be drained again
      have htwice : Exchange.drained ∘ Exchange.drained = Exchange.drained := rfl
      simp [heq, htwice]
    · simp [heq, Ne.symm heq]

/-- Handles that are drained in turn, each once, give what each holds, and tell of it. -/
theorem drainEach_eq (t : Loopback) {handles : List HandleId} (h : handles.Nodup) :
    (t.drainEach handles).2 =
      ((handles.map fun g => (t.exchange g).pending).sum,
        handles.flatMap fun g => drainSignals t.routing g (t.exchange g).pending) := by
  induction handles generalizing t with
  | nil => rfl
  | cons handle rest ih =>
    obtain ⟨hnew, hrest⟩ := List.nodup_cons.1 h
    have hsame : ∀ g ∈ rest, (t.drain handle).1.exchange g = t.exchange g := fun g hg =>
      exchange_drain_ne fun heq => hnew (heq ▸ hg)
    have hsum : (rest.map fun g => ((t.drain handle).1.exchange g).pending) =
        rest.map fun g => (t.exchange g).pending :=
      List.map_congr_left fun g hg => by rw [hsame g hg]
    have htold : (rest.flatMap fun g =>
        drainSignals t.routing g ((t.drain handle).1.exchange g).pending) =
          rest.flatMap fun g => drainSignals t.routing g (t.exchange g).pending :=
      List.flatMap_congr fun g hg => by rw [hsame g hg]
    have hlater := ih (t.drain handle).1 hrest
    rw [routing_drain, hsum, htold] at hlater
    simp only [drainEach, hlater, freed_drain, signals_drain, List.map_cons, List.sum_cons,
      List.flatMap_cons]

/-- The handles whose buffers hold something. -/
def laden (t : Loopback) : List HandleId := (t.exchanges.filter fun _ e => 0 < e.pending).keys

theorem nodup_laden (t : Loopback) : t.laden.Nodup := by
  unfold laden
  exact Table.distinct _

theorem mem_laden : g ∈ t.laden ↔ 0 < (t.exchange g).pending := by
  rw [laden, ← Table.contains_iff, Table.contains, Table.find?_filter, exchange]
  cases t.exchanges.find? g <;> simp

/-- After all are drained every buffer is empty, and nothing else has changed. -/
theorem find?_drainAll (t : Loopback) (g : HandleId) :
    t.drainAll.1.exchanges.find? g = (t.exchanges.find? g).map Exchange.drained := by
  have hdrained : t.drainAll.1.exchanges.find? g = _ := t.find?_drainEach t.laden g
  rw [hdrained]
  by_cases hg : g ∈ t.laden
  · rw [if_pos hg]
  · rw [if_neg hg]
    rw [mem_laden, exchange] at hg
    cases he : t.exchanges.find? g with
    | none => rfl
    | some e =>
      rw [he, Option.getD_some] at hg
      rw [Option.map_some, Exchange.drained_of_pending (Nat.eq_zero_of_not_pos hg)]

theorem drainAll_eq (t : Loopback) :
    t.drainAll.2 = ((t.laden.map fun g => (t.exchange g).pending).sum,
      t.laden.flatMap fun g => drainSignals t.routing g (t.exchange g).pending) :=
  t.drainEach_eq t.nodup_laden

theorem freed_flatMap (handle : HandleId) (pending : HandleId → Nat) (routing : Option AckRouting)
    {handles : List HandleId} (h : handles.Nodup) :
    freed handle (handles.flatMap fun g => drainSignals routing g (pending g)) =
      if handle ∈ handles then pending handle else 0 := by
  induction handles with
  | nil => rfl
  | cons first rest ih =>
    obtain ⟨hnew, hrest⟩ := List.nodup_cons.1 h
    rw [List.flatMap_cons, freed_append, freed_drainSignals, ih hrest]
    by_cases heq : first = handle
    · subst heq
      simp [hnew]
    · simp [heq, Ne.symm heq]

/-- When all are drained, what is told of a handle is what its buffer held. -/
theorem freed_drainAll (t : Loopback) (handle : HandleId) :
    freed handle t.drainAll.2.2 = (t.exchange handle).pending := by
  rw [drainAll_eq, freed_flatMap handle (fun g => (t.exchange g).pending) _ t.nodup_laden]
  by_cases hladen : handle ∈ t.laden
  · rw [if_pos hladen]
  · rw [if_neg hladen]
    exact (Nat.eq_zero_of_not_pos (mt mem_laden.2 hladen)).symm

/-! ## What an entry makes of an exchange -/

/-- What an entry makes of the exchange of one handle, if there was one. -/
inductive Turns (capacity : Option Nat) (handle : HandleId) :
    Option Exchange → Entry → Option Exchange → Prop where
  | apart {before entry} : entry.op.handle? ≠ some handle → entry.op ≠ .drainAll →
      Turns capacity handle before entry before
  /-- Whatever was there, a new response begins. -/
  | begun {before status layout} :
      Turns capacity handle before ⟨.init handle status layout, .header (.ok ()), []⟩
        (some { status := some status, declared := layout })
  | named {e name value} : e.headersSent = false →
      Turns capacity handle (some e) ⟨.field handle name value, .header (.ok ()), []⟩
        (some { e with fields := e.fields ++ [(name, value)] })
  | namedLate {e name value} : e.headersSent = true →
      Turns capacity handle (some e) ⟨.field handle name value,
        .header (.error (.rejected .addField "headers already sent")), []⟩ (some e)
  | namedEarly {name value} :
      Turns capacity handle none ⟨.field handle name value,
        .header (.error (.rejected .addField "response not initialized")), []⟩ none
  | sent {e} :
      Turns capacity handle (some e) ⟨.send handle, .header (.ok ()), []⟩
        (some { e with headersSent := true })
  | sentEarly :
      Turns capacity handle none ⟨.send handle,
        .header (.error (.rejected .sendHeaders "response not initialized")), []⟩ none
  /-- Bytes are taken even where no response was begun. -/
  | offered {before : Option Exchange} {e chunk n} : before.getD {} = e →
      room capacity e.pending chunk.size = n →
      Turns capacity handle before ⟨.offer handle chunk, .bytes n, []⟩
        (some { e with
          offers := e.offers + 1
          body := e.body ++ chunk.extract 0 n
          pending := e.pending + n })
  | drained {before signals} :
      Turns capacity handle before ⟨.drain handle, .bytes (before.getD {}).pending, signals⟩
        (before.map Exchange.drained)
  | drainedAll {before n signals} : freed handle signals = (before.getD {}).pending →
      Turns capacity handle before ⟨.drainAll, .bytes n, signals⟩ (before.map Exchange.drained)

/-- A call or a drain of one handle leaves the exchanges of all others. -/
theorem find?_act_ne (t : Loopback) {op : Op} (h : op.handle? ≠ some handle)
    (hall : op ≠ .drainAll) :
    (t.act op).1.exchanges.find? handle = t.exchanges.find? handle := by
  have hset {other : HandleId} (e : Exchange) (hne : (some other : Option HandleId) ≠ some handle) :
      (t.set other e).exchanges.find? handle = t.exchanges.find? handle := by
    rw [find?_set, if_neg fun heq => hne (congrArg some heq)]
  cases op with
  | allocate => rfl
  | finalize => rfl
  | init other status layout => exact hset _ h
  | field other name value =>
    show (t.addField other name value).1.exchanges.find? handle = _
    rcases hcall : t.addField other name value with ⟨t', e | ⟨⟨⟩⟩⟩
    · rw [addField_eq_error hcall]
    · rw [addField_eq_ok hcall]
      exact hset _ h
  | send other =>
    show (t.sendHeaders other).1.exchanges.find? handle = _
    rcases hcall : t.sendHeaders other with ⟨t', e | ⟨⟨⟩⟩⟩
    · rw [sendHeaders_eq_error hcall]
    · rw [sendHeaders_eq_ok hcall]
      exact hset _ h
  | offer other chunk => exact hset _ h
  | drain other =>
    exact (t.find?_drain other handle).trans (if_neg fun heq => h (congrArg some heq))
  | drainAll => exact absurd rfl hall

theorem turns_act (t : Loopback) (op : Op) (handle : HandleId) :
    Turns t.capacity handle (t.exchanges.find? handle) ⟨op, (t.act op).2.1, (t.act op).2.2⟩
      ((t.act op).1.exchanges.find? handle) := by
  by_cases hall : op = .drainAll
  · subst hall
    have hturns : Turns t.capacity handle (t.exchanges.find? handle)
        ⟨.drainAll, .bytes t.drainAll.2.1, t.drainAll.2.2⟩ _ :=
      .drainedAll (t.freed_drainAll handle)
    rw [← find?_drainAll] at hturns
    exact hturns
  by_cases hhandle : op.handle? = some handle
  · cases op with
    | allocate => cases hhandle
    | finalize => cases hhandle
    | drainAll => cases hhandle
    | init other status layout =>
      cases hhandle
      have hfound := t.find?_set handle handle { status := some status, declared := layout }
      rw [if_pos rfl] at hfound
      show Turns _ _ _ _ ((t.set handle _).exchanges.find? handle)
      rw [hfound]
      exact .begun
    | field other name value =>
      cases hhandle
      cases he : t.exchanges.find? handle with
      | none =>
        simp only [act, addField, he]
        exact .namedEarly
      | some e =>
        cases hsent : e.headersSent with
        | false =>
          simp only [act, addField, he, if_neg (ne_true_of_eq_false hsent), find?_set, if_true]
          exact .named hsent
        | true =>
          simp only [act, addField, he, hsent, if_true]
          exact .namedLate hsent
    | send other =>
      cases hhandle
      cases he : t.exchanges.find? handle with
      | none =>
        simp only [act, sendHeaders, he]
        exact .sentEarly
      | some e =>
        simp only [act, sendHeaders, he, find?_set, if_true]
        exact .sent
    | offer other chunk =>
      cases hhandle
      simp only [act, offer, find?_set, if_true]
      exact .offered rfl rfl
    | drain other =>
      cases hhandle
      have hturns : Turns t.capacity handle (t.exchanges.find? handle)
          ⟨.drain handle, .bytes (t.exchange handle).pending, (t.drain handle).2.2⟩ _ := .drained
      have hfound := t.find?_drain handle handle
      rw [if_pos rfl] at hfound
      rw [← hfound, ← freed_drain] at hturns
      exact hturns
  · rw [t.find?_act_ne hhandle hall]
    exact .apart hhandle hall

/-! ## What is never changed -/

theorem set_up_act (t : Loopback) (op : Op) :
    (t.act op).1.capacity = t.capacity ∧ (t.act op).1.routing = t.routing := by
  cases op with
  | field handle name value =>
    show (t.addField handle name value).1.capacity = _ ∧
      (t.addField handle name value).1.routing = _
    rcases hcall : t.addField handle name value with ⟨t', e | ⟨⟨⟩⟩⟩
    · rw [addField_eq_error hcall]
      exact ⟨rfl, rfl⟩
    · rw [addField_eq_ok hcall]
      exact ⟨rfl, rfl⟩
  | send handle =>
    show (t.sendHeaders handle).1.capacity = _ ∧ (t.sendHeaders handle).1.routing = _
    rcases hcall : t.sendHeaders handle with ⟨t', e | ⟨⟨⟩⟩⟩
    · rw [sendHeaders_eq_error hcall]
      exact ⟨rfl, rfl⟩
    · rw [sendHeaders_eq_ok hcall]
      exact ⟨rfl, rfl⟩
  | drain handle => exact ⟨t.capacity_drain handle, t.routing_drain handle⟩
  | drainAll =>
    show (t.drainEach t.laden).1.capacity = _ ∧ (t.drainEach t.laden).1.routing = _
    generalize t.laden = handles
    induction handles generalizing t with
    | nil => exact ⟨rfl, rfl⟩
    | cons handle rest ih =>
      obtain ⟨hcapacity, hrouting⟩ := ih (t.drain handle).1
      exact ⟨hcapacity.trans (t.capacity_drain handle), hrouting.trans (t.routing_drain handle)⟩
  | _ => exact ⟨rfl, rfl⟩

theorem capacity_act (t : Loopback) (op : Op) : (t.act op).1.capacity = t.capacity :=
  (t.set_up_act op).1

theorem routing_act (t : Loopback) (op : Op) : (t.act op).1.routing = t.routing :=
  (t.set_up_act op).2

end Loopback

end Sluice
