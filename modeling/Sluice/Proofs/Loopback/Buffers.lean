import Sluice.Proofs.Loopback.History

/-!
# The buffers of a loopback transport

What was seen of a handle tells what its buffer holds. Since its response began, the bytes that its
offers had accepted make up the body, and those of them that no drain has freed take up space, never
more than there is. The header section of a response stays as it was when it was sent.
-/
namespace Sluice

/-- How freed space of a handle is acknowledged. -/
def AckRouting.ack (handle : HandleId) : AckRouting → Signal
  | .perHandle => .ack handle 1
  | .context => .ackAll 1

namespace Loopback

/-- What was seen of the buffer of one handle since its response began. -/
structure Tally where
  /-- The bytes that were accepted, in order. -/
  accepted : ByteArray := .empty
  /-- How many of them were freed. -/
  freed : Nat := 0

namespace Tally

/-- One entry more. -/
def add (handle : HandleId) (y : Tally) (entry : Entry) : Tally :=
  match entry.op, entry.answer with
  | .init other .., _ => if other = handle then {} else y
  | .offer other chunk, .bytes n =>
    if other = handle then { y with accepted := y.accepted ++ chunk.extract 0 n } else y
  | .drain other, .bytes n => if other = handle then { y with freed := y.freed + n } else y
  | .drainAll, _ => { y with freed := y.freed + Loopback.freed handle entry.signals }
  | _, _ => y

/-- All that was seen, from the first entry on. -/
def of (handle : HandleId) (seen : List Entry) : Tally := seen.foldl (add handle) {}

theorem of_concat (handle : HandleId) (seen : List Entry) (entry : Entry) :
    of handle (seen ++ [entry]) = (of handle seen).add handle entry :=
  List.foldl_concat ..

theorem add_of_ne {handle : HandleId} {entry : Entry} (h : entry.op.handle? ≠ some handle)
    (hall : entry.op ≠ .drainAll) (y : Tally) : y.add handle entry = y := by
  obtain ⟨op, answer, signals⟩ := entry
  cases op with
  | init other status layout => exact if_neg fun heq => h (congrArg some heq)
  | offer other chunk =>
    cases answer with
    | bytes n => exact if_neg fun heq => h (congrArg some heq)
    | _ => rfl
  | drain other =>
    cases answer with
    | bytes n => exact if_neg fun heq => h (congrArg some heq)
    | _ => rfl
  | drainAll => exact absurd rfl hall
  | _ => rfl

end Tally

/-- The exchange of a handle, if there is one, is what was seen of it. -/
structure Shows (capacity : Option Nat) (y : Tally) (o : Option Exchange) : Prop where
  body_eq : (o.getD {}).body = y.accepted
  freed_add : y.freed + (o.getD {}).pending = (o.getD {}).body.size
  pending_le : ∀ c, capacity = some c → (o.getD {}).pending ≤ c

variable {capacity : Option Nat} {routing : Option AckRouting} {handle : HandleId} {y : Tally}
  {before after : Option Exchange} {entry : Entry}

theorem shows_none (capacity : Option Nat) : Shows capacity {} none :=
  ⟨rfl, rfl, fun _ _ => Nat.zero_le _⟩

/-- A field, or the end of the header section, has nothing to do with the buffer. -/
theorem Shows.of_same {e e' : Exchange} (h : Shows capacity y (some e)) (hbody : e'.body = e.body)
    (hpending : e'.pending = e.pending) : Shows capacity y (some e') := by
  obtain ⟨h₁, h₂, h₃⟩ := h
  simp only [Option.getD_some, ← hbody, ← hpending] at h₁ h₂ h₃
  exact ⟨h₁, h₂, h₃⟩

theorem pending_add_room_le {c pending wanted : Nat} (h : pending ≤ c) :
    pending + room (some c) pending wanted ≤ c := by
  show pending + min (c - pending) wanted ≤ c
  omega

theorem Shows.turns (h : Shows capacity y before)
    (hturns : Turns capacity handle before entry after) :
    Shows capacity (y.add handle entry) after := by
  cases hturns with
  | apart hne hall => rwa [Tally.add_of_ne hne hall]
  | begun =>
    simp only [Tally.add, if_true]
    exact ⟨rfl, rfl, fun _ _ => Nat.zero_le _⟩
  | named => exact h.of_same rfl rfl
  | namedLate => exact h
  | namedEarly => exact h
  | sent => exact h.of_same rfl rfl
  | sentEarly => exact h
  | @offered _ e chunk n he hroom =>
    obtain ⟨hbody, hfreed, hle⟩ := h
    rw [he] at hbody hfreed hle
    simp only [Tally.add, if_true]
    have hn : n ≤ chunk.size := hroom ▸ room_le ..
    refine ⟨?_, ?_, fun c hc => ?_⟩
    · simp only [Option.getD_some, hbody]
    · simp only [Option.getD_some, ByteArray.size_append, ByteArray.size_extract]
      omega
    · subst hc
      rw [← hroom]
      exact pending_add_room_le (hle c rfl)
  | drained =>
    obtain ⟨hbody, hfreed, hle⟩ := h
    simp only [Tally.add, if_true]
    cases before with
    | none => exact ⟨hbody, hfreed, hle⟩
    | some e => exact ⟨hbody, hfreed, fun _ _ => Nat.zero_le _⟩
  | drainedAll htold =>
    obtain ⟨hbody, hfreed, hle⟩ := h
    simp only [Tally.add, htold]
    cases before with
    | none => exact ⟨hbody, hfreed, hle⟩
    | some e => exact ⟨hbody, hfreed, fun _ _ => Nat.zero_le _⟩

/-- Once the header section is complete an entry that begins no new response keeps it. -/
theorem Turns.keeps_header {e : Exchange} (h : Turns capacity handle (some e) entry after)
    (hsent : e.headersSent = true) (hstays : entry.op.begins handle = false) :
    ∃ e', after = some e' ∧ e'.headersSent = true ∧ e'.status = e.status ∧
      e'.fields = e.fields := by
  cases h with
  | apart => exact ⟨e, rfl, hsent, rfl, rfl⟩
  | begun => simp [Op.begins] at hstays
  | named hopen =>
    rw [hsent] at hopen
    cases hopen
  | namedLate => exact ⟨e, rfl, hsent, rfl, rfl⟩
  | sent => exact ⟨_, rfl, rfl, rfl, rfl⟩
  | offered he =>
    cases he
    exact ⟨_, rfl, hsent, rfl, rfl⟩
  | drained => exact ⟨_, rfl, hsent, rfl, rfl⟩
  | drainedAll => exact ⟨_, rfl, hsent, rfl, rfl⟩

/-- A drain acknowledges space once if it freed a byte, and else not at all. -/
theorem acks_drain (t : Loopback) (handle : HandleId) :
    (t.drain handle).2.2.filter Signal.isAck =
      if 0 < (t.drain handle).2.1 then (t.routing.map (AckRouting.ack handle)).toList else [] := by
  rw [signals_drain, freed_drain]
  unfold drainSignals
  by_cases hzero : (t.exchange handle).pending = 0
  · simp [hzero]
  · rw [if_neg hzero, if_pos (Nat.pos_of_ne_zero hzero)]
    cases t.routing with
    | none => rfl
    | some r => cases r <;> rfl

namespace Observed

/-- The transport is the one that was started with these, and its handles show what was seen. -/
structure Sound (capacity : Option Nat) (routing : Option AckRouting) (w : Observed) : Prop where
  capacity_eq : w.transport.capacity = capacity
  routing_eq : w.transport.routing = routing
  shows : ∀ handle, Shows capacity (.of handle w.seen) (w.transport.exchanges.find? handle)

theorem sound_start (capacity : Option Nat) (routing : Option AckRouting) :
    (start capacity routing).Sound capacity routing :=
  ⟨rfl, rfl, fun _ => shows_none capacity⟩

theorem Sound.act {w : Observed} (h : w.Sound capacity routing) (op : Op) :
    (w.act op).Sound capacity routing := by
  refine ⟨(w.transport.capacity_act op).trans h.capacity_eq,
    (w.transport.routing_act op).trans h.routing_eq, fun handle => ?_⟩
  have hturns := w.transport.turns_act op handle
  rw [h.capacity_eq] at hturns
  have hseen : (w.act op).seen = w.seen ++ [⟨op, (w.transport.act op).2.1, _⟩] := rfl
  rw [hseen, Tally.of_concat]
  exact (h.shows handle).turns hturns

theorem sound_run (capacity : Option Nat) (routing : Option AckRouting) (ops : List Op) :
    ((start capacity routing).run ops).Sound capacity routing :=
  run_induct (fun _ op h => h.act op) (sound_start capacity routing) ops

theorem keeps_header (w : Observed) {e : Exchange}
    (he : w.transport.exchanges.find? handle = some e) (hsent : e.headersSent = true)
    {ops : List Op} (hstays : ∀ op ∈ ops, op.begins handle = false) :
    ∃ e', (w.run ops).transport.exchanges.find? handle = some e' ∧ e'.status = e.status ∧
      e'.fields = e.fields := by
  induction ops generalizing w e with
  | nil => exact ⟨e, he, rfl, rfl⟩
  | cons op rest ih =>
    have hturns := w.transport.turns_act op handle
    rw [he] at hturns
    obtain ⟨e₁, he₁, hsent₁, hstatus₁, hfields₁⟩ :=
      hturns.keeps_header hsent (hstays op List.mem_cons_self)
    obtain ⟨e₂, he₂, hstatus₂, hfields₂⟩ := ih (w.act op) he₁ hsent₁ fun op' hop' =>
      hstays op' (List.mem_cons_of_mem _ hop')
    exact ⟨e₂, he₂, hstatus₂.trans hstatus₁, hfields₂.trans hfields₁⟩

/-- A header section that was sent stays as it is until a new response begins. -/
theorem keeps_sent (w : Observed) (hok : (w.transport.sendHeaders handle).2 = .ok ())
    {later : List Op} (hstays : ∀ op ∈ later, op.begins handle = false) :
    ((w.run (.send handle :: later)).transport.exchange handle).status =
        (w.transport.exchange handle).status ∧
      ((w.run (.send handle :: later)).transport.exchange handle).fields =
        (w.transport.exchange handle).fields := by
  have hsend : w.transport.sendHeaders handle = ((w.transport.sendHeaders handle).1, .ok ()) :=
    Prod.ext rfl hok
  have he : (w.act (.send handle)).transport.exchanges.find? handle =
      some { w.transport.exchange handle with headersSent := true } := by
    show (w.transport.sendHeaders handle).1.exchanges.find? handle = _
    rw [sendHeaders_eq_ok hsend, find?_set, if_pos rfl]
  obtain ⟨e', he', hstatus, hfields⟩ := keeps_header (w.act (.send handle)) he rfl hstays
  have hexchange : (w.run (.send handle :: later)).transport.exchange handle = e' := by
    rw [exchange]
    exact congrArg (·.getD {}) he'
  rw [hexchange]
  exact ⟨hstatus, hfields⟩

/-- A loopback transport is a faithful bounded buffer for each of its handles, whatever its
capacity and whatever is asked of it. The body is what was accepted since the response began, in
order; what was freed and what is pending make up its size, and no more is pending than there is
room for. An offer is accepted as far as there is room. A header section that was sent stays as it
is until the next response begins. What is asked of one handle changes no other. A drain
acknowledges space exactly if it freed a byte, and when all are drained each buffer gives what it
held, and is empty. -/
theorem buffers_run (capacity : Option Nat) (routing : Option AckRouting) (ops : List Op)
    (handle : HandleId) :
    let t := ((start capacity routing).run ops).transport
    let y := Tally.of handle ((start capacity routing).run ops).seen
    let e := t.exchange handle
    (e.body = y.accepted ∧ y.freed + e.pending = e.body.size ∧
      ∀ c, capacity = some c → e.pending ≤ c) ∧
    (∀ chunk, (t.offer handle chunk).2 =
      match capacity with
      | none => chunk.size
      | some c => min chunk.size (c - e.pending)) ∧
    (∀ before later, ops = before ++ .send handle :: later →
      (((start capacity routing).run before).transport.sendHeaders handle).2 = .ok () →
      (∀ op ∈ later, op.begins handle = false) →
      let sent := ((start capacity routing).run before).transport.exchange handle
      e.status = sent.status ∧ e.fields = sent.fields) ∧
    (∀ op : Op, op.handle? ≠ some handle → op ≠ .drainAll →
      (t.act op).1.exchanges.find? handle = t.exchanges.find? handle) ∧
    (t.drain handle).2.2.filter Signal.isAck =
      (if 0 < (t.drain handle).2.1 then (routing.map (AckRouting.ack handle)).toList else []) ∧
    ∃ handles : List HandleId, handles.Nodup ∧
      (∀ g, g ∈ handles ↔ 0 < (t.exchange g).pending) ∧
      t.drainAll.2.1 = (handles.map fun g => (t.exchange g).pending).sum ∧
      (∀ g, freed g t.drainAll.2.2 = (t.exchange g).pending) ∧
      ∀ g, (t.drainAll.1.exchange g).pending = 0 := by
  intro t y e
  have hsound := sound_run capacity routing ops
  obtain ⟨hbody, hfreed, hle⟩ := hsound.shows handle
  have hcapacity : t.capacity = capacity := hsound.capacity_eq
  have hrouting : t.routing = routing := hsound.routing_eq
  refine ⟨⟨hbody, hfreed, hle⟩, fun chunk => ?_, fun before later hops hok hstays => ?_,
    fun op => t.find?_act_ne, ?_, t.laden, t.nodup_laden, fun g => mem_laden, ?_,
    t.freed_drainAll, fun g => ?_⟩
  · show room t.capacity e.pending chunk.size = _
    rw [hcapacity]
    cases capacity with
    | none => rfl
    | some c => exact Nat.min_comm ..
  · have he : e = (((start capacity routing).run before).run
        (.send handle :: later)).transport.exchange handle := by
      rw [← run_append, ← hops]
    rw [he]
    exact keeps_sent _ hok hstays
  · rw [← hrouting]
    exact t.acks_drain handle
  · rw [drainAll_eq]
  · rw [exchange, find?_drainAll]
    cases t.exchanges.find? g <;> rfl

/-- A handle that was offered bytes before its response began, and another one. -/
def early : List Op :=
  [.offer ⟨1⟩ "zz".toUTF8, .init ⟨1⟩ .ok ⟨1, 2⟩, .field ⟨1⟩ "a".toUTF8 "b".toUTF8,
    .offer ⟨2⟩ "xyz".toUTF8]

/-- A body that is written after the header section went out, with a field that comes too late. -/
def written : List Op :=
  [.offer ⟨1⟩ "abcdef".toUTF8, .drain ⟨1⟩, .field ⟨1⟩ "c".toUTF8 "d".toUTF8, .send ⟨1⟩,
    .offer ⟨1⟩ "gh".toUTF8]

/-- With room for four bytes, six of the eight are through, and four of these were freed. -/
theorem buffers_run_early :
    let w := (start (some 4) (some .perHandle)).run (early ++ .send ⟨1⟩ :: written)
    let e := w.transport.exchange ⟨1⟩
    e.body = "abcdgh".toUTF8 ∧ 4 + e.pending = e.body.size ∧
      e.fields = [("a".toUTF8, "b".toUTF8)] ∧ (w.transport.offer ⟨1⟩ "ijk".toUTF8).2 = 2 ∧
      ((w.transport.drain ⟨1⟩).2.2.filter Signal.isAck) = [.ack ⟨1⟩ 1] ∧
      w.transport.drainAll.2.1 = 5 := by
  intro w e
  obtain ⟨⟨hbody, hfreed, -⟩, hoffer, hheader, -, hacks, -⟩ :=
    buffers_run (some 4) (some .perHandle) (early ++ .send ⟨1⟩ :: written) ⟨1⟩
  have hok : (((start (some 4) (some .perHandle)).run early).transport.sendHeaders ⟨1⟩).2 =
      .ok () := by decide +kernel
  have hstays : ∀ op ∈ written, op.begins ⟨1⟩ = false := by decide +kernel
  have hpending : e.pending = 2 := by decide +kernel
  refine ⟨hbody.trans (by decide +kernel), hfreed, (hheader early written rfl hok hstays).2, ?_, ?_,
    by decide +kernel⟩
  · rw [hoffer, show e.pending = 2 from hpending]
    decide
  · rw [hacks]
    decide +kernel

end Observed

end Loopback

end Sluice
