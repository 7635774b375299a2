import Mathlib.Algebra.Order.Floor.Div
import Sluice.Proofs.Waking.Mail
import Sluice.Proofs.Waking.Returned
import Sluice.Proofs.Waking.Signals

/-!
# How many drains a body takes

A writer is alone on its handle, at a buffer of bounded size that acknowledges each drain to the
handle. A write of any body fills the buffer to the brim, waits, and is woken by the drain. So it
waits once for each bufferful that does not fit at first, whatever the size of its chunks.
-/
namespace Sluice

namespace Session

/-- The buffer of the session's handle is drained, and whoever is registered is told. -/
def drain (s : Session Loopback) : Session Loopback :=
  let (t, _, signals) := s.link.transport.drain s.writer.handle
  { s with link := { s.link with transport := t }.raiseAll signals }

/-- A write that is carried on after each of the first `k` waits: the buffer is drained whenever the
write waits, and at no other time. -/
def writeDrained (s : Session Loopback) (moments : Nat → Instant) (body : ByteArray) :
    Nat → Session Loopback × Progress
  | 0 => s.write (moments 0) body
  | k + 1 =>
    match s.writeDrained moments body k with
    | (s, .suspended write) => s.drain.resume (moments (k + 1)) write
    | (s, p) => (s, p)

/-- The writer is alone at a buffer that holds so many bytes. It waits for its acknowledgments as
long as it takes, and none lies in its mailbox. -/
structure Lone (capacity pending : Nat) (s : Session Loopback) : Prop where
  capacity_eq : s.link.transport.capacity = some capacity
  routing_eq : s.link.transport.routing = some .perHandle
  pending_eq : (s.link.transport.exchange s.writer.handle).pending = pending
  pending_le : pending ≤ capacity
  board_eq : s.writer.board = .shared
  patient : s.writer.settings.ackTimeout = none
  chunk_pos : 0 < s.writer.settings.chunkSize
  alive : ∀ waiter, s.writer.waiter = some waiter → s.ackBoard.Alive waiter
  mail_eq : s.mail = []

/-- The write waits at a full buffer, and the next acknowledgment of its handle is for it. -/
structure Brims (capacity : Nat) (body : ByteArray) (written : Nat) (s : Session Loopback)
    (write : PendingWrite) : Prop where
  body_eq : write.body = body
  written_eq : write.written = written
  lone : s.Lone capacity capacity
  waiter_eq : s.writer.waiter = some write.wait.waiter
  registration_eq : s.registration = some write.wait.waiter
  limit_eq : write.wait.limit = none

/-- What comes of the bytes after the first `n` at a buffer with this much room, when the writer has
waited so often: they all fit, or as many as there is room for and the write waits once more. -/
inductive Fills (capacity room : Nat) (body : ByteArray) (n waits : Nat) (s : Session Loopback) :
    Progress → Prop where
  | fits : body.size - n ≤ room → s.registration = none → s.writer.stats.waits = waits →
      Fills capacity room body n waits s (.finished (.ok body.size))
  | brims {write} : room < body.size - n → s.Brims capacity body (n + room) write →
      s.writer.stats.waits = waits + 1 → Fills capacity room body n waits s (.suspended write)

variable {capacity pending n : Nat} {body : ByteArray} {s s₁ s₂ s' : Session Loopback}

/-! ## What the small steps leave -/

namespace Lone

/-- The writer kept what it works with, and the transport and the boards were left alone. -/
theorem of_same (h : Lone capacity pending s) (hhandle : s'.writer.handle = s.writer.handle)
    (hsettings : s'.writer.settings = s.writer.settings)
    (hboard : s'.writer.board = s.writer.board) (hwaiter : s'.writer.waiter = s.writer.waiter)
    (ht : s'.link.transport = s.link.transport) (hack : s'.ackBoard = s.ackBoard) :
    Lone capacity pending s' where
  capacity_eq := by rw [ht, h.capacity_eq]
  routing_eq := by rw [ht, h.routing_eq]
  pending_eq := by rw [ht, hhandle, h.pending_eq]
  pending_le := h.pending_le
  board_eq := hboard.trans h.board_eq
  patient := by rw [hsettings, h.patient]
  chunk_pos := hsettings ▸ h.chunk_pos
  alive waiter hw := hack ▸ h.alive waiter (hwaiter ▸ hw)
  mail_eq := (mail_congr hwaiter (congrArg _ hack)).trans h.mail_eq

/-- An offer takes what there is room for, and nobody is told anything. -/
theorem offer {stop a : Nat} (h : Lone capacity pending s) (hstop : stop ≤ body.size)
    (hoffer : s.offer (body.extract n stop) = (s₁, a)) :
    a = min (capacity - pending) (stop - n) ∧ Lone capacity (pending + a) s₁ ∧
      s₁.registration = s.registration := by
  have hsize : (body.extract n stop).size = stop - n := by
    rw [ByteArray.size_extract, Nat.min_eq_left hstop]
  have haccepted : (s.link.transport.offer s.writer.handle (body.extract n stop)).2 =
      min (capacity - pending) (stop - n) := by
    simp only [Loopback.offer, Loopback.room, h.capacity_eq, h.pending_eq, hsize]
  obtain rfl : (s.offer (body.extract n stop)).1 = s₁ := congrArg Prod.fst hoffer
  have ha : min (s.link.transport.offer s.writer.handle (body.extract n stop)).2
      (body.extract n stop).size = a := congrArg Prod.snd hoffer
  rw [haccepted, hsize, Nat.min_eq_left (Nat.min_le_right _ _)] at ha
  refine ⟨ha.symm, ⟨?_, ?_, ?_, ?_, h.board_eq, h.patient, h.chunk_pos, h.alive, h.mail_eq⟩, rfl⟩
  · exact h.capacity_eq
  · exact h.routing_eq
  · have hpending := Loopback.pending_offer s.link.transport s.writer.handle s.writer.handle
      (body.extract n stop)
    rw [if_pos rfl, haccepted, h.pending_eq, ha] at hpending
    exact hpending
  · have := h.pending_le
    omega

/-- What is registered is a mailbox that is open and empty. -/
theorem opened_register {waiter : WaiterId} (h : Lone capacity pending s)
    (hregister : s.register = (s₁, waiter)) :
    s₁.ackBoard.Alive waiter ∧ s₁.ackBoard.counts waiter = [] ∧ s₁.registration = some waiter := by
  cases hwaiter : s.writer.waiter with
  | some earlier =>
    rw [register_of_some hwaiter] at hregister
    cases hregister
    have hboard := s.link.board_attach s.writer.board s.writer.handle waiter
    have halive := h.alive waiter hwaiter
    rw [registration, ackBoard, hboard]
    exact ⟨⟨halive.number_lt, halive.isSome⟩, (mail_of_waiter hwaiter).symm.trans h.mail_eq,
      (AckBoard.find?_attach ..).trans (if_pos rfl)⟩
  | none =>
    rw [register_of_none hwaiter] at hregister
    cases hregister
    have hboard := (s.link.openMailbox s.writer.board).1.board_attach s.writer.board
      s.writer.handle (s.link.openMailbox s.writer.board).2
    rw [Link.board_openMailbox] at hboard
    have halive := s.ackBoard.alive_openMailbox
    rw [registration, ackBoard, hboard]
    exact ⟨⟨halive.number_lt, halive.isSome⟩,
      AckBoard.counts_of_find? (m := .empty) (Table.find?_insert_self ..),
      (AckBoard.find?_attach ..).trans (if_pos rfl)⟩

/-- A registration is the writer's own, at a mailbox that is empty. -/
theorem register {waiter : WaiterId} (h : Lone capacity pending s)
    (hregister : s.register = (s₁, waiter)) :
    Lone capacity pending s₁ ∧ s₁.writer.waiter = some waiter ∧
      s₁.registration = some waiter := by
  have hwriter := s.writer_register
  have ht := s.transport_register
  rw [hregister] at hwriter ht
  dsimp only at hwriter ht
  obtain ⟨halive, hcounts, hregistration⟩ := h.opened_register hregister
  have hown : s₁.writer.waiter = some waiter := by rw [hwriter]
  refine ⟨⟨?_, ?_, ?_, h.pending_le, ?_, ?_, ?_, fun other hother => ?_, ?_⟩, hown, hregistration⟩
  · rw [ht, h.capacity_eq]
  · rw [ht, h.routing_eq]
  · rw [ht, hwriter, h.pending_eq]
  · rw [hwriter, h.board_eq]
  · rw [hwriter, h.patient]
  · rw [hwriter]
    exact h.chunk_pos
  · rw [hown] at hother
    cases hother
    exact halive
  · rw [mail_of_waiter hown, hcounts]

end Lone

/-! ## A body is poured to the brim -/

theorem waits_offer {chunk : ByteArray} {a : Nat} (h : s.offer chunk = (s₁, a)) :
    s₁.writer.stats.waits = s.writer.stats.waits := by
  obtain rfl : (s.offer chunk).1 = s₁ := congrArg Prod.fst h
  rfl

/-- An offer that is cut short takes all the room there is. So the registration is followed by an
offer that takes nothing. -/
theorem Lone.retry {s₃ : Session Loopback} {stop a r : Nat} {waiter : WaiterId}
    (h : s.Lone capacity pending) (hstop : stop ≤ body.size)
    (hoffer : s.offer (body.extract n stop) = (s₁, a)) (hshort : n + a < stop)
    (hregister : s₁.countShort.register = (s₂, waiter))
    (hagain : s₂.offer (body.extract (n + a) stop) = (s₃, r)) :
    a = capacity - pending ∧ r = 0 ∧ s₃.Lone capacity capacity ∧
      s₃.writer.waiter = some waiter ∧ s₃.registration = some waiter ∧
      s₃.writer.stats.waits = s.writer.stats.waits := by
  obtain ⟨ha, hlone₁, -⟩ := h.offer hstop hoffer
  have hcount : s₁.countShort.Lone capacity (pending + a) :=
    hlone₁.of_same rfl rfl rfl rfl rfl rfl
  obtain ⟨hlone₂, hwaiter₂, hregistration₂⟩ := hcount.register hregister
  obtain ⟨hr, hlone₃, hregistration₃⟩ := hlone₂.offer hstop hagain
  have hroom : a = capacity - pending := by omega
  have hnone : r = 0 := by omega
  have hfull : pending + a + r = capacity := by
    have := h.pending_le
    omega
  rw [hfull] at hlone₃
  have hwaiter₃ : s₃.writer.waiter = some waiter := by
    obtain rfl : (s₂.offer _).1 = s₃ := congrArg Prod.fst hagain
    exact hwaiter₂
  have hwaits : s₂.writer.stats.waits = s₁.writer.stats.waits := by
    have hwriter := s₁.countShort.writer_register
    rw [hregister] at hwriter
    rw [hwriter]
    rfl
  exact ⟨hroom, hnone, hlone₃, hwaiter₃, hregistration₃.trans hregistration₂,
    (waits_offer hagain).trans (hwaits.trans (waits_offer hoffer))⟩

/-- However the chunks fall, a body is poured to its end or to the brim of the buffer. -/
theorem Pours.fills {now : Instant} {p : Progress} (h : Pours now body s n s' p)
    (hlone : s.Lone capacity pending) (hfree : s.registration = none) (hn : n ≤ body.size) :
    Fills capacity (capacity - pending) body n s.writer.stats.waits s' p := by
  induction h generalizing pending with
  | @done s n hdone =>
    obtain rfl : n = body.size := Nat.le_antisymm hn hdone
    have hpours : Pours now body s body.size (s.finishBody body) _ := .done hdone
    refine .fits (by omega) ?_ ?_
    · exact hpours.registration_eq_none nofun hfree
    · rw [writer_finishBody]
  | endless _ hzero => exact absurd hzero (Nat.ne_of_gt hlone.chunk_pos)
  | @whole s s₁ s' n a p hlt _ hoffer hfull _ ih =>
    have hstop : s.chunkEnd body n ≤ body.size := Nat.min_le_left _ _
    obtain ⟨ha, hlone₁, hfree₁⟩ := hlone.offer hstop hoffer
    have hrest := ih hlone₁ (hfree₁.trans hfree) hstop
    have hwaits := waits_offer hoffer
    cases hrest with
    | fits hle hfree' hw => exact .fits (by omega) hfree' (hw.trans hwaits)
    | brims hlt' hbrims hw =>
      have hbrim : s.chunkEnd body n + (capacity - (pending + a)) = n + (capacity - pending) := by
        omega
      rw [hbrim] at hbrims
      exact .brims (by omega) hbrims (by rw [hw, hwaits])
  | @retried s s₁ s₂ s₃ s' n a r waiter p hlt _ hoffer hshort hregister hagain hr _ ih =>
    obtain ⟨-, hnone, -⟩ :=
      hlone.retry (Nat.min_le_left _ _) hoffer hshort hregister hagain
    exact absurd hnone (Nat.ne_of_gt hr)
  | @blocked s s₁ s₂ s₃ n a waiter hlt _ hoffer hshort hregister hagain =>
    have hstop : s.chunkEnd body n ≤ body.size := Nat.min_le_left _ _
    obtain ⟨hroom, -, hlone₃, hwaiter₃, hregistration₃, hwaits⟩ :=
      hlone.retry hstop hoffer hshort hregister hagain
    rw [← hroom]
    refine .brims (by omega) ⟨rfl, rfl, ?_, hwaiter₃, hregistration₃, hlone₃.patient⟩ ?_
    · exact hlone₃.of_same rfl rfl rfl rfl rfl (ackBoard_report _ _)
    · exact congrArg (· + 1) hwaits

/-! ## A drain wakes the write -/

/-- A write that waits at a full buffer does not go on by itself. -/
theorem Brims.waitEnds? {write : PendingWrite} (h : s.Brims capacity body n write) (now : Instant) :
    s.waitEnds? now write = none := by
  have hnone : s.ackBoard.take? write.wait.waiter = none := by
    rw [AckBoard.take?_eq_none_iff_counts, ← mail_of_waiter h.waiter_eq]
    exact h.lone.mail_eq
  rw [ackBoard] at hnone
  simp only [Session.waitEnds?, Wait.poll?, hnone, Wait.expired, h.limit_eq, Option.filter_none,
    Option.map_none]

/-- A drain of a buffer that is not empty is told to the handle. -/
theorem drain_eq (hlone : s.Lone capacity pending) (hpending : 0 < pending) :
    s.drain.writer = s.writer ∧
      s.drain.link.transport = (s.link.transport.drain s.writer.handle).1 ∧
      s.drain.ackBoard = (s.ackBoard.notifyHandle s.writer.handle 1).1 := by
  have hsignals : (s.link.transport.drain s.writer.handle).2.2 =
      [.drained s.writer.handle pending, .ack s.writer.handle 1] := by
    rw [Loopback.signals_drain, hlone.routing_eq, hlone.pending_eq, Loopback.drainSignals,
      if_neg (Nat.ne_of_gt hpending)]
  refine ⟨rfl, Link.transport_raiseAll .., ?_⟩
  simp only [ackBoard, drain, hsignals, hlone.board_eq]
  rfl

/-- After a drain the count of it is all that lies in the mailbox. -/
theorem Brims.take?_drain {write : PendingWrite} (h : s.Brims capacity body n write)
    (hcapacity : 0 < capacity) :
    ∃ board, s.drain.ackBoard.take? write.wait.waiter = some (1, board) ∧
      board.counts write.wait.waiter = [] := by
  obtain ⟨-, -, hack⟩ := drain_eq h.lone hcapacity
  have hempty : s.ackBoard.counts write.wait.waiter = [] :=
    (mail_of_waiter h.waiter_eq).symm.trans h.lone.mail_eq
  have hcounts : s.drain.ackBoard.counts write.wait.waiter = [1] := by
    rw [hack, AckBoard.counts_notifyHandle h.registration_eq (h.lone.alive _ h.waiter_eq).isSome,
      hempty]
    rfl
  cases htake : s.drain.ackBoard.take? write.wait.waiter with
  | none =>
    rw [AckBoard.take?_eq_none_iff_counts, hcounts] at htake
    cases htake
  | some told =>
    obtain ⟨count, board⟩ := told
    have hleft := AckBoard.counts_of_take? htake
    rw [hcounts] at hleft
    obtain ⟨rfl, hnil⟩ := List.cons.inj hleft
    exact ⟨board, rfl, hnil.symm⟩

/-- A drain wakes a write that waits at a full buffer. It goes on alone, at an empty buffer. -/
theorem Brims.resume {write : PendingWrite} (h : s.Brims capacity body n write)
    (hcapacity : 0 < capacity) (now : Instant) :
    ∃ s₁ : Session Loopback, s₁.Lone capacity 0 ∧ s₁.registration = none ∧
      s₁.writer.stats.waits = s.writer.stats.waits ∧
      s.drain.resume now write = s₁.pour now body n := by
  obtain ⟨-, ht, hack⟩ := drain_eq h.lone hcapacity
  obtain ⟨board, htake, hnil⟩ := h.take?_drain hcapacity
  have hends : s.drain.waitEnds? now write = some (board, .ok 1) := by
    rw [ackBoard] at htake
    simp only [Session.waitEnds?, Wait.poll?, htake]
  let s₁ : Session Loopback :=
    ({ s.drain with link := s.drain.link.setBoard s.drain.writer.board board } :
      Session Loopback).report (.ackReceived s.drain.writer.handle 1)
  have hboard : s₁.ackBoard = board := by
    rw [ackBoard_report, ackBoard]
    exact Link.board_setBoard ..
  have ht₁ : s₁.link.transport = (s.link.transport.drain s.writer.handle).1 :=
    (Link.transport_setBoard ..).trans ht
  have hwaiter₁ : s₁.writer.waiter = some write.wait.waiter := h.waiter_eq
  have hkeeps : AckBoard.Keeps s.writer.handle write.wait.waiter s.ackBoard s.drain.ackBoard :=
    hack ▸ s.ackBoard.keeps_notifyHandle s.writer.handle 1
  refine ⟨s₁, ⟨?_, ?_, ?_, Nat.zero_le _, h.lone.board_eq, h.lone.patient, h.lone.chunk_pos,
    fun waiter hwaiter => ?_, ?_⟩, ?_, rfl, ?_⟩
  · rw [ht₁, Loopback.capacity_drain, h.lone.capacity_eq]
  · rw [ht₁, Loopback.routing_drain, h.lone.routing_eq]
  · rw [ht₁]
    exact (Loopback.pending_drain ..).trans (if_pos rfl)
  · obtain rfl : write.wait.waiter = waiter := Option.some.inj (hwaiter₁.symm.trans hwaiter)
    rw [hboard]
    exact AckBoard.alive_take? htake (hkeeps.alive (h.lone.alive _ h.waiter_eq))
  · rw [mail_of_waiter hwaiter₁, hboard, hnil]
  · -- the drain used the registration up
    rw [Option.eq_none_iff_forall_ne_some, registration, hboard]
    intro waiter hw
    have hbefore := (AckBoard.spends_take? htake).registered s.writer.handle waiter hw
    rw [hack, AckBoard.find?_notifyHandle, if_pos rfl] at hbefore
    cases hbefore
  · rw [← h.body_eq, ← h.written_eq]
    simp only [Session.resume, hends]
    rfl

/-! ## One drain after the other -/

variable {moments : Nat → Instant}

/-- Before anything was drained. -/
theorem fills_zero (hlone : s.Lone capacity pending) (hfree : s.registration = none)
    (hsent : s.writer.sent ≠ none) :
    Fills capacity (capacity - pending) body 0 s.writer.stats.waits
      (s.writeDrained moments body 0).1 (s.writeDrained moments body 0).2 := by
  have hflush : s.flush = (s, .ok ()) := by
    obtain ⟨status, hstatus⟩ := Option.ne_none_iff_exists'.1 hsent
    simp only [flush, hstatus]
  simp only [writeDrained, write, hflush]
  exact (pours_pour (moments 0) s body 0).fills hlone hfree (Nat.zero_le _)

/-- What one more drain does to a write that waits. -/
theorem fills_succ {k : Nat} {write : PendingWrite} (hcapacity : 0 < capacity)
    (hprogress : (s.writeDrained moments body k).2 = .suspended write)
    (hbrims : (s.writeDrained moments body k).1.Brims capacity body n write) (hn : n ≤ body.size) :
    Fills capacity capacity body n (s.writeDrained moments body k).1.writer.stats.waits
      (s.writeDrained moments body (k + 1)).1 (s.writeDrained moments body (k + 1)).2 := by
  obtain ⟨s₁, hlone, hfree, hwaits, hresume⟩ := hbrims.resume hcapacity (moments (k + 1))
  have hstep : s.writeDrained moments body (k + 1) = s₁.pour (moments (k + 1)) body n := by
    rw [← hresume, writeDrained]
    revert hprogress
    rcases s.writeDrained moments body k with ⟨s₂, p⟩
    rintro rfl
    rfl
  rw [hstep, ← hwaits]
  exact (pours_pour (moments (k + 1)) s₁ body n).fills hlone hfree hn

/-- The bytes that were through before count as room, too. -/
theorem Fills.from_zero {room waits : Nat} {p : Progress} (h : Fills capacity room body n waits s p)
    (hn : n ≤ body.size) : Fills capacity (n + room) body 0 waits s p := by
  cases h with
  | fits hle hfree hwaits => exact .fits (by omega) hfree hwaits
  | brims hlt hbrims hwaits =>
    rw [← Nat.zero_add (n + room)] at hbrims
    exact .brims (by omega) hbrims hwaits

/-- After `k` drains there was room for the first bytes and for `k` bufferfuls. -/
theorem fills_drained (moments : Nat → Instant) (body : ByteArray) (hcapacity : 0 < capacity)
    (hlone : s.Lone capacity pending) (hfree : s.registration = none)
    (hsent : s.writer.sent ≠ none) {k : Nat}
    (hbefore : ∀ j < k, capacity - pending + j * capacity < body.size) :
    Fills capacity (capacity - pending + k * capacity) body 0 (s.writer.stats.waits + k)
      (s.writeDrained moments body k).1 (s.writeDrained moments body k).2 := by
  induction k with
  | zero =>
    rw [Nat.zero_mul, Nat.add_zero, Nat.add_zero]
    exact fills_zero hlone hfree hsent
  | succ k ih =>
    have hlt := hbefore k (Nat.lt_succ_self k)
    have hfills := ih fun j hj => hbefore j (Nat.lt_succ_of_lt hj)
    generalize hprogress : (s.writeDrained moments body k).2 = p at hfills
    cases hfills with
    | fits hle => omega
    | @brims write _ hbrims hwaits =>
      rw [Nat.zero_add] at hbrims
      have hnext := (fills_succ hcapacity hprogress hbrims (Nat.le_of_lt hlt)).from_zero
        (Nat.le_of_lt hlt)
      rwa [hwaits, Nat.add_assoc, Nat.add_assoc, ← Nat.succ_mul] at hnext

/-- How often a write of so many bytes waits where there is this much room at first. -/
def waitsFor (capacity room size : Nat) : Nat :=
  if size ≤ room then 0 else (size - room) ⌈/⌉ capacity

theorem lt_waitsFor_iff {room size k : Nat} (hcapacity : 0 < capacity) :
    k < waitsFor capacity room size ↔ room + k * capacity < size := by
  unfold waitsFor
  split
  · omega
  · rw [← Nat.not_le, ceilDiv_le_iff_le_mul hcapacity, Nat.mul_comm]
    omega

/-- At a buffer that is drained whenever the write waits, and at no other time, a write waits
exactly once for each bufferful, or part of one, that does not fit at first. The chunks and the
moments do not matter. Until it is drained no wait ends. After the last drain all of the body is
through and nothing is left registered. -/
theorem waits_drained {pending : Nat} (s : Session Loopback) (moments : Nat → Instant)
    (body : ByteArray) (hcapacity : 0 < capacity) (hlone : s.Lone capacity pending)
    (hfree : s.registration = none) (hsent : s.writer.sent ≠ none) :
    let waits := waitsFor capacity (capacity - pending) body.size
    (∀ k < waits, ∃ write, (s.writeDrained moments body k).2 = .suspended write ∧
      write.written = capacity - pending + k * capacity ∧
      ∀ now, (s.writeDrained moments body k).1.waitEnds? now write = none) ∧
    (s.writeDrained moments body waits).2 = .finished (.ok body.size) ∧
    (s.writeDrained moments body waits).1.registration = none ∧
    (s.writeDrained moments body waits).1.writer.stats.waits = s.writer.stats.waits + waits := by
  intro waits
  have hlt {k : Nat} : k < waits ↔ capacity - pending + k * capacity < body.size :=
    lt_waitsFor_iff hcapacity
  constructor
  · intro k hk
    have hfills := fills_drained moments body hcapacity hlone hfree hsent
      fun j hj => hlt.1 (Nat.lt_trans hj hk)
    have hmore := hlt.1 hk
    generalize (s.writeDrained moments body k).2 = p at hfills ⊢
    cases hfills with
    | fits hle => omega
    | @brims write _ hbrims _ =>
      exact ⟨write, rfl, hbrims.written_eq.trans (Nat.zero_add _), hbrims.waitEnds?⟩
  · have hfills := fills_drained moments body hcapacity hlone hfree hsent
      fun j hj => hlt.1 hj
    have henough := mt hlt.2 (Nat.lt_irrefl waits)
    generalize (s.writeDrained moments body waits).2 = p at hfills ⊢
    cases hfills with
    | fits _ hnone hwaits => exact ⟨rfl, hnone, hwaits⟩
    | brims hless => omega

/-- A buffer of four bytes, one of which is taken, and a writer with chunks of three. -/
def brimming : Session Loopback :=
  ⟨{ handle := ⟨1⟩, sent := some .ok, settings := { chunkSize := 3 } },
    { transport :=
      { capacity := some 4, routing := some .perHandle,
        exchanges := Table.empty.insert ⟨1⟩ { pending := 1 } } }⟩

/-- Of ten bytes three fit at first, and the other seven take two drains. -/
theorem waits_drained_brimming :
    let s' := brimming.writeDrained (fun _ => .start) "abcdefghij".toUTF8 2
    s'.2 = .finished (.ok 10) ∧ s'.1.registration = none ∧ s'.1.writer.stats.waits = 2 := by
  have hlone : brimming.Lone 4 1 := ⟨rfl, rfl, rfl, by decide, rfl, rfl, by decide, nofun, rfl⟩
  have hsent : brimming.writer.sent ≠ none := by decide
  have hwaits : waitsFor 4 (4 - 1) "abcdefghij".toUTF8.size = 2 := by decide
  have hdrained := (waits_drained brimming (fun _ => .start) "abcdefghij".toUTF8 (by decide) hlone
    rfl hsent).2
  rw [hwaits] at hdrained
  exact hdrained

end Session

end Sluice
