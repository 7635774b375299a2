import Sluice.Proofs.Waking.Sessions

/-!
# When a write waits

When a write has to wait, the buffer is full and the writer's waiter is armed, unless space was
freed in between: then the wake-up is in the mailbox. A write that is resumed into an empty
buffer gets on.
-/
namespace Sluice

open Interrupted

namespace Session

section

variable {capacity : Nat} {handle : HandleId} {s s₁ s₂ s' : Session Interrupted}

/-- The session is one of the handle, and the waiter it may have exists. -/
structure Own (capacity : Nat) (handle : HandleId) (s : Session Interrupted) : Prop where
  fit : s.link.transport.inner.Fit capacity
  handle_eq : s.writer.handle = handle
  board_eq : s.writer.board = .shared
  alive : ∀ receiver, s.writer.waiter = some receiver → s.link.shared.Alive receiver

/-- The write may wait: something is left to write, and the wake-up will come. -/
structure Stands (capacity : Nat) (handle : HandleId) (s : Session Interrupted)
    (write : PendingWrite) : Prop where
  waiter_eq : s.writer.waiter = some write.wait.waiter
  chunk_pos : s.writer.settings.chunkSize ≠ 0
  lt : write.written < write.body.size
  safe : s.link.Safe capacity handle write.wait.waiter

theorem Own.of_link (h : s.Own capacity handle)
    (hwriter : ∃ stats, s'.writer = { s.writer with stats })
    (ht : s'.link.transport = s.link.transport)
    (halive : ∀ receiver, s.link.shared.Alive receiver → s'.link.shared.Alive receiver) :
    s'.Own capacity handle := by
  obtain ⟨stats, hwriter⟩ := hwriter
  refine ⟨?_, ?_, ?_, fun receiver hreceiver => ?_⟩
  · rw [ht]
    exact h.fit
  · rw [hwriter]
    exact h.handle_eq
  · rw [hwriter]
    exact h.board_eq
  · rw [hwriter] at hreceiver
    exact halive receiver (h.alive receiver hreceiver)

theorem Own.offer {chunk : ByteArray} {a : Nat} (h : s.Own capacity handle)
    (hoffer : s.offer chunk = (s', a)) : s'.Own capacity handle := by
  obtain rfl : (s.offer chunk).1 = s' := congrArg Prod.fst hoffer
  refine ⟨?_, h.handle_eq, h.board_eq, fun receiver hreceiver => ?_⟩
  · rw [transport_offer]
    exact fit_offer h.fit s.writer.handle chunk
  · have hkeeps : s.link.shared.Keeps handle receiver (s.offer chunk).1.link.shared :=
      s.link.keeps_offer s.writer.handle chunk
    exact hkeeps.alive (h.alive receiver hreceiver)

/-- A writer that registered is armed. -/
theorem Own.register {receiver : WaiterId} (h : s.Own capacity handle)
    (hregister : s.register = (s', receiver)) :
    s'.Own capacity handle ∧ s'.writer.waiter = some receiver ∧
      s'.link.shared.Armed handle receiver := by
  have hwriter := s.writer_register
  have ht := s.transport_register
  rw [hregister] at hwriter ht
  have hboard : s'.link.shared.Alive receiver ∧ s'.link.shared.Armed handle receiver := by
    cases hwaiter : s.writer.waiter with
    | some earlier =>
      rw [register_of_some hwaiter, h.board_eq, h.handle_eq] at hregister
      cases hregister
      have ha := h.alive receiver hwaiter
      exact ⟨⟨ha.number_lt, ha.isSome⟩, AckBoard.armed_attach ..⟩
    | none =>
      rw [register_of_none hwaiter, h.board_eq, h.handle_eq] at hregister
      cases hregister
      have ha := s.link.shared.alive_openMailbox
      exact ⟨⟨ha.number_lt, ha.isSome⟩, AckBoard.armed_attach ..⟩
  refine ⟨⟨?_, ?_, ?_, fun other hother => ?_⟩, ?_, hboard.2⟩
  · rw [ht]
    exact h.fit
  · rw [hwriter]
    exact h.handle_eq
  · rw [hwriter]
    exact h.board_eq
  · rw [hwriter] at hother
    cases hother
    exact hboard.1
  · rw [hwriter]

theorem Own.unregister (h : s.Own capacity handle) : s.unregister.Own capacity handle := by
  refine h.of_link ⟨s.writer.stats, rfl⟩ (by simp) fun receiver ha => ?_
  rw [Session.unregister, h.board_eq]
  exact ⟨ha.number_lt, ha.isSome⟩

theorem Own.finishBody (h : s.Own capacity handle) (body : ByteArray) :
    (s.finishBody body).Own capacity handle := by
  obtain ⟨events, hlink⟩ := s.link_finishBody body
  have hwriter := s.writer_finishBody body
  refine ⟨?_, ?_, ?_, fun receiver hreceiver => ?_⟩
  · rw [transport_finishBody]
    exact h.fit
  · rw [hwriter]
    exact h.handle_eq
  · rw [hwriter]
    exact h.board_eq
  · rw [hwriter] at hreceiver
    rw [hlink]
    exact h.alive receiver hreceiver

/-- After the second offer of a chunk the writer is armed. If it got nothing accepted it is safe to
wait. -/
theorem Own.retry {chunk rest : ByteArray} {a r : Nat} {receiver : WaiterId}
    {s₃ : Session Interrupted} (h : s.Own capacity handle) (hoffer : s.offer chunk = (s₁, a))
    (hregister : s₁.countShort.register = (s₂, receiver)) (hagain : s₂.offer rest = (s₃, r)) :
    s₃.Own capacity handle ∧ s₃.writer.waiter = some receiver ∧
      (0 < rest.size → r = 0 → s₃.link.Safe capacity handle receiver) := by
  have h₁ : s₁.countShort.Own capacity handle :=
    (h.offer hoffer).of_link ⟨_, rfl⟩ rfl fun _ => id
  obtain ⟨h₂, hwaiter, harmed⟩ := h₁.register hregister
  have h₃ := h₂.offer hagain
  obtain rfl : (s₂.offer rest).1 = s₃ := congrArg Prod.fst hagain
  have ha := h₂.alive receiver hwaiter
  have hkeeps : s₂.link.shared.Keeps handle receiver (s₂.offer rest).1.link.shared :=
    s₂.link.keeps_offer s₂.writer.handle rest
  refine ⟨h₃, hwaiter, fun hrest hr => ⟨hkeeps.armed ha harmed, ?_⟩⟩
  have hrefused : (s₂.link.transport.offer s₂.writer.handle rest).2.1 = 0 := by
    have hmin : min (s₂.link.transport.offer s₂.writer.handle rest).2.1 rest.size = 0 :=
      (congrArg Prod.snd hagain).trans hr
    omega
  -- a refusal means a full buffer, unless it was drained before the offer came back
  rcases full_of_refused h₂.fit hrest hrefused with hfull | hwakes
  · rw [h₂.handle_eq] at hfull
    refine .inr ?_
    rw [transport_offer, h₂.handle_eq]
    exact hfull
  · rw [h₂.handle_eq] at hwakes
    refine .inl ?_
    exact Link.awake_offer (by rwa [h₂.handle_eq]) ha harmed

theorem settings_register (s : Session Interrupted) :
    s.register.1.writer.settings = s.writer.settings := by
  rw [writer_register]

/-- A write that has to wait may. -/
theorem Pours.stands {now : Instant} {body : ByteArray} {n : Nat} {p : Progress}
    (h : Pours now body s n s' p) (ho : s.Own capacity handle) :
    s'.Own capacity handle ∧ ∀ write, p = .suspended write → s'.Stands capacity handle write := by
  induction h with
  | @done s n _ => exact ⟨ho.finishBody body, nofun⟩
  | endless => exact ⟨ho, nofun⟩
  | whole _ _ hoffer _ _ ih => exact ih (ho.offer hoffer)
  | retried _ _ hoffer _ hregister hagain _ _ ih =>
    exact ih (ho.retry hoffer hregister hagain).1.unregister
  | @blocked s s₁ s₂ s₃ n a receiver hn hchunk hoffer hshort hregister hagain =>
    obtain ⟨h₃, hwaiter, hsafe⟩ := ho.retry hoffer hregister hagain
    have hstop : s.chunkEnd body n ≤ body.size := Nat.min_le_left _ _
    refine ⟨h₃.of_link ⟨_, rfl⟩ rfl fun _ => id, fun write hwrite => ?_⟩
    cases hwrite
    have hsettings : s₃.writer.settings = s.writer.settings := by
      have hsettings₂ := s₁.countShort.settings_register
      rw [hregister] at hsettings₂
      obtain rfl : (s₂.offer _).1 = s₃ := congrArg Prod.fst hagain
      obtain rfl : (s.offer _).1 = s₁ := congrArg Prod.fst hoffer
      exact hsettings₂
    -- the first offer fell short, so the second one was not of nothing
    have hrest : 0 < (body.extract (n + a) (s.chunkEnd body n)).size := by
      rw [ByteArray.size_extract]
      omega
    have hsafe' := hsafe hrest rfl
    exact ⟨hwaiter, by rwa [← hsettings] at hchunk, Nat.lt_of_lt_of_le hshort hstop,
      ⟨hsafe'.armed, hsafe'.awake_or_full⟩⟩

theorem Heads.own {status : Http.Status} {result : Except WriteError Unit}
    (h : Heads status s s' result) (ho : s.Own capacity handle) : s'.Own capacity handle := by
  have hsection {layout : Layout} {link : Link Interrupted} {answer : Except TransportError Unit}
      (hsend : s.link.sendSection s.writer.handle status layout s.writer.prepared.fields.instances =
        (link, answer)) :
      link.transport.inner.Fit capacity ∧
        ∀ receiver, s.writer.waiter = some receiver → link.shared.Alive receiver := by
    obtain ⟨hcall, hlink⟩ := Link.sendSection_eq_iff.1 hsend
    have hfit := fit_sendSection ho.fit s.writer.handle status layout
      s.writer.prepared.fields.instances
    rw [hcall] at hfit
    rw [hlink]
    exact ⟨hfit, ho.alive⟩
  cases h with
  | repeated => exact ⟨ho.fit, ho.handle_eq, ho.board_eq, ho.alive⟩
  | unfit => exact ⟨ho.fit, ho.handle_eq, ho.board_eq, ho.alive⟩
  | refused _ _ hsend =>
    obtain ⟨hfit, halive⟩ := hsection hsend
    exact ⟨hfit, ho.handle_eq, ho.board_eq, halive⟩
  | sent _ _ hsend =>
    obtain ⟨hfit, halive⟩ := hsection hsend
    exact ⟨hfit, ho.handle_eq, ho.board_eq, halive⟩

theorem Flushes.own {result : Except WriteError Unit} (h : Flushes s s' result)
    (ho : s.Own capacity handle) : s'.Own capacity handle := by
  cases h with
  | already => exact ho
  | heads _ hheads => exact hheads.own ho

theorem Writes.stands {now : Instant} {body : ByteArray} {p : Progress}
    (h : Writes now body s s' p) (ho : s.Own capacity handle) :
    s'.Own capacity handle ∧ ∀ write, p = .suspended write → s'.Stands capacity handle write := by
  cases h with
  | failed hflush => exact ⟨hflush.own ho, nofun⟩
  | pours hflush hpours => exact hpours.stands (hflush.own ho)

/-- The board after a wait ended still has all its waiters. -/
theorem Own.ended {now : Instant} {write : PendingWrite} {board : AckBoard}
    {outcome : Except WriteError Nat} (h : s.Own capacity handle)
    (hends : s.waitEnds? now write = some (board, outcome)) :
    ({ s with link := s.link.setBoard s.writer.board board } : Session Interrupted).Own
      capacity handle := by
  refine h.of_link ⟨s.writer.stats, rfl⟩ (by simp) fun receiver ha => ?_
  rw [h.board_eq]
  cases ends_of_waitEnds? hends with
  | told htake =>
    rw [h.board_eq] at htake
    exact AckBoard.alive_take? htake ha
  | late =>
    rw [h.board_eq]
    exact ha

theorem Resumes.stands {now : Instant} {write : PendingWrite} {p : Progress}
    (h : Resumes now write s s' p) (ho : s.Own capacity handle)
    (hs : s.Stands capacity handle write) :
    s'.Own capacity handle ∧ ∀ w, p = .suspended w → s'.Stands capacity handle w := by
  cases h with
  | waits =>
    refine ⟨ho, fun w hw => ?_⟩
    cases hw
    exact hs
  | gaveUp hends =>
    refine ⟨?_, nofun⟩
    have hended := (ho.ended hends).unregister
    exact ⟨hended.fit, hended.handle_eq, hended.board_eq, hended.alive⟩
  | pours hends hpours =>
    exact hpours.stands ((ho.ended hends).of_link ⟨s.writer.stats, rfl⟩ rfl fun _ => id)

/-! ## A write that is woken gets on -/

theorem accepted_pos {body : ByteArray} {n stop a : Nat} (ho : s.Own capacity handle)
    (hcapacity : 0 < capacity) (hempty : (s.link.transport.inner.exchange handle).pending = 0)
    (hn : n < stop) (hstop : stop ≤ body.size)
    (hoffer : s.offer (body.extract n stop) = (s₁, a)) : 0 < a := by
  have hchunk : 0 < (body.extract n stop).size := by
    rw [ByteArray.size_extract]
    omega
  have haccepted : 0 < (s.link.transport.offer handle (body.extract n stop)).2.1 :=
    accepted_of_empty ho.fit hcapacity hempty hchunk
  have hmin : min (s.link.transport.offer s.writer.handle (body.extract n stop)).2.1
      (body.extract n stop).size = a := congrArg Prod.snd hoffer
  rw [ho.handle_eq] at hmin
  omega

/-- Into an empty buffer at least one more byte goes. -/
theorem Pours.gains {now : Instant} {body : ByteArray} {n : Nat} {p : Progress}
    (h : Pours now body s n s' p) (ho : s.Own capacity handle) (hcapacity : 0 < capacity)
    (hempty : (s.link.transport.inner.exchange handle).pending = 0) (hn : n < body.size)
    (hchunk : s.writer.settings.chunkSize ≠ 0) : s.received.body.size < s'.received.body.size := by
  obtain ⟨s₁, a, hoffer, hle, hsize⟩ := h.offers hn hchunk
  have hlt : n < s.chunkEnd body n := by
    unfold chunkEnd
    omega
  have hstop : s.chunkEnd body n ≤ body.size := Nat.min_le_left _ _
  have ha := accepted_pos ho hcapacity hempty hlt hstop hoffer
  have hreceived := (Accepts.offer hoffer hle).received
  refine Nat.lt_of_lt_of_le ?_ hsize
  rw [hreceived, Received.body_append, ByteArray.size_append, ByteArray.size_extract]
  omega

/-- A write that is resumed awake goes on, and gets on where the buffer is empty. -/
theorem Resumes.gains {now : Instant} {write : PendingWrite} {p : Progress}
    (h : Resumes now write s s' p) (ho : s.Own capacity handle) (hcapacity : 0 < capacity)
    (hempty : (s.link.transport.inner.exchange handle).pending = 0)
    (hs : s.Stands capacity handle write) (hawake : s.link.shared.Awake write.wait.waiter) :
    s.received.body.size < s'.received.body.size := by
  have hcount : ∃ count board, s.waitEnds? now write = some (board, .ok count) := by
    have htake := AckBoard.take?_eq_none_iff (ho.alive _ hs.waiter_eq)
    rcases hcall : s.link.shared.take? write.wait.waiter with _ | ⟨count, board⟩
    · exact absurd hawake (htake.1 hcall)
    · have hboard :
          (s.link.board s.writer.board).take? write.wait.waiter = some (count, board) := by
        rw [ho.board_eq]
        exact hcall
      exact ⟨count, board, by simp only [waitEnds?, Wait.poll?, hboard]⟩
  obtain ⟨count, board, hends⟩ := hcount
  -- with a count in the mailbox the wait neither goes on nor runs out
  cases h with
  | waits hnone =>
    rw [hnone] at hends
    cases hends
  | gaveUp herror =>
    rw [herror] at hends
    cases hends
  | @pours board' ready _ _ hok hpours =>
    have hready : (({ s with link := s.link.setBoard s.writer.board board' } :
        Session Interrupted).report (.ackReceived s.writer.handle ready)).Own capacity handle :=
      (ho.ended hok).of_link ⟨s.writer.stats, rfl⟩ rfl fun _ => id
    have hgains := hpours.gains hready hcapacity (by simpa [Session.report] using hempty) hs.lt
      hs.chunk_pos
    simpa [received, Session.report] using hgains

end

end Session

end Sluice
