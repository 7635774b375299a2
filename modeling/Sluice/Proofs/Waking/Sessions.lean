import Sluice.Proofs.Waking.Signals
import Sluice.Proofs.Writing.Calls

/-!
# Writers do not take each other's wake-ups

A writer on one handle may be woken, drained and interrupted in the midst of its calls. None of its
calls takes anything from a waiter of another handle: what woke it, or would wake it, still does.
-/
namespace Sluice

open Interrupted

/-! ## What is spared -/

/-- Nothing was taken from the waiter under the handle: it is woken when space is freed. -/
structure Link.Spares (handle : HandleId) (waiter : WaiterId) (l l' : Link Interrupted) :
    Prop where
  board : l.shared.Keeps handle waiter l'.shared
  pending_le : (l'.transport.inner.exchange handle).pending ≤
    (l.transport.inner.exchange handle).pending
  told : (l'.transport.inner.exchange handle).pending =
      (l.transport.inner.exchange handle).pending ∨
    (l.shared.Alive waiter → l.shared.Armed handle waiter → l'.shared.Awake waiter)

namespace Link.Spares

variable {handle : HandleId} {waiter : WaiterId} {l l₁ l₂ : Link Interrupted}

/-- The buffers were left alone. -/
theorem of_transport (ht : l₁.transport = l.transport)
    (hb : l.shared.Keeps handle waiter l₁.shared) : Spares handle waiter l l₁ :=
  ⟨hb, Nat.le_of_eq (by rw [ht]), .inl (by rw [ht])⟩

theorem refl (l : Link Interrupted) : Spares handle waiter l l := of_transport rfl (.refl _)

theorem trans (h : Spares handle waiter l l₁) (h' : Spares handle waiter l₁ l₂) :
    Spares handle waiter l l₂ where
  board := h.board.trans h'.board
  pending_le := Nat.le_trans h'.pending_le h.pending_le
  told := by
    rcases h.told with heq | hwoken
    · rcases h'.told with heq' | hwoken'
      · exact .inl (heq'.trans heq)
      · exact .inr fun ha hw => hwoken' (h.board.alive ha) (h.board.armed ha hw)
    · exact .inr fun ha hw => h'.board.awake (h.board.alive ha) (hwoken ha hw)

end Link.Spares

/-- The waiter will be woken when there is space: it is armed, and it is awake or there is none. -/
structure Link.Safe (capacity : Nat) (handle : HandleId) (waiter : WaiterId)
    (l : Link Interrupted) : Prop where
  armed : l.shared.Armed handle waiter
  awake_or_full : l.shared.Awake waiter ∨
    (l.transport.inner.exchange handle).pending = capacity

theorem Link.Spares.safe {capacity : Nat} {handle : HandleId} {waiter : WaiterId}
    {l l' : Link Interrupted} (h : Spares handle waiter l l') (ha : l.shared.Alive waiter)
    (hs : l.Safe capacity handle waiter) : l'.Safe capacity handle waiter := by
  refine ⟨h.board.armed ha hs.armed, ?_⟩
  rcases hs.awake_or_full with hw | hfull
  · exact .inl (h.board.awake ha hw)
  · rcases h.told with heq | hwoken
    · exact .inr (heq.trans hfull)
    · exact .inl (hwoken ha hs.armed)

theorem Link.spares_offer {capacity : Nat} {handle other : HandleId} {waiter : WaiterId}
    {l : Link Interrupted} (hfit : l.transport.inner.Fit capacity) (hne : other ≠ handle)
    (chunk : ByteArray) : Spares handle waiter l (l.offer other chunk).1 := by
  refine ⟨l.keeps_offer other chunk, ?_, ?_⟩
  · rw [Link.transport_offer]
    exact l.transport.pending_offer_le hne chunk
  · rw [Link.transport_offer]
    rcases offer_wakes hfit hne chunk with heq | hwakes
    · exact .inl heq
    · exact .inr fun ha hw => awake_offer hwakes ha hw

/-! ## Header sections -/

theorem Interrupted.fit_sendSection {capacity : Nat} {t : Interrupted}
    (h : t.inner.Fit capacity) (handle : HandleId) (status : Http.Status) (layout : Layout)
    (fields : List (FieldName × FieldValue)) :
    (Transport.sendSection t handle status layout fields).1.inner.Fit capacity :=
  Transport.sendSection_induct (P := fun t : Interrupted => t.inner.Fit capacity)
    (fun _ status layout h => h.initResponse handle status layout)
    (fun _ name value h => h.addField handle name value) (fun _ h => h.sendHeaders handle) h
    status layout fields

theorem Interrupted.exchange_sendSection_ne (t : Interrupted) {handle other : HandleId}
    (hne : other ≠ handle) (status : Http.Status) (layout : Layout)
    (fields : List (FieldName × FieldValue)) :
    (Transport.sendSection t other status layout fields).1.inner.exchange handle =
      t.inner.exchange handle :=
  Transport.sendSection_induct
    (P := fun t' : Interrupted => t'.inner.exchange handle = t.inner.exchange handle)
    (fun _ _ _ h => (Loopback.exchange_set ..).trans ((if_neg hne).trans h))
    (fun _ name value h => (Loopback.exchange_addField_ne _ name value hne.symm).trans h)
    (fun _ h => (Loopback.exchange_sendHeaders_ne _ hne.symm).trans h) rfl status layout fields

theorem Link.spares_sendSection {handle other : HandleId} {waiter : WaiterId}
    {l l' : Link Interrupted} {status : Http.Status} {layout : Layout}
    {fields : List (FieldName × FieldValue)} {answer : Except TransportError Unit}
    (h : l.sendSection other status layout fields = (l', answer)) (hne : other ≠ handle) :
    Spares handle waiter l l' := by
  obtain ⟨hsend, hl⟩ := Link.sendSection_eq_iff.1 h
  have hexchange := l.transport.exchange_sendSection_ne hne status layout fields
  rw [hsend] at hexchange
  refine ⟨?_, Nat.le_of_eq ?_, .inl ?_⟩
  · rw [hl]
    exact .refl _
  · rw [hexchange]
  · rw [hexchange]

namespace Session

/-! ## A writer next to a waiter of another handle -/

/-- The session's writer has nothing to do with the waiter of the handle. -/
structure Apart (capacity : Nat) (handle : HandleId) (waiter : WaiterId)
    (s : Session Interrupted) : Prop where
  fit : s.link.transport.inner.Fit capacity
  handle_ne : s.writer.handle ≠ handle
  board_eq : s.writer.board = .shared
  waiter_ne : s.writer.waiter ≠ some waiter
  alive : s.link.shared.Alive waiter

/-- What the session's writer did took nothing from the waiter. -/
def Passes (capacity : Nat) (handle : HandleId) (waiter : WaiterId) (s s' : Session Interrupted) :
    Prop :=
  s.Apart capacity handle waiter → s'.Apart capacity handle waiter ∧
    s.link.Spares handle waiter s'.link

section

variable {capacity : Nat} {handle : HandleId} {waiter : WaiterId}
  {s s₁ s₂ s' : Session Interrupted}

theorem Passes.refl (s : Session Interrupted) : Passes capacity handle waiter s s :=
  fun h => ⟨h, .refl _⟩

theorem Passes.trans (h : Passes capacity handle waiter s s₁)
    (h' : Passes capacity handle waiter s₁ s₂) : Passes capacity handle waiter s s₂ := by
  intro ha
  obtain ⟨ha₁, hs⟩ := h ha
  obtain ⟨ha₂, hs'⟩ := h' ha₁
  exact ⟨ha₂, hs.trans hs'⟩

/-- The writer kept its handle, its board and its waiter, and the transport is as it was. -/
theorem Passes.of_transport (hhandle : s'.writer.handle = s.writer.handle)
    (hboard : s'.writer.board = s.writer.board) (hwaiter : s'.writer.waiter = s.writer.waiter)
    (ht : s'.link.transport = s.link.transport)
    (hkeeps : s.Apart capacity handle waiter →
      s.link.shared.Keeps handle waiter s'.link.shared) :
    Passes capacity handle waiter s s' := by
  intro ha
  refine ⟨⟨?_, ?_, ?_, ?_, (hkeeps ha).alive ha.alive⟩, .of_transport ht (hkeeps ha)⟩
  · rw [ht]
    exact ha.fit
  · rw [hhandle]
    exact ha.handle_ne
  · rw [hboard, ha.board_eq]
  · rw [hwaiter]
    exact ha.waiter_ne

theorem passes_offer {chunk : ByteArray} {a : Nat} (h : s.offer chunk = (s', a)) :
    Passes capacity handle waiter s s' := by
  intro ha
  obtain rfl : (s.offer chunk).1 = s' := congrArg Prod.fst h
  have hs : s.link.Spares handle waiter (s.link.offer s.writer.handle chunk).1 :=
    Link.spares_offer ha.fit ha.handle_ne chunk
  refine ⟨⟨?_, ha.handle_ne, ha.board_eq, ha.waiter_ne, hs.board.alive ha.alive⟩, hs⟩
  rw [transport_offer]
  exact fit_offer ha.fit s.writer.handle chunk

/-- A waiter that is opened now is a new one. -/
theorem passes_register {receiver : WaiterId} (h : s.register = (s', receiver)) :
    Passes capacity handle waiter s s' := by
  intro ha
  obtain rfl : s.register.1 = s' := congrArg Prod.fst h
  have hattach (l : Link Interrupted) (receiver : WaiterId) :
      l.Spares handle waiter (l.attach .shared s.writer.handle receiver) :=
    .of_transport (by simp) (AckBoard.keeps_attach _ ha.handle_ne receiver)
  cases hwaiter : s.writer.waiter with
  | some receiver =>
    have hs := hattach s.link receiver
    rw [register_of_some hwaiter, ha.board_eq]
    refine ⟨⟨?_, ha.handle_ne, ha.board_eq, ha.waiter_ne, hs.board.alive ha.alive⟩, hs⟩
    rw [Link.transport_attach]
    exact ha.fit
  | none =>
    have hopen : s.link.Spares handle waiter (s.link.openMailbox .shared).1 :=
      .of_transport (by simp) (AckBoard.keeps_openMailbox _)
    have hs := hopen.trans (hattach _ (s.link.openMailbox .shared).2)
    rw [register_of_none hwaiter, ha.board_eq]
    refine ⟨⟨?_, ha.handle_ne, ha.board_eq, ?_, hs.board.alive ha.alive⟩, hs⟩
    · rw [Link.transport_attach, Link.transport_openMailbox]
      exact ha.fit
    · intro heq
      have hlt := ha.alive.number_lt
      rw [← Option.some.inj heq] at hlt
      exact Nat.lt_irrefl _ hlt

theorem passes_unregister (s : Session Interrupted) :
    Passes capacity handle waiter s s.unregister := by
  refine .of_transport rfl rfl rfl (by simp) fun ha => ?_
  rw [unregister, ha.board_eq]
  exact AckBoard.keeps_detach _ ha.handle_ne

theorem passes_finishBody (s : Session Interrupted) (body : ByteArray) :
    Passes capacity handle waiter s (s.finishBody body) := by
  obtain ⟨events, hlink⟩ := s.link_finishBody body
  have hwriter := s.writer_finishBody body
  refine .of_transport ?_ ?_ ?_ (by simp) fun _ => ?_
  · rw [hwriter]
  · rw [hwriter]
  · rw [hwriter]
  · rw [hlink]
    exact .refl _

/-- Reports and counts change neither buffers nor the board. -/
theorem passes_of_link (hwriter : ∃ stats, s'.writer = { s.writer with stats })
    (ht : s'.link.transport = s.link.transport) (hshared : s'.link.shared = s.link.shared) :
    Passes capacity handle waiter s s' := by
  obtain ⟨stats, hwriter⟩ := hwriter
  refine .of_transport (by rw [hwriter]) (by rw [hwriter]) (by rw [hwriter]) ht fun _ => ?_
  rw [hshared]
  exact .refl _

theorem passes_countShort (s : Session Interrupted) :
    Passes capacity handle waiter s s.countShort :=
  passes_of_link ⟨_, rfl⟩ rfl rfl

/-- The second offer of a chunk, with the registration before it. -/
theorem passes_retry {chunk rest : ByteArray} {a r : Nat} {receiver : WaiterId}
    {s₃ : Session Interrupted} (hoffer : s.offer chunk = (s₁, a))
    (hregister : s₁.countShort.register = (s₂, receiver)) (hagain : s₂.offer rest = (s₃, r)) :
    Passes capacity handle waiter s s₃ := by
  refine (passes_offer hoffer).trans (.trans ?_ (passes_offer hagain))
  exact (passes_countShort s₁).trans (passes_register hregister)

/-- However a body is poured, it takes nothing from the waiter. -/
theorem Pours.passes {now : Instant} {body : ByteArray} {n : Nat} {p : Progress}
    (h : Pours now body s n s' p) : Passes capacity handle waiter s s' := by
  induction h with
  | @done s n _ => exact passes_finishBody s body
  | @endless s n _ _ => exact .refl s
  | whole _ _ hoffer _ _ ih => exact (passes_offer hoffer).trans ih
  | @retried _ _ _ s₃ _ _ _ _ _ _ _ _ hoffer _ hregister hagain _ _ ih =>
    exact ((passes_retry hoffer hregister hagain).trans (passes_unregister s₃)).trans ih
  | blocked _ _ hoffer _ hregister hagain =>
    exact (passes_retry hoffer hregister hagain).trans (passes_of_link ⟨_, rfl⟩ rfl rfl)

theorem Heads.passes {status : Http.Status} {result : Except WriteError Unit}
    (h : Heads status s s' result) : Passes capacity handle waiter s s' := by
  intro ha
  have hsection {layout : Layout} {link : Link Interrupted} {answer : Except TransportError Unit}
      (hsend : s.link.sendSection s.writer.handle status layout s.writer.prepared.fields.instances =
        (link, answer)) :
      link.transport.inner.Fit capacity ∧ s.link.Spares handle waiter link := by
    have hfit := fit_sendSection ha.fit s.writer.handle status layout
      s.writer.prepared.fields.instances
    rw [(Link.sendSection_eq_iff.1 hsend).1] at hfit
    exact ⟨hfit, Link.spares_sendSection hsend ha.handle_ne⟩
  cases h with
  | repeated =>
    exact ⟨⟨ha.fit, ha.handle_ne, ha.board_eq, ha.waiter_ne, ha.alive⟩,
      .of_transport rfl (.refl _)⟩
  | unfit => exact ⟨⟨ha.fit, ha.handle_ne, ha.board_eq, ha.waiter_ne, ha.alive⟩, .refl _⟩
  | refused _ _ hsend =>
    obtain ⟨hfit, hs⟩ := hsection hsend
    exact ⟨⟨hfit, ha.handle_ne, ha.board_eq, ha.waiter_ne, hs.board.alive ha.alive⟩, hs⟩
  | sent _ _ hsend =>
    obtain ⟨hfit, hs⟩ := hsection hsend
    exact ⟨⟨hfit, ha.handle_ne, ha.board_eq, ha.waiter_ne, hs.board.alive ha.alive⟩,
      hs.trans (.of_transport rfl (.refl _))⟩

theorem Flushes.passes {result : Except WriteError Unit} (h : Flushes s s' result) :
    Passes capacity handle waiter s s' := by
  cases h with
  | already => exact .refl s
  | heads _ hheads => exact hheads.passes

theorem Writes.passes {now : Instant} {body : ByteArray} {p : Progress}
    (h : Writes now body s s' p) : Passes capacity handle waiter s s' := by
  cases h with
  | failed hflush => exact hflush.passes
  | pours hflush hpours => exact hflush.passes.trans hpours.passes

theorem Resumes.passes {now : Instant} {write : PendingWrite} {p : Progress}
    (h : Resumes now write s s' p) (hwaiter : s.writer.waiter = some write.wait.waiter) :
    Passes capacity handle waiter s s' := by
  -- whatever ends the wait, the board keeps all but the writer's own count
  have hboard {board : AckBoard} {outcome : Except WriteError Nat}
      (hends : s.waitEnds? now write = some (board, outcome)) :
      Passes capacity handle waiter s { s with link := s.link.setBoard s.writer.board board } := by
    refine .of_transport rfl rfl rfl (by simp) fun ha => ?_
    have hne : write.wait.waiter ≠ waiter := fun heq => ha.waiter_ne (heq ▸ hwaiter)
    rw [ha.board_eq]
    cases ends_of_waitEnds? hends with
    | told htake =>
      rw [ha.board_eq] at htake
      exact AckBoard.keeps_take? htake hne
    | late =>
      rw [ha.board_eq]
      exact .refl _
  cases h with
  | waits => exact .refl s
  | gaveUp hends =>
    refine ((hboard hends).trans (passes_unregister _)).trans ?_
    exact .of_transport rfl rfl rfl rfl fun _ => .refl _
  | pours hends hpours =>
    refine ((hboard hends).trans ?_).trans hpours.passes
    exact passes_of_link ⟨_, rfl⟩ rfl rfl

end

end Session

end Sluice
