import Sluice.Proofs.Waking.Board
import Sluice.Proofs.Writing.Strokes

/-!
# Who puts registrations up

Registrations go whenever a signal comes, but they come only from writers. A writer puts one up
under its own handle and for its own mailbox, and its mailbox is one that nobody had before.
-/
namespace Sluice

/-! ## Signals use registrations up -/

namespace AckBoard

/-- From the first board to the second registrations went, and no waiter was made. -/
structure Spends (b b' : AckBoard) : Prop where
  opened_eq : b'.opened = b.opened
  registered : ∀ handle waiter, b'.registrations.find? handle = some waiter →
    b.registrations.find? handle = some waiter

variable {b b₁ b₂ : AckBoard}

theorem Spends.refl (b : AckBoard) : Spends b b := ⟨rfl, fun _ _ => id⟩

theorem Spends.trans (h : Spends b b₁) (h' : Spends b₁ b₂) : Spends b b₂ :=
  ⟨h'.opened_eq.trans h.opened_eq,
    fun handle waiter hw => h.registered handle waiter (h'.registered handle waiter hw)⟩

theorem opened_deliverAll (b : AckBoard) (count : Nat) (entries : List (HandleId × WaiterId)) :
    (b.deliverAll count entries).1.opened = b.opened := by
  induction entries generalizing b with
  | nil => rfl
  | cons e rest ih => exact (ih _).trans (b.opened_deliver e.1 e.2 count)

theorem Spends.of_registrations (hopened : b₁.opened = b.opened)
    (hregistrations : b₁.registrations = b.registrations) : Spends b b₁ :=
  ⟨hopened, fun handle waiter hw => by rwa [hregistrations] at hw⟩

theorem spends_notifyHandle (b : AckBoard) (handle : HandleId) (count : Nat) :
    Spends b (b.notifyHandle handle count).1 := by
  refine ⟨?_, fun other waiter hw => ?_⟩
  · unfold notifyHandle
    split
    · exact opened_deliver ..
    · rfl
  · rw [find?_notifyHandle] at hw
    split at hw
    · cases hw
    · exact hw

theorem find?_notifyAll (b : AckBoard) (count : Nat) (handle : HandleId) :
    (b.notifyAll count).1.registrations.find? handle = none := by
  have hwaiting := b.waiting_notifyAll count
  unfold waiting Table.size at hwaiting
  rw [Table.find?, List.eq_nil_of_length_eq_zero hwaiting]
  rfl

theorem spends_notifyAll (b : AckBoard) (count : Nat) : Spends b (b.notifyAll count).1 := by
  refine ⟨?_, fun other waiter hw => ?_⟩
  · unfold notifyAll
    split
    · rfl
    · exact opened_deliverAll ..
  · rw [find?_notifyAll] at hw
    cases hw

/-- A count that is taken leaves the registrations alone. -/
theorem spends_take? {b b' : AckBoard} {waiter : WaiterId} {count : Nat}
    (h : b.take? waiter = some (count, b')) : b.Spends b' := by
  unfold take? at h
  split at h
  · cases h
  · split at h
    · cases h
    · cases h
      exact .of_registrations rfl rfl

/-! ### Whom notifications reach -/

/-- A notification of a handle posts to nobody but who is registered under it. -/
theorem registered_of_notifyHandle {b : AckBoard} {handle : HandleId} {count : Nat}
    {waiter : WaiterId} (h : (b.notifyHandle handle count).1.mailboxes.find? waiter ≠
      b.mailboxes.find? waiter) : b.registrations.find? handle = some waiter := by
  unfold notifyHandle at h
  split at h
  · rename_i receiver hreceiver
    rw [hreceiver]
    by_cases heq : receiver = waiter
    · rw [heq]
    · rw [find?_deliver, if_neg heq] at h
      exact absurd rfl h
  · exact absurd rfl h

theorem mem_of_deliverAll {b : AckBoard} {count : Nat} {entries : List (HandleId × WaiterId)}
    {waiter : WaiterId} (h : (b.deliverAll count entries).1.mailboxes.find? waiter ≠
      b.mailboxes.find? waiter) : ∃ handle, (handle, waiter) ∈ entries := by
  induction entries generalizing b with
  | nil => exact absurd rfl h
  | cons e rest ih =>
    obtain ⟨handle, receiver⟩ := e
    by_cases heq : receiver = waiter
    · exact ⟨handle, by simp [heq]⟩
    · have hfirst : (b.deliver handle receiver count).1.mailboxes.find? waiter =
          b.mailboxes.find? waiter := by
        rw [find?_deliver, if_neg heq]
      obtain ⟨other, hmem⟩ := ih (hfirst ▸ h)
      exact ⟨other, List.mem_cons_of_mem _ hmem⟩

/-- A notification of all posts to nobody but who is registered. -/
theorem registered_of_notifyAll {b : AckBoard} {count : Nat} {waiter : WaiterId}
    (h : (b.notifyAll count).1.mailboxes.find? waiter ≠ b.mailboxes.find? waiter) :
    ∃ handle, b.registrations.find? handle = some waiter := by
  unfold notifyAll at h
  split at h
  · exact absurd rfl h
  · obtain ⟨handle, hmem⟩ := mem_of_deliverAll (b := { b with registrations := .empty }) h
    exact ⟨handle, Table.find?_eq_some_iff.2 hmem⟩

end AckBoard

namespace Link

variable {τ : Type}

@[simp] theorem board_setBoard (l : Link τ) (name : BoardName) (b : AckBoard) :
    (l.setBoard name b).board name = b := by
  cases name <;> rfl

@[simp] theorem board_report (l : Link τ) (e : Event) (name : BoardName) :
    (l.report e).board name = l.board name := by
  cases name <;> rfl

@[simp] theorem board_reportAll (l : Link τ) (events : List Event) (name : BoardName) :
    (l.reportAll events).board name = l.board name := by
  cases name <;> rfl

@[simp] theorem board_attach (l : Link τ) (name : BoardName) (handle : HandleId)
    (waiter : WaiterId) :
    (l.attach name handle waiter).board name = ((l.board name).attach handle waiter).1 := by
  cases name <;> rfl

@[simp] theorem board_detach (l : Link τ) (name : BoardName) (handle : HandleId) :
    (l.detach name handle).board name = ((l.board name).detach handle).1 := by
  cases name <;> rfl

@[simp] theorem board_openMailbox (l : Link τ) (name : BoardName) :
    (l.openMailbox name).1.board name = (l.board name).openMailbox.1 := by
  cases name <;> rfl

@[simp] theorem board_closeMailbox (l : Link τ) (name : BoardName) (waiter : WaiterId) :
    (l.closeMailbox name waiter).board name = (l.board name).closeMailbox waiter := by
  cases name <;> rfl

theorem spends_raise (l : Link τ) (signal : Signal) (name : BoardName) :
    (l.board name).Spends ((l.raise signal).board name) := by
  cases name with
  | own => cases signal <;> exact .refl _
  | shared =>
    cases signal with
    | drained handle freed => exact .refl _
    | ack handle count => exact l.shared.spends_notifyHandle handle count
    | ackAll count => exact l.shared.spends_notifyAll count

theorem spends_raiseAll (l : Link τ) (signals : List Signal) (name : BoardName) :
    (l.board name).Spends ((l.raiseAll signals).board name) := by
  induction signals generalizing l with
  | nil => exact .refl _
  | cons signal rest ih => exact (l.spends_raise signal name).trans (ih _)

variable [Transport τ]

theorem spends_offer (l : Link τ) (handle : HandleId) (chunk : ByteArray) (name : BoardName) :
    (l.board name).Spends ((l.offer handle chunk).1.board name) := by
  have hraise := ({ l with transport := (Transport.offer l.transport handle chunk).1 } :
    Link τ).spends_raiseAll (Transport.offer l.transport handle chunk).2.2 name
  cases name <;> exact hraise

theorem board_sendSection {l l' : Link τ} {handle : HandleId} {status : Http.Status}
    {layout : Layout} {fields : List (FieldName × FieldValue)}
    {answer : Except TransportError Unit}
    (h : l.sendSection handle status layout fields = (l', answer)) (name : BoardName) :
    l'.board name = l.board name := by
  rw [(sendSection_eq_iff.1 h).2]
  cases name <;> rfl

end Link

/-! ## Writers put them up -/

namespace Session

variable {τ : Type}

/-- The board on which the session's writer registers. -/
def ackBoard (s : Session τ) : AckBoard := s.link.board s.writer.board

@[simp] theorem ackBoard_report (s : Session τ) (e : Event) : (s.report e).ackBoard = s.ackBoard :=
  s.link.board_report e s.writer.board

/-- From the first session to the second the writer put up no registration but its own, and took no
mailbox but a new one. -/
structure Posts (s s' : Session τ) : Prop extends s.Continues s' where
  opened_le : s.ackBoard.opened ≤ s'.ackBoard.opened
  waiter : s'.writer.waiter = s.writer.waiter ∨
    s.writer.waiter = none ∧ ∃ waiter, s'.writer.waiter = some waiter ∧
      s.ackBoard.opened ≤ waiter.number ∧ waiter.number < s'.ackBoard.opened
  registered : ∀ handle waiter, s'.ackBoard.registrations.find? handle = some waiter →
    s.ackBoard.registrations.find? handle = some waiter ∨
      handle = s.writer.handle ∧ s'.writer.waiter = some waiter

namespace Posts

variable {s s₁ s₂ : Session τ}

/-- A waiter that is there stays. -/
theorem waiter_eq_some (h : Posts s s₁) {waiter : WaiterId} (hw : s.writer.waiter = some waiter) :
    s₁.writer.waiter = some waiter := by
  rcases h.waiter with heq | ⟨hnone, -⟩
  · exact heq.trans hw
  · rw [hw] at hnone
    cases hnone

/-- The board only lost registrations. -/
theorem of_spends (h : s.Continues s₁) (hwaiter : s₁.writer.waiter = s.writer.waiter)
    (hspends : s.ackBoard.Spends s₁.ackBoard) : Posts s s₁ :=
  ⟨h, Nat.le_of_eq hspends.opened_eq.symm, .inl hwaiter,
    fun handle waiter hw => .inl (hspends.registered handle waiter hw)⟩

theorem refl (s : Session τ) : Posts s s := of_spends ⟨rfl, rfl, id⟩ rfl (.refl _)

theorem trans (h : Posts s s₁) (h' : Posts s₁ s₂) : Posts s s₂ where
  toContinues := h.toContinues.trans h'.toContinues
  opened_le := Nat.le_trans h.opened_le h'.opened_le
  waiter := by
    rcases h.waiter with heq | ⟨hnone, waiter, hw, hnew, hlt⟩
    · rcases h'.waiter with heq' | ⟨hnone', waiter, hw, hnew, hlt⟩
      · exact .inl (heq'.trans heq)
      · exact .inr ⟨heq ▸ hnone', waiter, hw, Nat.le_trans h.opened_le hnew, hlt⟩
    · exact .inr ⟨hnone, waiter, h'.waiter_eq_some hw, hnew, Nat.lt_of_lt_of_le hlt h'.opened_le⟩
  registered handle waiter hw := by
    rcases h'.registered handle waiter hw with hold | ⟨hhandle, hown⟩
    · exact (h.registered handle waiter hold).imp_right fun ⟨hhandle, hown⟩ =>
        ⟨hhandle, h'.waiter_eq_some hown⟩
    · exact .inr ⟨hhandle.trans h.handle_eq, hown⟩

end Posts

/-- What a registration under the writer's handle can change. -/
theorem of_find?_attach {b : AckBoard} {mine handle : HandleId} {waiter own : WaiterId}
    (h : (b.attach mine own).1.registrations.find? handle = some waiter) :
    b.registrations.find? handle = some waiter ∨ handle = mine ∧ some own = some waiter := by
  rcases Table.of_find?_insert h with ⟨rfl, rfl⟩ | ⟨-, hold⟩
  · exact .inr ⟨rfl, rfl⟩
  · exact .inl hold

theorem posts_register (s : Session τ) : Posts s s.register.1 := by
  have hcontinues : s.Continues s.register.1 := by
    have hwriter := s.writer_register
    exact ⟨by rw [hwriter], by rw [hwriter], fun h => by rwa [hwriter]⟩
  cases hwaiter : s.writer.waiter with
  | some own =>
    rw [register_of_some hwaiter] at hcontinues ⊢
    have hboard : (s.link.attach s.writer.board s.writer.handle own).board s.writer.board = _ :=
      s.link.board_attach s.writer.board s.writer.handle own
    refine ⟨hcontinues, ?_, .inl rfl, fun handle waiter hw => ?_⟩
    · rw [ackBoard, ackBoard, hboard]
      exact Nat.le_refl _
    · rw [ackBoard, hboard] at hw
      rw [hwaiter]
      exact of_find?_attach hw
  | none =>
    rw [register_of_none hwaiter] at hcontinues ⊢
    have hboard : ((s.link.openMailbox s.writer.board).1.attach s.writer.board s.writer.handle
        (s.link.openMailbox s.writer.board).2).board s.writer.board = _ :=
      Link.board_attach ..
    rw [Link.board_openMailbox] at hboard
    refine ⟨hcontinues, ?_, .inr ⟨hwaiter, _, rfl, Nat.le_refl _, ?_⟩, fun handle waiter hw => ?_⟩
    · rw [ackBoard, ackBoard, hboard]
      exact Nat.le_succ _
    · rw [ackBoard, hboard]
      exact Nat.lt_succ_self _
    · rw [ackBoard, hboard] at hw
      exact of_find?_attach hw

theorem spends_unregister (s : Session τ) : s.ackBoard.Spends s.unregister.ackBoard := by
  refine ⟨?_, fun handle waiter hw => ?_⟩
  · rw [ackBoard, unregister, Link.board_detach]
    rfl
  · rw [ackBoard, unregister, Link.board_detach] at hw
    exact (Table.of_find?_erase hw).2

/-- The board once the writer was closed. -/
theorem board_close {s : Session τ} {waiter : WaiterId} (h : s.writer.waiter = some waiter) :
    s.close.board s.writer.board =
      (s.ackBoard.detach s.writer.handle).1.closeMailbox waiter := by
  simp only [close, h, Link.board_closeMailbox, Link.board_detach]
  rfl

theorem spends_close (s : Session τ) : s.ackBoard.Spends (s.close.board s.writer.board) := by
  cases hwaiter : s.writer.waiter with
  | none =>
    rw [close, hwaiter]
    exact .refl _
  | some waiter =>
    rw [board_close hwaiter]
    exact ⟨rfl, fun handle other hw => (Table.of_find?_erase hw).2⟩

/-- A writer that ever waited leaves nothing registered under its handle. -/
theorem find?_close {s : Session τ} (h : s.writer.waiter ≠ none) :
    (s.close.board s.writer.board).registrations.find? s.writer.handle = none := by
  obtain ⟨waiter, hwaiter⟩ := Option.ne_none_iff_exists'.1 h
  rw [board_close hwaiter]
  exact Table.find?_erase_self ..

variable [Transport τ]

theorem Stroke.posts {s s' : Session τ} (h : Stroke s s') : Posts s s' := by
  have hcontinues := h.continues
  cases h with
  | notes hhandle hboard hwaiter _ =>
    refine .of_spends hcontinues hwaiter ?_
    rw [ackBoard, ackBoard, hboard]
    exact .refl _
  | reports log =>
    refine .of_spends hcontinues rfl ?_
    cases hname : s.writer.board <;> simp only [ackBoard, Link.board, hname] <;> exact .refl _
  | sends hsend =>
    refine .of_spends hcontinues rfl ?_
    rw [ackBoard, ackBoard, Link.board_sendSection hsend]
    exact .refl _
  | offers chunk => exact .of_spends hcontinues rfl (s.link.spends_offer _ chunk _)
  | registers => exact s.posts_register
  | unregisters => exact .of_spends hcontinues rfl s.spends_unregister
  | takes _ htake =>
    refine .of_spends hcontinues rfl ?_
    rw [ackBoard, ackBoard, Link.board_setBoard]
    exact AckBoard.spends_take? htake

theorem Strokes.posts {s s' : Session τ} (h : Strokes s s') : Posts s s' := by
  induction h with
  | refl => exact .refl s
  | tail _ hstroke ih => exact ih.trans hstroke.posts

end Session

end Sluice
