import Sluice.Link
import Sluice.Proofs.Waking.Board
import Sluice.Transport.Interrupted

/-!
# Space that is freed is told

On a loopback transport with a notifier, the buffer of a handle gets no emptier without a signal
that wakes whoever is registered under the handle.
-/
namespace Sluice

/-- The signal reaches a registration under the handle. -/
def Signal.Wakes (handle : HandleId) : Signal → Prop
  | .drained .. => False
  | .ack h _ => h = handle
  | .ackAll _ => True

/-! ## Signals reach the board -/

namespace Link

variable {τ : Type} {handle : HandleId} {waiter : WaiterId}

theorem keeps_raise (l : Link τ) (signal : Signal) :
    l.shared.Keeps handle waiter (l.raise signal).shared := by
  cases signal with
  | drained g freed => exact .refl _
  | ack g count => exact AckBoard.keeps_notifyHandle ..
  | ackAll count => exact AckBoard.keeps_notifyAll ..

theorem awake_raise {l : Link τ} {signal : Signal} (hs : signal.Wakes handle)
    (ha : l.shared.Alive waiter) (h : l.shared.Armed handle waiter) :
    (l.raise signal).shared.Awake waiter := by
  cases signal with
  | drained g freed => exact hs.elim
  | ack g count =>
    obtain rfl : g = handle := hs
    exact AckBoard.awake_notifyHandle ha h count
  | ackAll count => exact AckBoard.awake_notifyAll ha h count

theorem keeps_raiseAll (l : Link τ) (signals : List Signal) :
    l.shared.Keeps handle waiter (l.raiseAll signals).shared := by
  induction signals generalizing l with
  | nil => exact .refl _
  | cons signal rest ih => exact (l.keeps_raise signal).trans (ih _)

theorem awake_raiseAll {l : Link τ} {signals : List Signal}
    (hs : ∃ signal ∈ signals, signal.Wakes handle) (ha : l.shared.Alive waiter)
    (h : l.shared.Armed handle waiter) : (l.raiseAll signals).shared.Awake waiter := by
  obtain ⟨signal, hmem, hwakes⟩ := hs
  induction signals generalizing l with
  | nil => cases hmem
  | cons first rest ih =>
    have hkeeps : l.shared.Keeps handle waiter (l.raise first).shared := l.keeps_raise first
    rcases List.mem_cons.1 hmem with rfl | hmem
    · have hrest : (l.raise signal).shared.Keeps handle waiter _ := keeps_raiseAll _ rest
      exact hrest.awake (hkeeps.alive ha) (awake_raise hwakes ha h)
    · exact ih (hkeeps.alive ha) (hkeeps.armed ha h) hmem

variable [Transport τ]

theorem keeps_offer (l : Link τ) (other : HandleId) (chunk : ByteArray) :
    l.shared.Keeps handle waiter (l.offer other chunk).1.shared := by
  let l₁ : Link τ := { l with transport := (Transport.offer l.transport other chunk).1 }
  exact l₁.keeps_raiseAll (Transport.offer l.transport other chunk).2.2

theorem awake_offer {l : Link τ} {other : HandleId} {chunk : ByteArray}
    (hs : ∃ signal ∈ (Transport.offer l.transport other chunk).2.2, signal.Wakes handle)
    (ha : l.shared.Alive waiter) (h : l.shared.Armed handle waiter) :
    (l.offer other chunk).1.shared.Awake waiter := by
  let l₁ : Link τ := { l with transport := (Transport.offer l.transport other chunk).1 }
  have ha₁ : l₁.shared.Alive waiter := ha
  exact awake_raiseAll hs ha₁ h

end Link

/-! ## Drains raise signals -/

namespace Loopback

/-- A transport with bounded buffers that tells of the space it frees. -/
structure Fit (capacity : Nat) (t : Loopback) : Prop where
  capacity_eq : t.capacity = some capacity
  told : t.routing ≠ none
  pending_le : ∀ handle, (t.exchange handle).pending ≤ capacity

theorem drainSignals_wakes {routing : Option AckRouting} (h : routing ≠ none) {freed : Nat}
    (hfreed : freed ≠ 0) (handle : HandleId) :
    ∃ signal ∈ drainSignals routing handle freed, signal.Wakes handle := by
  unfold drainSignals
  rw [if_neg hfreed]
  rcases routing with _ | _ | _
  · exact absurd rfl h
  · exact ⟨.ack handle 1, by simp, rfl⟩
  · exact ⟨.ackAll 1, by simp, trivial⟩

/-- Where a drain frees space it says so. -/
theorem drain_wakes {t : Loopback} (h : t.routing ≠ none) (drained handle : HandleId) :
    ((t.drain drained).1.exchange handle).pending = (t.exchange handle).pending ∨
      ∃ signal ∈ (t.drain drained).2.2, signal.Wakes handle := by
  rw [pending_drain]
  by_cases heq : drained = handle
  · subst heq
    rw [if_pos rfl]
    unfold drain
    split
    · rename_i hnone
      left
      simp [exchange, hnone]
    · rename_i e he
      by_cases hzero : e.pending = 0
      · left
        simp [exchange, he, hzero]
      · exact .inr (drainSignals_wakes h hzero drained)
  · exact .inl (if_neg heq)

namespace Fit

variable {capacity : Nat} {t : Loopback}

/-- The exchange of one handle is replaced by one that fits. -/
theorem set (h : t.Fit capacity) (handle : HandleId) {e : Exchange} (he : e.pending ≤ capacity) :
    (t.set handle e).Fit capacity := by
  refine ⟨h.capacity_eq, h.told, fun g => ?_⟩
  rw [exchange_set]
  split
  · exact he
  · exact h.pending_le g

theorem drain (h : t.Fit capacity) (handle : HandleId) : (t.drain handle).1.Fit capacity := by
  refine ⟨?_, ?_, fun g => ?_⟩
  · rw [capacity_drain, h.capacity_eq]
  · rw [routing_drain]
    exact h.told
  · rw [pending_drain]
    split
    · exact Nat.zero_le _
    · exact h.pending_le g

theorem offer (h : t.Fit capacity) (handle : HandleId) (chunk : ByteArray) :
    (t.offer handle chunk).1.Fit capacity := by
  refine h.set handle ?_
  have hle := h.pending_le handle
  simp only [room, h.capacity_eq]
  omega

theorem initResponse (h : t.Fit capacity) (handle : HandleId) (status : Http.Status)
    (layout : Layout) : (t.initResponse handle status layout).Fit capacity :=
  h.set handle (Nat.zero_le _)

theorem addField (h : t.Fit capacity) (handle : HandleId) (name value : ByteArray) :
    (t.addField handle name value).1.Fit capacity := by
  rcases hcall : t.addField handle name value with ⟨t', e | ⟨⟨⟩⟩⟩
  · rwa [addField_eq_error hcall]
  · rw [addField_eq_ok hcall]
    exact h.set handle (h.pending_le handle)

theorem sendHeaders (h : t.Fit capacity) (handle : HandleId) :
    (t.sendHeaders handle).1.Fit capacity := by
  rcases hcall : t.sendHeaders handle with ⟨t', e | ⟨⟨⟩⟩⟩
  · rwa [sendHeaders_eq_error hcall]
  · rw [sendHeaders_eq_ok hcall]
    exact h.set handle (h.pending_le handle)

end Fit

end Loopback

/-! ## Interrupted offers -/

namespace Interrupted

variable {capacity : Nat}

theorem fit_interrupt {t : Loopback} (h : t.Fit capacity) (l : List Interruption) :
    (interrupt t l).1.Fit capacity := by
  induction l generalizing t with
  | nil => exact h
  | cons i rest ih =>
    cases i with
    | drain handle => exact ih (h.drain handle)
    | signal signal => exact ih h

/-- Interruptions free space. -/
theorem pending_interrupt_le (t : Loopback) (l : List Interruption) (handle : HandleId) :
    ((interrupt t l).1.exchange handle).pending ≤ (t.exchange handle).pending := by
  induction l generalizing t with
  | nil => exact Nat.le_refl _
  | cons i rest ih =>
    cases i with
    | drain drained =>
      refine Nat.le_trans (ih (t.drain drained).1) ?_
      rw [Loopback.pending_drain]
      split
      · exact Nat.zero_le _
      · exact Nat.le_refl _
    | signal signal => exact ih t

/-- Where interruptions free space, they say so. -/
theorem interrupt_wakes {t : Loopback} (h : t.routing ≠ none) (l : List Interruption)
    (handle : HandleId) :
    ((interrupt t l).1.exchange handle).pending = (t.exchange handle).pending ∨
      ∃ signal ∈ (interrupt t l).2, signal.Wakes handle := by
  induction l generalizing t with
  | nil => exact .inl rfl
  | cons i rest ih =>
    cases i with
    | drain drained =>
      have hrest := @ih (t.drain drained).1 (by rwa [Loopback.routing_drain])
      rcases Loopback.drain_wakes h drained handle with heq | ⟨signal, hmem, hs⟩
      · -- this drain freed nothing of the handle's, so it is as if it had not been
        rcases hrest with hrest | ⟨signal, hmem, hs⟩
        · exact .inl (hrest.trans heq)
        · exact .inr ⟨signal, List.mem_append_right _ hmem, hs⟩
      · exact .inr ⟨signal, List.mem_append_left _ hmem, hs⟩
    | signal s =>
      rcases @ih t h with heq | ⟨signal, hmem, hs⟩
      · exact .inl heq
      · exact .inr ⟨signal, List.mem_cons_of_mem _ hmem, hs⟩

variable {t : Interrupted} {handle other : HandleId} {chunk : ByteArray}

theorem fit_early (h : t.inner.Fit capacity) : t.early.Fit capacity := fit_interrupt h _

theorem pending_early_le (t : Interrupted) (handle : HandleId) :
    (t.early.exchange handle).pending ≤ (t.inner.exchange handle).pending :=
  pending_interrupt_le ..

theorem fit_offer (h : t.inner.Fit capacity) (handle : HandleId) (chunk : ByteArray) :
    (t.offer handle chunk).1.inner.Fit capacity :=
  fit_interrupt ((fit_early h).offer handle chunk) _

/-- An offer for another handle takes no space. -/
theorem pending_offer_le (t : Interrupted) (hne : other ≠ handle) (chunk : ByteArray) :
    ((t.offer other chunk).1.inner.exchange handle).pending ≤
      (t.inner.exchange handle).pending := by
  have hlate := pending_interrupt_le (t.early.offer other chunk).1 t.next.after handle
  rw [Loopback.pending_offer, if_neg hne] at hlate
  exact Nat.le_trans hlate (t.pending_early_le handle)

/-- Where it is interrupted by something that frees space, that is told. -/
theorem offer_wakes (h : t.inner.Fit capacity) (hne : other ≠ handle) (chunk : ByteArray) :
    ((t.offer other chunk).1.inner.exchange handle).pending =
        (t.inner.exchange handle).pending ∨
      ∃ signal ∈ (t.offer other chunk).2.2, signal.Wakes handle := by
  have hoffer := (fit_early h).offer other chunk
  have hlate := interrupt_wakes hoffer.told t.next.after handle
  rw [Loopback.pending_offer, if_neg hne] at hlate
  rcases interrupt_wakes h.told t.next.before handle with heq | ⟨signal, hmem, hs⟩
  · rcases hlate with hlate | ⟨signal, hmem, hs⟩
    · exact .inl (hlate.trans heq)
    · exact .inr ⟨signal, List.mem_append_right _ hmem, hs⟩
  · exact .inr ⟨signal, List.mem_append_left _ hmem, hs⟩

/-- Of a chunk nothing is accepted only where the buffer is full. If it no longer is when the offer
is over, that was told. -/
theorem full_of_refused (h : t.inner.Fit capacity) (hchunk : 0 < chunk.size)
    (hrefused : (t.offer handle chunk).2.1 = 0) :
    ((t.offer handle chunk).1.inner.exchange handle).pending = capacity ∨
      ∃ signal ∈ (t.offer handle chunk).2.2, signal.Wakes handle := by
  have hle := (fit_early h).pending_le handle
  have hzero : (t.early.offer handle chunk).2 = 0 := hrefused
  have hroom : Loopback.room t.early.capacity (t.early.exchange handle).pending chunk.size = 0 :=
    hzero
  -- at the moment of the refusal the buffer is full, and only what comes after can free space
  have hfull : ((t.early.offer handle chunk).1.exchange handle).pending = capacity := by
    rw [Loopback.pending_offer, if_pos rfl, hzero]
    rw [(fit_early h).capacity_eq] at hroom
    simp only [Loopback.room] at hroom
    omega
  rcases interrupt_wakes ((fit_early h).offer handle chunk).told t.next.after handle with
    heq | ⟨signal, hmem, hs⟩
  · exact .inl (heq.trans hfull)
  · exact .inr ⟨signal, List.mem_append_right _ hmem, hs⟩

/-- Into an empty buffer something fits. -/
theorem accepted_of_empty (h : t.inner.Fit capacity) (hcapacity : 0 < capacity)
    (hempty : (t.inner.exchange handle).pending = 0) (hchunk : 0 < chunk.size) :
    0 < (t.offer handle chunk).2.1 := by
  have hle := t.pending_early_le handle
  show 0 < Loopback.room t.early.capacity (t.early.exchange handle).pending chunk.size
  rw [(fit_early h).capacity_eq]
  simp only [Loopback.room]
  omega

end Interrupted

end Sluice
