import Sluice.Acks.Board

/-!
# Who is woken

A waiter is awake while its mailbox holds a count, and armed while the next notification of a handle
would leave it awake. Nothing that happens on the board for the sake of others takes either away,
and a notification of the handle, or of all, wakes whoever is armed for it.
-/
namespace Sluice

namespace Mailbox

theorem counts_post_ne_nil (m : Mailbox) (count : Nat) : (m.post count).counts ≠ [] := by
  rw [counts_post]
  split
  · simp
  · rename_i hfull
    intro hnil
    rw [hnil] at hfull
    exact hfull (by decide)

end Mailbox

namespace AckBoard

/-- The waiter was made and is not gone. -/
structure Alive (b : AckBoard) (waiter : WaiterId) : Prop where
  number_lt : waiter.number < b.opened
  isSome : (b.mailboxes.find? waiter).isSome

/-- A count waits in the mailbox. -/
def Awake (b : AckBoard) (waiter : WaiterId) : Prop :=
  ∃ m, b.mailboxes.find? waiter = some m ∧ m.counts ≠ []

/-- The next notification of the handle finds the waiter awake, or wakes it. -/
def Armed (b : AckBoard) (handle : HandleId) (waiter : WaiterId) : Prop :=
  b.Awake waiter ∨ b.registrations.find? handle = some waiter

/-- Whatever the waiter could count on under the handle, it can still count on. -/
structure Keeps (handle : HandleId) (waiter : WaiterId) (b b' : AckBoard) : Prop where
  alive : b.Alive waiter → b'.Alive waiter
  awake : b.Alive waiter → b.Awake waiter → b'.Awake waiter
  armed : b.Alive waiter → b.Armed handle waiter → b'.Armed handle waiter

namespace Keeps

variable {handle : HandleId} {waiter : WaiterId} {b b₁ b₂ : AckBoard}

theorem refl (b : AckBoard) : Keeps handle waiter b b := ⟨id, fun _ => id, fun _ => id⟩

theorem trans (h : Keeps handle waiter b b₁) (h' : Keeps handle waiter b₁ b₂) :
    Keeps handle waiter b b₂ where
  alive ha := h'.alive (h.alive ha)
  awake ha hw := h'.awake (h.alive ha) (h.awake ha hw)
  armed ha hw := h'.armed (h.alive ha) (h.armed ha hw)

/-- The waiter's mailbox was left alone, and so was the registration of the handle. -/
theorem of_find? (hopened : b.opened ≤ b₁.opened)
    (hmailbox : b.Alive waiter → b₁.mailboxes.find? waiter = b.mailboxes.find? waiter)
    (hregistration : b₁.registrations.find? handle = b.registrations.find? handle) :
    Keeps handle waiter b b₁ where
  alive ha := ⟨Nat.lt_of_lt_of_le ha.number_lt hopened, by rw [hmailbox ha]; exact ha.isSome⟩
  awake ha hw := by
    rw [Awake, hmailbox ha]
    exact hw
  armed ha hw := by
    rw [Armed, Awake, hmailbox ha, hregistration]
    exact hw

end Keeps

variable {b : AckBoard} {handle other : HandleId} {waiter : WaiterId}

theorem take?_eq_none_iff (ha : b.Alive waiter) : b.take? waiter = none ↔ ¬ b.Awake waiter := by
  obtain ⟨m, hm⟩ := Option.isSome_iff_exists.1 ha.isSome
  simp only [take?, Awake, hm, Option.some.injEq, exists_eq_left', Decidable.not_not]
  rw [← m.take?_eq_none_iff]
  cases m.take? <;> simp

/-! ## Deliveries -/

theorem find?_deliver (b : AckBoard) (handle : HandleId) (receiver waiter : WaiterId)
    (count : Nat) :
    (b.deliver handle receiver count).1.mailboxes.find? waiter =
      if receiver = waiter then (b.mailboxes.find? waiter).map (·.post count)
      else b.mailboxes.find? waiter := by
  unfold deliver
  split
  · rename_i m hm
    rw [Table.find?_insert]
    split
    · rename_i heq
      rw [← heq, hm]
      rfl
    · rfl
  · rename_i hm
    split
    · rename_i heq
      rw [← heq, hm]
      rfl
    · rfl

@[simp] theorem opened_deliver (b : AckBoard) (handle : HandleId) (receiver : WaiterId)
    (count : Nat) : (b.deliver handle receiver count).1.opened = b.opened := by
  unfold deliver
  split <;> rfl

/-- A delivery to a waiter that exists leaves it awake. -/
theorem awake_deliver (ha : b.Alive waiter) (other : HandleId) (count : Nat) :
    (b.deliver other waiter count).1.Awake waiter := by
  obtain ⟨m, hm⟩ := Option.isSome_iff_exists.1 ha.isSome
  refine ⟨m.post count, ?_, m.counts_post_ne_nil count⟩
  rw [find?_deliver, if_pos rfl, hm]
  rfl

theorem keeps_deliver (b : AckBoard) (other : HandleId) (receiver : WaiterId) (count : Nat) :
    Keeps handle waiter b (b.deliver other receiver count).1 := by
  have halive : b.Alive waiter → (b.deliver other receiver count).1.Alive waiter := by
    intro ha
    refine ⟨by simpa using ha.number_lt, ?_⟩
    rw [find?_deliver]
    split
    · simpa using ha.isSome
    · exact ha.isSome
  have hawake : b.Alive waiter → b.Awake waiter →
      (b.deliver other receiver count).1.Awake waiter := by
    intro ha hw
    by_cases heq : receiver = waiter
    · rw [heq]
      exact awake_deliver ha other count
    · obtain ⟨m, hm, hne⟩ := hw
      exact ⟨m, by rwa [find?_deliver, if_neg heq], hne⟩
  refine ⟨halive, hawake, fun ha hw => ?_⟩
  rcases hw with hw | hw
  · exact .inl (hawake ha hw)
  · exact .inr (by rwa [registrations_deliver])

theorem keeps_deliverAll (b : AckBoard) (count : Nat) (entries : List (HandleId × WaiterId)) :
    Keeps handle waiter b (b.deliverAll count entries).1 := by
  induction entries generalizing b with
  | nil => exact .refl b
  | cons e rest ih => exact (keeps_deliver b e.1 e.2 count).trans (ih _)

/-- Every waiter in the list that exists is left awake. -/
theorem awake_deliverAll (ha : b.Alive waiter) (count : Nat) {entries : List (HandleId × WaiterId)}
    (hmem : (handle, waiter) ∈ entries) : (b.deliverAll count entries).1.Awake waiter := by
  induction entries generalizing b with
  | nil => cases hmem
  | cons e rest ih =>
    have hkeeps : Keeps handle waiter b _ := keeps_deliver b e.1 e.2 count
    rcases List.mem_cons.1 hmem with rfl | hmem
    · -- it is this one, and the later deliveries leave it awake
      have hrest : Keeps handle waiter (b.deliver handle waiter count).1 _ :=
        keeps_deliverAll _ count rest
      exact hrest.awake (hkeeps.alive ha) (awake_deliver ha _ count)
    · exact ih (hkeeps.alive ha) hmem

/-! ## Notifications -/

theorem alive_erase (ha : b.Alive waiter) (other : HandleId) :
    ({ b with registrations := b.registrations.erase other } : AckBoard).Alive waiter :=
  ⟨ha.number_lt, ha.isSome⟩

/-- A notification of its handle leaves an armed waiter awake. -/
theorem awake_notifyHandle (ha : b.Alive waiter) (h : b.Armed handle waiter) (count : Nat) :
    (b.notifyHandle handle count).1.Awake waiter := by
  unfold notifyHandle
  split
  · rename_i receiver hreceiver
    rcases h with h | h
    · have hkeeps : Keeps handle waiter
          { b with registrations := b.registrations.erase handle } _ :=
        keeps_deliver _ handle receiver count
      exact hkeeps.awake (alive_erase ha handle) h
    · obtain rfl : receiver = waiter := Option.some.inj (hreceiver.symm.trans h)
      exact awake_deliver (alive_erase ha handle) handle count
  · rename_i hnone
    rcases h with h | h
    · exact h
    · rw [hnone] at h
      cases h

theorem keeps_notifyHandle (b : AckBoard) (other : HandleId) (count : Nat) :
    Keeps handle waiter b (b.notifyHandle other count).1 := by
  by_cases heq : other = handle
  · subst heq
    have halive : b.Alive waiter → (b.notifyHandle other count).1.Alive waiter := by
      intro ha
      unfold notifyHandle
      split
      · exact (@keeps_deliver other _ _ other _ count).alive (alive_erase ha other)
      · exact ⟨ha.number_lt, ha.isSome⟩
    exact ⟨halive, fun ha hw => awake_notifyHandle ha (.inl hw) count,
      fun ha hw => .inl (awake_notifyHandle ha hw count)⟩
  · unfold notifyHandle
    split
    · rename_i receiver _
      have herase : Keeps handle waiter b
          { b with registrations := b.registrations.erase other } :=
        .of_find? (Nat.le_refl _) (fun _ => rfl) (by rw [Table.find?_erase, if_neg heq])
      exact herase.trans (keeps_deliver _ other receiver count)
    · exact .of_find? (Nat.le_refl _) (fun _ => rfl) rfl

/-- A notification of all leaves an armed waiter awake, whatever its handle. -/
theorem awake_notifyAll (ha : b.Alive waiter) (h : b.Armed handle waiter) (count : Nat) :
    (b.notifyAll count).1.Awake waiter := by
  unfold notifyAll
  split
  · rename_i hnil
    rcases h with h | h
    · exact h
    · rw [Table.find?_eq_some_iff, hnil] at h
      cases h
  · have ha' : ({ b with registrations := .empty } : AckBoard).Alive waiter :=
      ⟨ha.number_lt, ha.isSome⟩
    rcases h with h | h
    · have hkeeps : Keeps handle waiter { b with registrations := .empty } _ :=
        keeps_deliverAll _ count b.registrations.entries
      exact hkeeps.awake ha' h
    · exact awake_deliverAll ha' count (Table.find?_eq_some_iff.1 h)

theorem keeps_notifyAll (b : AckBoard) (count : Nat) :
    Keeps handle waiter b (b.notifyAll count).1 := by
  have halive : b.Alive waiter → (b.notifyAll count).1.Alive waiter := by
    intro ha
    unfold notifyAll
    split
    · exact ⟨ha.number_lt, ha.isSome⟩
    · have hkeeps : Keeps handle waiter { b with registrations := .empty } _ :=
        keeps_deliverAll _ count b.registrations.entries
      exact hkeeps.alive ⟨ha.number_lt, ha.isSome⟩
  exact ⟨halive, fun ha hw => @awake_notifyAll _ handle _ ha (.inl hw) count,
    fun ha hw => .inl (awake_notifyAll ha hw count)⟩

/-! ## What others do on the board -/

theorem keeps_attach (b : AckBoard) (hne : other ≠ handle) (receiver : WaiterId) :
    Keeps handle waiter b (b.attach other receiver).1 :=
  .of_find? (Nat.le_refl _) (fun _ => rfl) (by rw [find?_attach, if_neg hne])

theorem keeps_detach (b : AckBoard) (hne : other ≠ handle) :
    Keeps handle waiter b (b.detach other).1 :=
  .of_find? (Nat.le_refl _) (fun _ => rfl) (by rw [find?_detach, if_neg hne])

theorem keeps_openMailbox (b : AckBoard) : Keeps handle waiter b b.openMailbox.1 := by
  refine .of_find? (Nat.le_succ _) (fun ha => ?_) rfl
  have hne : (⟨b.opened⟩ : WaiterId) ≠ waiter := by
    intro heq
    have hlt := ha.number_lt
    rw [← heq] at hlt
    exact Nat.lt_irrefl _ hlt
  exact (Table.find?_insert ..).trans (if_neg hne)

theorem keeps_closeMailbox (b : AckBoard) {gone : WaiterId} (hne : gone ≠ waiter) :
    Keeps handle waiter b (b.closeMailbox gone) :=
  .of_find? (Nat.le_refl _) (fun _ => (Table.find?_erase ..).trans (if_neg hne)) rfl

/-- A count is taken out of another mailbox. -/
theorem keeps_take? {b b' : AckBoard} {receiver : WaiterId} {count : Nat}
    (h : b.take? receiver = some (count, b')) (hne : receiver ≠ waiter) :
    Keeps handle waiter b b' := by
  unfold take? at h
  split at h
  · cases h
  · split at h
    · cases h
    · cases h
      exact .of_find? (Nat.le_refl _) (fun _ => (Table.find?_insert ..).trans (if_neg hne)) rfl

/-! ## What a waiter does on the board itself -/

theorem alive_openMailbox (b : AckBoard) : b.openMailbox.1.Alive b.openMailbox.2 :=
  ⟨Nat.lt_succ_self _, by simp [openMailbox]⟩

theorem armed_attach (b : AckBoard) (handle : HandleId) (waiter : WaiterId) :
    (b.attach handle waiter).1.Armed handle waiter :=
  .inr (by rw [find?_attach, if_pos rfl])

theorem alive_take? {b b' : AckBoard} {receiver : WaiterId} {count : Nat}
    (h : b.take? receiver = some (count, b')) (ha : b.Alive waiter) : b'.Alive waiter := by
  unfold take? at h
  split at h
  · cases h
  · split at h
    · cases h
    · cases h
      refine ⟨ha.number_lt, ?_⟩
      rw [Table.find?_insert]
      split
      · rfl
      · exact ha.isSome

end AckBoard

end Sluice
