import Sluice.Proofs.Waking.Mail

/-!
# What a notification does

One handle is notified, or all are. Either way the registrations that are found go, each waiter
among them gets one count at most, and a notification that finds none is absorbed.
-/
namespace Sluice

namespace AckBoard

/-- The registrations that a notification finds: that of its handle, or all. -/
def facing (b : AckBoard) : Option HandleId → List (HandleId × WaiterId)
  | some handle => ((b.registrations.find? handle).map fun waiter => (handle, waiter)).toList
  | none => b.registrations.entries

/-- A notification of one handle, or of all. -/
def notify (b : AckBoard) (target : Option HandleId) (count : Nat) : AckBoard :=
  match target with
  | some handle => (b.notifyHandle handle count).1
  | none => (b.notifyAll count).1

variable {b : AckBoard} {target : Option HandleId} {handle : HandleId} {waiter : WaiterId}
  {count : Nat}

theorem facing_some (b : AckBoard) (handle : HandleId) :
    b.facing (some handle) =
      ((b.registrations.find? handle).map fun waiter => (handle, waiter)).toList :=
  rfl

theorem facing_none (b : AckBoard) : b.facing none = b.registrations.entries := rfl

theorem find?_of_mem_facing (hmem : (handle, waiter) ∈ b.facing target) :
    b.registrations.find? handle = some waiter ∧ (target = none ∨ target = some handle) := by
  cases target with
  | none => exact ⟨Table.find?_eq_some_iff.2 hmem, .inl rfl⟩
  | some named =>
    rw [facing_some, Option.mem_toList, Option.map_eq_some_iff] at hmem
    obtain ⟨receiver, hfound, heq⟩ := hmem
    cases heq
    exact ⟨hfound, .inr rfl⟩

theorem pairwise_facing (b : AckBoard) (target : Option HandleId) :
    (b.facing target).Pairwise fun e e' => e.1 ≠ e'.1 := by
  cases target with
  | none => exact List.pairwise_map.1 b.registrations.distinct
  | some handle =>
    rw [facing_some]
    cases b.registrations.find? handle with
    | none => exact .nil
    | some waiter => exact List.pairwise_singleton _ _

/-- A registration that is there afterwards was not found. -/
theorem of_find?_notify (h : (b.notify target count).registrations.find? handle = some waiter) :
    b.registrations.find? handle = some waiter ∧ (handle, waiter) ∉ b.facing target := by
  cases target with
  | none =>
    rw [notify, find?_notifyAll] at h
    cases h
  | some named =>
    rw [notify, find?_notifyHandle] at h
    split at h
    · cases h
    · rename_i hne
      refine ⟨h, fun hmem => ?_⟩
      rcases (find?_of_mem_facing hmem).2 with hnone | hsome
      · cases hnone
      · exact hne (Option.some.inj hsome)

@[simp] theorem opened_notify (b : AckBoard) (target : Option HandleId) (count : Nat) :
    (b.notify target count).opened = b.opened := by
  cases target with
  | none => exact (b.spends_notifyAll count).opened_eq
  | some handle => exact (b.spends_notifyHandle handle count).opened_eq

@[simp] theorem absorbed_deliver (b : AckBoard) (handle : HandleId) (receiver : WaiterId)
    (count : Nat) : (b.deliver handle receiver count).1.absorbed = b.absorbed := by
  unfold deliver
  split <;> rfl

theorem absorbed_deliverAll (b : AckBoard) (count : Nat) (entries : List (HandleId × WaiterId)) :
    (b.deliverAll count entries).1.absorbed = b.absorbed := by
  induction entries generalizing b with
  | nil => rfl
  | cons e rest ih => exact (ih _).trans (b.absorbed_deliver e.1 e.2 count)

/-- It is absorbed exactly if it finds nobody. -/
theorem absorbed_notify (b : AckBoard) (target : Option HandleId) (count : Nat) :
    (b.notify target count).absorbed =
      if b.facing target = [] then b.absorbed + 1 else b.absorbed := by
  cases target with
  | none =>
    rw [facing_none, notify, notifyAll]
    split
    · rename_i hnil
      rw [if_pos hnil]
    · rename_i hne
      rw [if_neg hne]
      exact absorbed_deliverAll _ count _
  | some handle =>
    rw [facing_some, notify, notifyHandle]
    split
    · rename_i receiver hreceiver
      rw [hreceiver, if_neg (by simp)]
      exact absorbed_deliver ..
    · rename_i hnone
      rw [hnone]
      rfl

/-- Where each waiter is named once, those that are named get one count. -/
theorem find?_deliverAll {entries : List (HandleId × WaiterId)}
    (hnodup : (entries.map Prod.snd).Nodup) (b : AckBoard) (count : Nat) (waiter : WaiterId) :
    (b.deliverAll count entries).1.mailboxes.find? waiter =
      if waiter ∈ entries.map Prod.snd then (b.mailboxes.find? waiter).map (·.post count)
      else b.mailboxes.find? waiter := by
  induction entries generalizing b with
  | nil => rfl
  | cons e rest ih =>
    obtain ⟨handle, receiver⟩ := e
    obtain ⟨hnot, hrest⟩ := List.nodup_cons.1 hnodup
    have hfirst := b.find?_deliver handle receiver waiter count
    show ((b.deliver handle receiver count).1.deliverAll count rest).1.mailboxes.find? waiter = _
    rw [ih hrest, hfirst]
    by_cases heq : receiver = waiter
    · subst heq
      rw [if_neg hnot, if_pos rfl, List.map_cons, if_pos List.mem_cons_self]
    · rw [if_neg heq]
      have hiff :
          waiter ∈ ((handle, receiver) :: rest).map Prod.snd ↔ waiter ∈ rest.map Prod.snd := by
        rw [List.map_cons, List.mem_cons]
        exact or_iff_right (Ne.symm heq)
      simp only [hiff]

theorem find?_mailboxes_notify (hnodup : ((b.facing target).map Prod.snd).Nodup) (count : Nat)
    (waiter : WaiterId) :
    (b.notify target count).mailboxes.find? waiter =
      if waiter ∈ (b.facing target).map Prod.snd then (b.mailboxes.find? waiter).map (·.post count)
      else b.mailboxes.find? waiter := by
  cases target with
  | none =>
    rw [facing_none] at hnodup ⊢
    rw [notify, notifyAll]
    split
    · rename_i hnil
      rw [hnil]
      rfl
    · exact find?_deliverAll hnodup _ count waiter
  | some handle =>
    rw [facing_some, notify, notifyHandle]
    split
    · rename_i receiver hreceiver
      rw [hreceiver, find?_deliver]
      simp only [Option.map_some, Option.toList_some, List.map_cons, List.map_nil,
        List.mem_singleton, eq_comm]
    · rename_i hnone
      rw [hnone]
      rfl

/-- A waiter that takes a count out of its mailbox exists, and so do the others as before. -/
theorem isSome_of_take? {b' : AckBoard} (h : b.take? waiter = some (count, b')) :
    (b.mailboxes.find? waiter).isSome ∧ b'.opened = b.opened ∧
      ∀ other, (b'.mailboxes.find? other).isSome = (b.mailboxes.find? other).isSome := by
  unfold take? at h
  split at h
  · cases h
  · rename_i m hm
    split at h
    · cases h
    · rename_i count' rest _
      cases h
      refine ⟨by rw [hm]; rfl, rfl, fun other => ?_⟩
      rw [Table.find?_insert]
      split
      · rename_i heq
        rw [← heq, hm]
        rfl
      · rfl

end AckBoard

end Sluice
