import Sluice.Dispatch.Build
import Sluice.Proofs.Serving.Frame

/-!
# Every handle is in one place

A handle of an orderly transport waits in the pool, once, or it is lent. What is checked out is lent
to nobody else, and what is released was.
-/
namespace Sluice

namespace Pool

variable {τ : Type} [Transport τ] [Transport.Orderly τ]
open Transport.Orderly

/-- The handles of a pool are issued, and none is there twice. -/
structure Tidy (handles : List HandleId) (l : Link τ) : Prop where
  nodup : handles.Nodup
  issued : ∀ handle ∈ handles, issued l.transport handle

/-- The handle is issued, and does not wait in the pool. -/
structure Lent (p : Pool) (l : Link τ) (handle : HandleId) : Prop where
  issued : issued l.transport handle
  unpooled : handle ∉ p.handles

section

variable {handles handles' : List HandleId} {l l' : Link τ} {handle : HandleId} {p p' : Pool}

theorem tidy_nil (l : Link τ) : Tidy [] l := ⟨List.nodup_nil, nofun⟩

/-- Handles may go, as long as the transport forgets none. -/
theorem Tidy.sublist (h : Tidy handles l) (hsub : handles'.Sublist handles)
    (hissued : ∀ g, Transport.Orderly.issued l.transport g →
      Transport.Orderly.issued l'.transport g) : Tidy handles' l' :=
  ⟨h.nodup.sublist hsub, fun g hg => hissued g (h.issued g (hsub.subset hg))⟩

/-- A handle that was lent comes back. -/
theorem Tidy.concat (h : Tidy p.handles l) (hlent : p.Lent l handle) :
    Tidy (p.handles ++ [handle]) l := by
  refine ⟨List.nodup_append.2 ⟨h.nodup, by simp, ?_⟩, fun g hg => ?_⟩
  · rintro g hg g' hg' rfl
    obtain rfl := List.mem_singleton.1 hg'
    exact hlent.unpooled hg
  · rcases List.mem_append.1 hg with hg | hg
    · exact h.issued g hg
    · obtain rfl := List.mem_singleton.1 hg
      exact hlent.issued

theorem Tidy.reverse (h : Tidy handles l) : Tidy handles.reverse l :=
  ⟨handles.reverse_perm.nodup_iff.2 h.nodup, fun g hg => h.issued g (List.mem_reverse.1 hg)⟩

/-- A handle that is allocated is a new one. -/
theorem Tidy.allocate (h : Tidy handles l) (hallocate : l.allocate = (l', .ok handle)) :
    Tidy (handle :: handles) l' := by
  obtain ⟨hrests, hfresh⟩ := l.rests_allocate
  rw [hallocate] at hrests hfresh
  obtain ⟨hnot, hissued⟩ := hfresh handle rfl
  refine ⟨List.nodup_cons.2 ⟨fun hmem => hnot (h.issued handle hmem), h.nodup⟩, ?_⟩
  intro g hg
  rcases List.mem_cons.1 hg with rfl | hg
  · exact hissued
  · exact hrests.issued_of g (h.issued g hg)

/-! ## Release and checkout -/

/-- A handle that is released is pooled, or it is gone. -/
theorem release_spec (p : Pool) (l : Link τ) (handle : HandleId) :
    l.Rests (p.release l handle).2.1 ∧
      ((p.release l handle).1.handles = p.handles ++ [handle] ∨
        (p.release l handle).1.handles = p.handles) := by
  unfold release
  split
  · exact ⟨.refl l, .inl rfl⟩
  · exact ⟨(l.rests_report rfl).trans (Link.rests_finalize _ handle), .inr rfl⟩

/-- What a checkout can do. -/
inductive Checks (p : Pool) (l : Link τ) :
    Pool → Link τ → Except TransportError HandleId → Prop where
  | pooled {p' : Pool} {handle : HandleId} : p.handles = handle :: p'.handles →
      Checks p l p' l (.ok handle)
  /-- The handle is new. -/
  | allocated {l' : Link τ} {handle : HandleId} : l.Rests l' →
      ¬ Transport.Orderly.issued l.transport handle →
      Transport.Orderly.issued l'.transport handle → Checks p l p l' (.ok handle)
  | refused {l' : Link τ} {e} : l.Rests l' → Checks p l p l' (.error e)

theorem checks_checkout (p : Pool) (l : Link τ) :
    Checks p l (p.checkout l).1 (p.checkout l).2.1 (p.checkout l).2.2 := by
  unfold checkout acquire?
  rcases hhandles : p.handles with _ | ⟨first, rest⟩
  · obtain ⟨hrests, hfresh⟩ := (l.report .poolEmpty).rests_allocate
    have hrests' := (l.rests_report rfl).trans hrests
    revert hfresh hrests'
    dsimp only
    rcases (l.report .poolEmpty).allocate with ⟨l', e | handle⟩ <;> intro hfresh hrests'
    · exact .refused hrests'
    · obtain ⟨hnot, hissued⟩ := hfresh handle rfl
      exact .allocated hrests' hnot hissued
  · exact .pooled hhandles

/-- A handle that was checked out is lent, and was lent to nobody before. -/
structure Lends (p : Pool) (l : Link τ) (p' : Pool) (l' : Link τ) (handle : HandleId) :
    Prop where
  rests : l.Rests l'
  sublist : p'.handles.Sublist p.handles
  lent : p'.Lent l' handle
  ne : ∀ g, p.Lent l g → g ≠ handle

theorem Checks.lends (h : Checks p l p' l' (.ok handle)) (htidy : Tidy p.handles l) :
    Lends p l p' l' handle := by
  have hnodup := htidy.nodup
  cases h with
  | pooled hhandles =>
    rw [hhandles] at hnodup
    have hmem : handle ∈ p.handles := by simp [hhandles]
    refine ⟨.refl l, by simp [hhandles], ⟨htidy.issued handle hmem, (List.nodup_cons.1 hnodup).1⟩,
      ?_⟩
    rintro g hg rfl
    exact hg.unpooled hmem
  | allocated hrests hnot hissued =>
    refine ⟨hrests, .refl _, ⟨hissued, fun hmem => hnot (htidy.issued handle hmem)⟩, ?_⟩
    rintro g hg rfl
    exact hnot hg.issued

/-! ## Building -/

theorem tidy_allocateMany {done : List HandleId} (h : Tidy done l) (missing : Nat) :
    Tidy (allocateMany l done missing).2.1 (allocateMany l done missing).1 := by
  induction missing generalizing l done with
  | zero => exact h.reverse
  | succ missing ih =>
    -- the first failure ends it, and what was allocated so far is given back in order
    have hrests := l.rests_allocate.1
    unfold allocateMany
    rcases hallocate : l.allocate with ⟨l', e | handle⟩
    · rw [hallocate] at hrests
      exact h.reverse.sublist (.refl _) hrests.issued_of
    · exact ih (h.allocate hallocate)

theorem tidy_buildPool {settings : PoolSettings} {pool : Pool}
    (h : Dispatcher.buildPool settings l = (l', .ok pool)) : Tidy pool.handles l' := by
  rcases Dispatcher.buildPool_eq_ok h with ⟨hempty, rfl⟩ | ⟨l₁, hmany, htransport⟩
  · rw [hempty]
    exact tidy_nil l'
  · have htidy := tidy_allocateMany (tidy_nil l) settings.capacity
    rw [hmany] at htidy
    refine htidy.sublist (.refl _) fun g hg => ?_
    rw [htransport]
    exact hg

end

end Pool

end Sluice
