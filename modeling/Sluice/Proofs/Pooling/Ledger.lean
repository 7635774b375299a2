import Sluice.Pool
import Sluice.Transport.Tapped

/-!
# The ledger of handles

What a transport was asked for tells which handles it allocated and which were given back. The rest
have to be somewhere: the books are balanced when the pool and those who hold a handle make up for
the difference, each handle as often as it was allocated. Checkout and release keep the books
balanced, and with a pool that is dropped they are closed.
-/
namespace Sluice

namespace TransportCall

/-- The handles that were allocated, in order. -/
def allocated (calls : List TransportCall) : List HandleId := calls.filterMap allocated?

/-- The handles that were given back, in order, and with what completion. -/
def finalized (calls : List TransportCall) : List (HandleId × Completion) :=
  calls.filterMap finalized?

@[simp] theorem allocated_append (calls more : List TransportCall) :
    allocated (calls ++ more) = allocated calls ++ allocated more :=
  List.filterMap_append

@[simp] theorem finalized_append (calls more : List TransportCall) :
    finalized (calls ++ more) = finalized calls ++ finalized more :=
  List.filterMap_append

@[simp] theorem allocated_allocate_ok (handle : HandleId) :
    allocated [.allocate (.ok handle)] = [handle] := rfl

@[simp] theorem allocated_allocate_error (e : TransportError) :
    allocated [.allocate (.error e)] = [] := rfl

@[simp] theorem allocated_finalize (handle : HandleId) (completion : Completion) :
    allocated [.finalize handle completion] = [] := rfl

@[simp] theorem finalized_allocate (answer : Except TransportError HandleId) :
    finalized [.allocate answer] = [] := rfl

@[simp] theorem finalized_finalize (handle : HandleId) (completion : Completion) :
    finalized [.finalize handle completion] = [(handle, completion)] := rfl

/-- Who writes responses allocates nothing. -/
theorem allocated_of_writesOn? {calls : List TransportCall}
    (h : ∀ c ∈ calls, c.writesOn? ≠ none) : allocated calls = [] := by
  apply List.filterMap_eq_nil_iff.2
  intro c hc
  obtain ⟨handle, hhandle⟩ := Option.ne_none_iff_exists'.1 (h c hc)
  exact allocated?_of_writesOn? hhandle

/-- Who writes responses gives nothing back. -/
theorem finalized_of_writesOn? {calls : List TransportCall}
    (h : ∀ c ∈ calls, c.writesOn? ≠ none) : finalized calls = [] := by
  apply List.filterMap_eq_nil_iff.2
  intro c hc
  obtain ⟨handle, hhandle⟩ := Option.ne_none_iff_exists'.1 (h c hc)
  exact finalized?_of_writesOn? hhandle

/-- These handles were allocated, one after the other. -/
def allocations (handles : List HandleId) : List TransportCall :=
  handles.map fun handle => .allocate (.ok handle)

/-- These handles were given back as done with, one after the other. -/
def returns (handles : List HandleId) : List TransportCall :=
  handles.map fun handle => .finalize handle .ok

theorem allocated_allocations (handles : List HandleId) :
    allocated (allocations handles) = handles := by
  induction handles with
  | nil => rfl
  | cons handle rest ih => exact congrArg (handle :: ·) ih

theorem finalized_allocations (handles : List HandleId) :
    finalized (allocations handles) = [] := by
  induction handles with
  | nil => rfl
  | cons handle rest ih => exact ih

theorem finalized_returns (handles : List HandleId) :
    finalized (returns handles) = handles.map fun handle => (handle, .ok) := by
  induction handles with
  | nil => rfl
  | cons handle rest ih => exact congrArg ((handle, .ok) :: ·) ih

end TransportCall

namespace Pool

variable {τ : Type} [Transport τ]

/-- What a checkout can do, and the calls it takes. Only a pool that is empty asks for a new
handle. -/
inductive Draws (p : Pool) : Pool → List TransportCall → Except TransportError HandleId → Prop where
  | pooled {p' : Pool} {handle} : p.handles = handle :: p'.handles → p'.capacity = p.capacity →
      Draws p p' [] (.ok handle)
  | allocated {answer} : p.handles = [] → Draws p p [.allocate answer] answer

theorem draws_checkout (p : Pool) (l : Link (Tapped τ)) :
    ∃ calls, (p.checkout l).2.1.transport.calls = l.transport.calls ++ calls ∧
      p.Draws (p.checkout l).1 calls (p.checkout l).2.2 := by
  unfold checkout acquire?
  rcases hhandles : p.handles with _ | ⟨first, rest⟩
  · exact ⟨[.allocate _], rfl, .allocated hhandles⟩
  · exact ⟨[], (List.append_nil _).symm, .pooled hhandles rfl⟩

/-- What a release can do, and the calls it takes. Only a pool that is full gives the
handle back. -/
inductive Stows (p : Pool) (handle : HandleId) : Pool → List TransportCall → Prop where
  | pooled : p.handles.length < p.capacity →
      Stows p handle { p with handles := p.handles ++ [handle] } []
  | full : p.capacity ≤ p.handles.length → Stows p handle p [.finalize handle .ok]

theorem stows_release (p : Pool) (l : Link (Tapped τ)) (handle : HandleId) :
    ∃ calls, (p.release l handle).2.1.transport.calls = l.transport.calls ++ calls ∧
      p.Stows handle (p.release l handle).1 calls := by
  unfold release
  split
  · rename_i hroom
    exact ⟨[], (List.append_nil _).symm, .pooled hroom⟩
  · rename_i hfull
    exact ⟨[.finalize handle .ok], rfl, .full (Nat.le_of_not_lt hfull)⟩

section

variable {p p' : Pool} {calls : List TransportCall} {handle : HandleId}
  {answer : Except TransportError HandleId}

theorem Draws.capacity_eq (h : p.Draws p' calls answer) : p'.capacity = p.capacity := by
  cases h with
  | pooled _ hcapacity => exact hcapacity
  | allocated => rfl

/-- A checkout makes one call at most, and none while the pool has a handle. -/
theorem Draws.calls_eq (h : p.Draws p' calls answer) :
    calls = [] ∨ p.handles = [] ∧ calls = [.allocate answer] := by
  cases h with
  | pooled => exact .inl rfl
  | allocated hempty => exact .inr ⟨hempty, rfl⟩

/-- What was checked out has left room for it. -/
theorem Draws.length_lt (h : p.Draws p' calls answer) (hle : p.handles.length ≤ p.capacity)
    (hpos : 0 < p.capacity) : p'.handles.length < p'.capacity := by
  cases h with
  | pooled hhandles hcapacity =>
    rw [hhandles, List.length_cons] at hle
    omega
  | allocated hempty =>
    rw [hempty]
    exact hpos

theorem Stows.capacity_eq (h : p.Stows handle p' calls) : p'.capacity = p.capacity := by
  cases h <;> rfl

/-- A release makes one call at most. -/
theorem Stows.calls_eq (h : p.Stows handle p' calls) :
    calls = [] ∨ calls = [.finalize handle .ok] := by
  cases h with
  | pooled => exact .inl rfl
  | full => exact .inr rfl

/-- A pool with room keeps what is released. -/
theorem Stows.calls_eq_nil (h : p.Stows handle p' calls)
    (hroom : p.handles.length < p.capacity) : calls = [] := by
  cases h with
  | pooled => rfl
  | full hfull => omega

end

/-- The books are balanced: the handles of the pool, those that are held and those that were given
back are the ones that were allocated. -/
structure Balanced (p : Pool) (held : List HandleId) (calls : List TransportCall) : Prop where
  length_le : p.handles.length ≤ p.capacity
  perm : (p.handles ++ held ++ (TransportCall.finalized calls).map Prod.fst).Perm
    (TransportCall.allocated calls)
  ok : ∀ f ∈ TransportCall.finalized calls, f.2 = .ok

namespace Balanced

open TransportCall

variable {p p' : Pool} {held held' : List HandleId} {calls more : List TransportCall}
  {handle : HandleId}

/-- How often a handle is where. -/
theorem count_eq (h : p.Balanced held calls) (handle : HandleId) :
    p.handles.count handle + held.count handle +
      ((finalized calls).map Prod.fst).count handle = (allocated calls).count handle := by
  rw [← h.perm.count_eq, List.count_append, List.count_append]

theorem held_perm (h : p.Balanced held calls) (hperm : held.Perm held') :
    p.Balanced held' calls :=
  ⟨h.length_le, ((hperm.append_left _).append_right _).symm.trans h.perm, h.ok⟩

/-- Calls that write a response change nothing. -/
theorem write (h : p.Balanced held calls) (hmore : ∀ c ∈ more, c.writesOn? ≠ none) :
    p.Balanced held (calls ++ more) := by
  have hallocated := allocated_of_writesOn? hmore
  have hfinalized := finalized_of_writesOn? hmore
  refine ⟨h.length_le, ?_, ?_⟩
  · rw [allocated_append, finalized_append, hallocated, hfinalized, List.append_nil,
      List.append_nil]
    exact h.perm
  · rw [finalized_append, hfinalized, List.append_nil]
    exact h.ok

/-- A handle is checked out, and held from then on. -/
theorem draw (h : p.Balanced held calls) (hdraws : p.Draws p' more (.ok handle)) :
    p'.Balanced (handle :: held) (calls ++ more) := by
  cases hdraws with
  | pooled hhandles hcapacity =>
    have hle := h.length_le
    have hperm := h.perm
    rw [hhandles] at hle hperm
    refine ⟨?_, ?_, ?_⟩
    · rw [hcapacity]
      exact Nat.le_of_succ_le hle
    · rw [List.append_nil]
      refine List.Perm.trans ?_ hperm
      exact List.perm_middle.append_right _
    · rw [List.append_nil]
      exact h.ok
  | allocated hempty =>
    refine ⟨h.length_le, ?_, ?_⟩
    · rw [List.perm_iff_count]
      intro g
      have hcount := h.count_eq g
      simp only [allocated_append, finalized_append, allocated_allocate_ok, finalized_allocate,
        List.append_nil, List.count_append, List.count_cons, List.count_nil]
      omega
    · rw [finalized_append, finalized_allocate, List.append_nil]
      exact h.ok

/-- A checkout that fails changes nothing. -/
theorem refuse {e : TransportError} (h : p.Balanced held calls)
    (hdraws : p.Draws p' more (.error e)) : p'.Balanced held (calls ++ more) := by
  cases hdraws with
  | allocated =>
    refine ⟨h.length_le, ?_, ?_⟩
    · rw [allocated_append, finalized_append, allocated_allocate_error, finalized_allocate,
        List.append_nil, List.append_nil]
      exact h.perm
    · rw [finalized_append, finalized_allocate, List.append_nil]
      exact h.ok

/-- A handle that was held is released. -/
theorem stow (h : p.Balanced (handle :: held) calls) (hstows : p.Stows handle p' more) :
    p'.Balanced held (calls ++ more) := by
  cases hstows with
  | pooled hroom =>
    refine ⟨?_, ?_, ?_⟩
    · rw [List.length_append, List.length_singleton]
      exact hroom
    · rw [List.append_nil, List.append_assoc p.handles, List.singleton_append]
      exact h.perm
    · rw [List.append_nil]
      exact h.ok
  | full =>
    refine ⟨h.length_le, ?_, ?_⟩
    · rw [List.perm_iff_count]
      intro g
      have hcount := h.count_eq g
      simp only [allocated_append, finalized_append, allocated_finalize, finalized_finalize,
        List.append_nil, List.map_append, List.map_cons, List.map_nil, List.count_append,
        List.count_cons, List.count_nil] at hcount ⊢
      omega
    · intro f hf
      rw [finalized_append, finalized_finalize] at hf
      rcases List.mem_append.1 hf with hf | hf
      · exact h.ok f hf
      · obtain rfl := List.mem_singleton.1 hf
        rfl

end Balanced

/-! ## Dropping -/

open TransportCall

/-- A pool that is dropped gives back what it holds. -/
theorem calls_drop (p : Pool) (l : Link (Tapped τ)) :
    (p.drop l).transport.calls = l.transport.calls ++ returns p.handles := by
  unfold drop
  induction p.handles generalizing l with
  | nil => exact (List.append_nil _).symm
  | cons handle rest ih =>
    rw [List.foldl_cons, ih]
    exact List.append_assoc _ [_] _

/-- When nobody holds a handle any more and the pool is dropped, every handle has been given back as
often as it was allocated, and as one that is done with. -/
theorem Balanced.drop {p : Pool} {l : Link (Tapped τ)} (h : p.Balanced [] l.transport.calls) :
    (finalized (p.drop l).transport.calls).Perm
      ((allocated l.transport.calls).map fun handle => (handle, .ok)) := by
  have hbefore : finalized l.transport.calls =
      ((finalized l.transport.calls).map Prod.fst).map fun handle => (handle, .ok) := by
    have hok : ∀ f ∈ finalized l.transport.calls, (f.1, Completion.ok) = id f := fun f hf =>
      Prod.ext rfl (h.ok f hf).symm
    rw [List.map_map]
    exact ((List.map_congr_left hok).trans (List.map_id _)).symm
  rw [calls_drop, finalized_append, finalized_returns, hbefore, ← List.map_append]
  apply List.Perm.map
  refine List.Perm.trans List.perm_append_comm ?_
  have hperm := h.perm
  rwa [List.append_nil] at hperm

end Pool

end Sluice
