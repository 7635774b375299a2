import Sluice.Proofs.Pooling.Conserved

/-!
# Handles are used again

A handle is allocated only where the pool is empty, and given back only where it is full. As long as
there are never more dispatches in flight than the pool has room for, no handle that is released
finds the pool full, and so the pool comes to hold as many handles as there ever were dispatches in
flight at once, and no more.
-/
namespace Sluice

open TransportCall

variable {τ ε α : Type}

/-- The handle that is held finds room when it is released: a turn does nothing but write on it. -/
theorem Turn.Exits.written [Transport τ] {may : Http.Status → Prop} {t : Turn (Tapped τ)}
    {s : Service (Tapped τ)} {o : Outcome ε} (h : t.Exits may s o)
    (hroom : t.dispatcher.pool.handles.length < t.dispatcher.pool.capacity) :
    ∃ calls, s.link.transport.calls = t.session.link.transport.calls ++ calls ∧
      ∀ c ∈ calls, c.writesOn? = some t.session.writer.handle := by
  have hleave {t' : Turn (Tapped τ)} {tries calls} (hspeaks : t.Speaks t' tries calls) :
      t'.leave.link.transport.calls = t.session.link.transport.calls ++ calls := by
    obtain ⟨more, hmore, hstows⟩ := t'.stows_leave
    rw [← hspeaks.pool_eq] at hroom
    rw [hmore, hstows.calls_eq_nil hroom, List.append_nil, hspeaks.session.calls_eq]
  cases h with
  | waits hspeaks => exact ⟨_, hspeaks.session.calls_eq, hspeaks.session.dialogue.writesOn?⟩
  | returned hspeaks => exact ⟨_, hleave hspeaks, hspeaks.session.dialogue.writesOn?⟩
  | crashed hspeaks => exact ⟨_, hleave hspeaks, hspeaks.session.dialogue.writesOn?⟩

namespace Dispatches

variable {r r' : Dispatches (Tapped τ) ε α} {move : Move (Tapped τ) ε α Silent}
  {capacity m : Nat}

/-- How many dispatches are in flight during a move. A request is one of them as soon as
it comes. -/
def inFlightDuring (r : Dispatches (Tapped τ) ε α) : Move (Tapped τ) ε α Silent → Nat
  | .start .. => r.flights.size + 1
  | _ => r.flights.size

/-- How many dispatches are in flight at once during some moves, at most. -/
def peak [Transport τ] (r : Dispatches (Tapped τ) ε α) : List (Move (Tapped τ) ε α Silent) → Nat
  | [] => r.flights.size
  | move :: rest => max (r.inFlightDuring move) ((r.act move).peak rest)

/-- The calls of a move for which the pool has room. A handle is allocated only for a request that
finds all handles in use. -/
inductive Spends (r : Dispatches (Tapped τ) ε α) (move : Move (Tapped τ) ε α Silent) :
    List TransportCall → Prop where
  | written {calls} : (∀ c ∈ calls, c.writesOn? ≠ none) → Spends r move calls
  | allocated {answer calls} : (allocated r.calls).length < r.inFlightDuring move →
      (∀ c ∈ calls, c.writesOn? ≠ none) → Spends r move (.allocate answer :: calls)

theorem Spends.of_handle {handle : HandleId} {calls : List TransportCall}
    (h : ∀ c ∈ calls, c.writesOn? = some handle) : r.Spends move calls := by
  apply Spends.written
  intro c hc
  simp [h c hc]

/-- Each handle is in the pool, or held, or was given back. -/
theorem KeepsHandles.length_eq (h : r.KeepsHandles capacity) :
    r.pool.handles.length + r.flights.size + (finalized r.calls).length =
      (allocated r.calls).length := by
  have hlength := h.balanced.perm.length_eq
  simp only [List.length_append, List.length_map, heldBy] at hlength
  exact hlength

/-- Who holds a handle has left room for it in the pool. -/
theorem KeepsHandles.room (h : r.KeepsHandles capacity)
    (hfew : (allocated r.calls).length ≤ capacity) {id : Nat} {f : Flight ε α}
    (hf : r.flights.find? id = some f) : r.pool.handles.length < r.pool.capacity := by
  have hlength := h.length_eq
  have hcapacity := h.capacity_eq
  have hflight := Table.size_erase_lt hf
  omega

variable [Transport τ]

theorem KeepsHandles.spends_start (h : r.KeepsHandles capacity) {now : Instant}
    {request : Request} {program : Program ε} {tag : α} {s : Service (Tapped τ)} {o : Outcome ε}
    (hstart : r.service.start now request program = (s, o)) (hkept : finalized r.calls = [])
    (hinFlight : r.flights.size + 1 ≤ capacity) :
    ∃ calls, s.link.transport.calls = r.calls ++ calls ∧
      r.Spends (.start now request program tag) calls := by
  obtain ⟨drawn, hcalls, hdraws⟩ := r.service.dispatcher.pool.draws_checkout r.service.link
  have hspends {written : List TransportCall} (hwritten : ∀ c ∈ written, c.writesOn? ≠ none) :
      r.Spends (.start now request program tag) (drawn ++ written) := by
    rcases hdraws.calls_eq with rfl | ⟨hempty, rfl⟩
    · exact .written hwritten
    · have hlength := h.length_eq
      rw [hkept, pool, hempty] at hlength
      refine .allocated ?_ hwritten
      simp only [inFlightDuring, List.length_nil] at hlength ⊢
      omega
  have hcapacity : r.service.dispatcher.pool.capacity = capacity := h.capacity_eq
  have hroom := hdraws.length_lt h.balanced.length_le (by rw [hcapacity]; omega)
  cases Service.takes_start hstart with
  | refused hcheckout =>
    rw [hcheckout] at hcalls
    refine ⟨drawn, hcalls, ?_⟩
    rw [← List.append_nil drawn]
    exact hspends (by simp)
  | taken hcheckout htransport _ hexits =>
    rw [hcheckout] at hcalls hroom
    obtain ⟨written, hwritten, hon⟩ := hexits.written hroom
    refine ⟨drawn ++ written, ?_, hspends fun c hc => by simp [hon c hc]⟩
    rw [hwritten, htransport, hcalls, List.append_assoc]
    rfl

/-- A dispatch in flight had a turn. -/
theorem KeepsHandles.spends_exits (h : r.KeepsHandles capacity)
    (hfew : (allocated r.calls).length ≤ capacity) {id : Nat} {f : Flight ε α}
    (hf : r.flights.find? id = some f) {may : Http.Status → Prop} {s : Service (Tapped τ)}
    {o : Outcome ε} (hexits : (f.dispatch.turn r.service).Exits may s o) :
    ∃ calls, s.link.transport.calls = r.calls ++ calls ∧ r.Spends move calls := by
  obtain ⟨calls, hcalls, hon⟩ := hexits.written (h.room hfew hf)
  exact ⟨calls, hcalls, .of_handle hon⟩

/-- No move gives a handle back, and only a request makes one. -/
theorem KeepsHandles.spends_steps (h : r.KeepsHandles capacity) (hsteps : r.Steps move r')
    (hkept : finalized r.calls = []) (hfew : (allocated r.calls).length ≤ capacity)
    (hinFlight : r.inFlightDuring move ≤ capacity) :
    ∃ calls, r'.calls = r.calls ++ calls ∧ r.Spends move calls := by
  have hsilent (hsame : r'.calls = r.calls) :
      ∃ calls, r'.calls = r.calls ++ calls ∧ r.Spends move calls :=
    ⟨[], hsame.trans (List.append_nil _).symm, .written nofun⟩
  cases hsteps with
  | starts hstart =>
    rw [calls, service_settle]
    exact h.spends_start hstart hkept hinFlight
  | resumes hf hresume =>
    obtain ⟨may, hstands⟩ := h.waits _ _ hf
    rw [calls, service_settle]
    exact h.spends_exits hfew hf (Service.exits_resume hstands hresume)
  | answers hf hanswer =>
    obtain ⟨may, hstands⟩ := h.waits _ _ hf
    rw [calls, service_settle]
    exact h.spends_exits hfew hf (Service.exits_answer hstands hanswer)
  | @drops id f hf =>
    obtain ⟨calls, hcalls, hstows⟩ := (f.dispatch.turn r.service).stows_leave
    obtain rfl := hstows.calls_eq_nil (h.room hfew hf)
    exact ⟨[], hcalls, .written nofun⟩
  | idles => exact hsilent rfl
  | @changes change =>
    obtain ⟨_, hchange⟩ := change
    cases hchange with
    | recache change => exact hsilent rfl
    | relink change hcalls => exact hsilent (hcalls r.service.link)

/-- No handle was given back, and there are so many at most. -/
structure FewHandles (m : Nat) (r : Dispatches (Tapped τ) ε α) : Prop where
  kept : finalized r.calls = []
  few : (allocated r.calls).length ≤ m

/-- With as many handles as there may be, nothing is done but write. -/
theorem FewHandles.steps (hhandles : r.FewHandles m) (h : r.KeepsHandles capacity)
    (hm : m ≤ capacity) (hsteps : r.Steps move r') (hinFlight : r.inFlightDuring move ≤ m) :
    r'.FewHandles m ∧ ∃ calls, r'.calls = r.calls ++ calls ∧
      (m ≤ (allocated r.calls).length → ∀ c ∈ calls, c.writesOn? ≠ none) := by
  obtain ⟨calls, hcalls, hspends⟩ := h.spends_steps hsteps hhandles.kept
    (Nat.le_trans hhandles.few hm) (Nat.le_trans hinFlight hm)
  cases hspends with
  | written hwritten =>
    refine ⟨⟨?_, ?_⟩, calls, hcalls, fun _ => hwritten⟩
    · rw [hcalls, finalized_append, hhandles.kept, finalized_of_writesOn? hwritten]
      rfl
    · rw [hcalls, allocated_append, allocated_of_writesOn? hwritten, List.append_nil]
      exact hhandles.few
  | @allocated answer written hless hwritten =>
    refine ⟨⟨?_, ?_⟩, _, hcalls, fun hfull => by omega⟩
    · rw [hcalls, ← List.singleton_append, finalized_append, finalized_append, hhandles.kept,
        finalized_allocate, finalized_of_writesOn? hwritten]
      rfl
    · have hone : (allocated [.allocate answer]).length ≤ 1 := List.length_filterMap_le _ _
      rw [hcalls, ← List.singleton_append, allocated_append, allocated_append,
        allocated_of_writesOn? hwritten, List.append_nil, List.length_append]
      omega

theorem FewHandles.run (hhandles : r.FewHandles m) (h : r.KeepsHandles capacity) (hm : m ≤ capacity)
    {moves : List (Move (Tapped τ) ε α Silent)} (hpeak : r.peak moves ≤ m) :
    (r.run moves).FewHandles m ∧ ∃ calls, (r.run moves).calls = r.calls ++ calls ∧
      (m ≤ (allocated r.calls).length → ∀ c ∈ calls, c.writesOn? ≠ none) := by
  induction moves generalizing r with
  | nil => exact ⟨hhandles, [], (List.append_nil _).symm, fun _ => nofun⟩
  | cons move rest ih =>
    rw [peak, Nat.max_le] at hpeak
    have hsteps := r.steps_act move
    obtain ⟨hact, first, hfirst, hwritten⟩ := hhandles.steps h hm hsteps hpeak.1
    obtain ⟨hrun, more, hmore, hlater⟩ := ih hact (h.steps hsteps) hpeak.2
    refine ⟨hrun, first ++ more, ?_, ?_⟩
    · rw [← List.append_assoc, ← hfirst]
      exact hmore
    · intro hfull c hc
      have hstill : m ≤ (allocated (r.act move).calls).length := by
        rw [hfirst, allocated_append, List.length_append]
        omega
      rcases List.mem_append.1 hc with hc | hc
      · exact hwritten hfull c hc
      · exact hlater hstill c hc

/-- Handles are used again. Where there are never more than `m` dispatches in flight at once, and
the pool has room for as many, no handle is given back however dispatches end, and at most `m` are
allocated. With a pool that was filled when it was built there are the handles that were allocated
then, and from then on the transport is asked for nothing but to write. -/
theorem handles_reused {settings : Settings} {context : BuildContext} {l l' : Link (Tapped τ)}
    {d : Dispatcher} {interval : Option Duration}
    (hbuild : Dispatcher.build settings context l = (l', .ok (d, interval)))
    (hnew : l.transport.calls = []) (hm : m ≤ settings.pool.capacity)
    (moves : List (Move (Tapped τ) ε α Silent))
    (hpeak : (opening d l' : Dispatches (Tapped τ) ε α).peak moves ≤ m) :
    let r := (opening d l').run moves
    finalized r.calls = [] ∧
      (settings.pool.prefill = false → (allocated r.calls).length ≤ m) ∧
      (settings.pool.prefill = true →
        (allocated r.calls).length = settings.pool.capacity ∧
          ∃ more, r.calls = l'.transport.calls ++ more ∧ ∀ c ∈ more, c.writesOn? ≠ none) := by
  intro r
  have hkeeps : (opening d l' : Dispatches (Tapped τ) ε α).KeepsHandles settings.pool.capacity :=
    keepsHandles_opening hbuild hnew
  obtain ⟨handles, -, hcalls, hlength⟩ := Dispatcher.calls_of_build hbuild
  rw [hnew, List.nil_append] at hcalls
  have hkept : finalized (opening d l' : Dispatches (Tapped τ) ε α).calls = [] := by
    show finalized l'.transport.calls = []
    rw [hcalls, finalized_allocations]
  have hallocated : allocated (opening d l' : Dispatches (Tapped τ) ε α).calls = handles := by
    show allocated l'.transport.calls = handles
    rw [hcalls, allocated_allocations]
  cases hprefill : settings.pool.prefill with
  | false =>
    rw [hprefill] at hlength
    have hfew : (allocated (opening d l' : Dispatches (Tapped τ) ε α).calls).length ≤ m := by
      rw [hallocated, hlength]
      exact Nat.zero_le m
    obtain ⟨hrun, -⟩ := FewHandles.run ⟨hkept, hfew⟩ hkeeps hm hpeak
    exact ⟨hrun.kept, fun _ => hrun.few, nofun⟩
  | true =>
    rw [hprefill, if_pos rfl] at hlength
    have hfull : (allocated (opening d l' : Dispatches (Tapped τ) ε α).calls).length =
        settings.pool.capacity := by
      rw [hallocated, hlength]
    obtain ⟨hrun, more, hmore, hwritten⟩ :=
      FewHandles.run ⟨hkept, Nat.le_of_eq hfull⟩ hkeeps (Nat.le_refl _) (Nat.le_trans hpeak hm)
    have hnone := hwritten (Nat.le_of_eq hfull.symm)
    refine ⟨hrun.kept, nofun, fun _ => ⟨?_, more, hmore, hnone⟩⟩
    show (allocated ((opening d l').run moves).calls).length = _
    rw [hmore, allocated_append, allocated_of_writesOn? hnone, List.append_nil, hfull]

/-- A pool for two handles, which is filled at once or not. -/
def paired (prefill : Bool) : Settings := { pool := { capacity := 2, prefill } }

/-- A transport that refuses the first header section. -/
def fickle : Link (Tapped Faulty) where
  transport := ⟨{ plan := { headerCall := fun | .sendHeaders => [1] | _ => [] } }, []⟩

/-- The dispatcher that is built there. -/
def pairedDispatcher (prefill : Bool) : Dispatcher :=
  ⟨.shared, ⟨2, if prefill then [⟨1⟩, ⟨2⟩] else []⟩, some (.ofSettings {}), paired prefill⟩

/-- The link once it is built. -/
def fickleBuilt (prefill : Bool) : Link (Tapped Faulty) :=
  (Dispatcher.build (paired prefill) {} fickle).1

/-- Five requests, of which never more than two are in flight: the second panics while the first
sleeps, the third cannot send its header section, the fourth is dropped, and the last is answered,
as the first is then. -/
def twoAtOnce : List (Move (Tapped Faulty) Unit Unit Silent) :=
  [.start .start ⟨.get, "/a"⟩ (.sleep (.ofMillis 5) .finish) (),
    .start .start ⟨.get, "/b"⟩ (.ask () fun _ => .crash "no") (), .answer 1 .start 0,
    .start .start ⟨.get, "/c"⟩ .finish (),
    .start .start ⟨.get, "/d"⟩ (.sleep (.ofMillis 5) .finish) (), .drop 3,
    .start .start ⟨.get, "/e"⟩ .finish (), .resume 0 (Instant.start.timer (.ofMillis 5))]

theorem handles_reused_twoAtOnce :
    let r (prefill : Bool) :=
      (opening (pairedDispatcher prefill) (fickleBuilt prefill)).run twoAtOnce
    (∀ prefill, Dispatcher.build (paired prefill) {} fickle =
      (fickleBuilt prefill, .ok (pairedDispatcher prefill, none))) ∧
    (∀ prefill, (opening (pairedDispatcher prefill) (fickleBuilt prefill)).peak twoAtOnce = 2) ∧
    (∀ prefill, (r prefill).started = 5 ∧ (r prefill).flights = .empty) ∧
    (∀ prefill, finalized (r prefill).calls = []) ∧
    (allocated (r false).calls).length ≤ 2 ∧ (allocated (r true).calls).length = 2 := by
  dsimp only
  have hbuild (prefill : Bool) : Dispatcher.build (paired prefill) {} fickle =
      (fickleBuilt prefill, .ok (pairedDispatcher prefill, none)) := by
    cases prefill <;> rfl
  have hpeak (prefill : Bool) :
      (opening (pairedDispatcher prefill) (fickleBuilt prefill)).peak twoAtOnce = 2 := by
    cases prefill <;> decide +kernel
  have hover (prefill : Bool) :
      let r := (opening (pairedDispatcher prefill) (fickleBuilt prefill)).run twoAtOnce
      r.started = 5 ∧ r.flights = .empty := by
    refine ⟨by cases prefill <;> decide +kernel, Table.ext (List.isEmpty_iff.1 ?_)⟩
    cases prefill <;> decide +kernel
  have hreused (prefill : Bool) := handles_reused (hbuild prefill) rfl (Nat.le_refl 2) twoAtOnce
    (Nat.le_of_eq (hpeak prefill))
  exact ⟨hbuild, hpeak, hover, fun prefill => (hreused prefill).1, (hreused false).2.1 rfl,
    ((hreused true).2.2 rfl).1⟩

end Dispatches

end Sluice
