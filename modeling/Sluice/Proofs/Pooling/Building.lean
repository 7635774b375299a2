import Sluice.Dispatch.Build
import Sluice.Proofs.Pooling.Ledger
import Sluice.Transport.Faulty

/-!
# What a build leaves behind

A build asks the transport for handles only if the settings are valid and want the pool filled. What
it comes to then depends on the answers that the transport has ready: if one of them is a failure,
the build fails with the first of these, and the handles that came before are given back; otherwise
they are what the pool holds.
-/
namespace Sluice

/-! ## What the transport has ready -/

namespace Transport

variable {τ : Type} [Transport τ]

/-- The answers to so many allocations, made one after the other. -/
def answers (t : τ) : Nat → List (Except TransportError HandleId)
  | 0 => []
  | n + 1 => (allocate t).2 :: answers (allocate t).1 n

/-- Either each allocation gives a handle, or there is a first one that fails. -/
theorem answers_cases (t : τ) (n : Nat) :
    (∃ handles : List HandleId, answers t n = handles.map .ok) ∨
      ∃ (handles : List HandleId) (e : TransportError), handles.length < n ∧
        answers t (handles.length + 1) = handles.map .ok ++ [.error e] := by
  induction n generalizing t with
  | zero => exact .inl ⟨[], rfl⟩
  | succ n ih =>
    cases hanswer : (allocate t).2 with
    | error e => exact .inr ⟨[], e, Nat.succ_pos n, by simp [answers, hanswer]⟩
    | ok handle =>
      rcases ih (allocate t).1 with ⟨handles, hall⟩ | ⟨handles, e, hlt, hfirst⟩
      · exact .inl ⟨handle :: handles, by simp [answers, hanswer, hall]⟩
      · refine .inr ⟨handle :: handles, e, Nat.succ_lt_succ hlt, ?_⟩
        rw [List.length_cons, answers, hanswer, hfirst]
        rfl

theorem length_answers (t : τ) (n : Nat) : (answers t n).length = n := by
  induction n generalizing t with
  | zero => rfl
  | succ n ih => simp [answers, ih]

theorem length_of_answers {t : τ} {n : Nat} {handles : List HandleId}
    (h : answers t n = handles.map .ok) : handles.length = n := by
  have hlength := congrArg List.length h
  rwa [length_answers, List.length_map, eq_comm] at hlength

end Transport

open TransportCall

variable {τ : Type} [Transport τ]

/-! ## Filling a pool -/

namespace Pool

theorem calls_allocate (l : Link (Tapped τ)) :
    l.allocate.1.transport.calls = l.transport.calls ++ [.allocate l.allocate.2] := rfl

/-- Where no allocation fails, all that are missing are made. -/
theorem allocateMany_of_ok {l : Link (Tapped τ)} {handles : List HandleId}
    (h : Transport.answers l.transport.inner handles.length = handles.map .ok)
    (done : List HandleId) :
    ∃ l', allocateMany l done handles.length = (l', done.reverse ++ handles, none) ∧
      l'.transport.calls = l.transport.calls ++ allocations handles := by
  induction handles generalizing l done with
  | nil => exact ⟨l, by simp [allocateMany], by simp [allocations]⟩
  | cons handle rest ih =>
    obtain ⟨hfirst, hrest⟩ := List.cons.inj h
    have hallocate : l.allocate = (l.allocate.1, .ok handle) := Prod.ext rfl hfirst
    have hcalls := calls_allocate l
    obtain ⟨l', hmany, hcalls'⟩ := ih (l := l.allocate.1) hrest (handle :: done)
    refine ⟨l', ?_, ?_⟩
    · rw [List.length_cons, allocateMany, hallocate]
      simp [hmany]
    · rw [hallocate] at hcalls
      rw [hcalls', hcalls, List.append_assoc]
      rfl

/-- The first failure is the last call, and those before it have given what they gave. -/
theorem allocateMany_of_error {l : Link (Tapped τ)} {handles : List HandleId} {e : TransportError}
    {missing : Nat} (hlt : handles.length < missing)
    (h : Transport.answers l.transport.inner (handles.length + 1) =
      handles.map .ok ++ [.error e]) (done : List HandleId) :
    ∃ l', allocateMany l done missing = (l', done.reverse ++ handles, some e) ∧
      l'.transport.calls =
        l.transport.calls ++ (allocations handles ++ [.allocate (.error e)]) := by
  obtain ⟨missing, rfl⟩ : ∃ n, missing = n + 1 := ⟨missing - 1, by omega⟩
  have hcalls := calls_allocate l
  induction handles generalizing l done missing with
  | nil =>
    have hallocate : l.allocate = (l.allocate.1, .error e) := Prod.ext rfl (List.cons.inj h).1
    rw [hallocate] at hcalls
    refine ⟨l.allocate.1, ?_, hcalls⟩
    rw [allocateMany, hallocate]
    simp
  | cons handle rest ih =>
    obtain ⟨hfirst, hrest⟩ := List.cons.inj h
    have hallocate : l.allocate = (l.allocate.1, .ok handle) := Prod.ext rfl hfirst
    obtain ⟨missing, rfl⟩ : ∃ n, missing = n + 1 :=
      ⟨missing - 1, by rw [List.length_cons] at hlt; omega⟩
    obtain ⟨l', hmany, hcalls'⟩ := ih (l := l.allocate.1) hrest (handle :: done) missing
      (Nat.lt_of_succ_lt_succ hlt) (calls_allocate _)
    refine ⟨l', ?_, ?_⟩
    · rw [allocateMany, hallocate]
      simp [hmany]
    · rw [hallocate] at hcalls
      rw [hcalls', hcalls, List.append_assoc]
      rfl

end Pool

/-! ## Building -/

namespace Dispatcher

/-- Valid settings give the pool some room. -/
theorem new?_of_valid {s : Settings} (h : s.validate = .ok ()) :
    Pool.new? s.pool.capacity = .ok ⟨s.pool.capacity, []⟩ := by
  have hcapacity : s.pool.capacity ≠ 0 := by
    intro hzero
    have hpool : s.pool.validate = .error .poolCapacity := by
      simp [PoolSettings.validate, hzero]
    cases hwriter : s.writer.validate <;>
      simp [Settings.validate, hwriter, hpool, bind, Except.bind] at h
  simp [Pool.new?, hcapacity]

section

variable {s : Settings} {l : Link (Tapped τ)} {handles : List HandleId}

theorem buildPool_of_ok (hvalid : s.validate = .ok ()) (hprefill : s.pool.prefill = true)
    (h : Transport.answers l.transport.inner s.pool.capacity = handles.map .ok) :
    ∃ l', buildPool s.pool l = (l', .ok ⟨s.pool.capacity, handles⟩) ∧
      l'.transport.calls = l.transport.calls ++ allocations handles := by
  have hlength := Transport.length_of_answers h
  rw [← hlength] at h
  obtain ⟨l', hmany, hcalls⟩ := Pool.allocateMany_of_ok h []
  rw [hlength] at hmany
  refine ⟨l'.report (.poolPrefilled handles.length s.pool.capacity), ?_, hcalls⟩
  simp [buildPool, new?_of_valid hvalid, hprefill, Pool.prefill, hmany]

/-- The pool that could not be filled is dropped with what it holds. -/
theorem buildPool_of_error {e : TransportError} (hvalid : s.validate = .ok ())
    (hprefill : s.pool.prefill = true) (hlt : handles.length < s.pool.capacity)
    (h : Transport.answers l.transport.inner (handles.length + 1) =
      handles.map .ok ++ [.error e]) :
    ∃ l', buildPool s.pool l = (l', .error (.prefill e)) ∧
      l'.transport.calls = l.transport.calls ++
        (allocations handles ++ [.allocate (.error e)] ++ returns handles) := by
  obtain ⟨l', hmany, hcalls⟩ := Pool.allocateMany_of_error hlt h []
  refine ⟨Pool.drop ⟨s.pool.capacity, handles⟩ l', ?_, ?_⟩
  · simp [buildPool, new?_of_valid hvalid, hprefill, Pool.prefill, hmany]
  · rw [Pool.calls_drop, hcalls, List.append_assoc]

/-- Once there is a pool nothing can fail. -/
theorem build_of_pool {l₁ : Link (Tapped τ)} {pool : Pool} (c : BuildContext)
    (hvalid : s.validate = .ok ()) (hpool : buildPool s.pool l = (l₁, .ok pool)) :
    ∃ d interval, (build s c l).2 = .ok (d, interval) ∧ d.pool = pool ∧
      (build s c l).1.transport = l₁.transport := by
  obtain ⟨d, interval, hbuild⟩ : ∃ d interval, (build s c l).2 = .ok (d, interval) := by
    simp only [build, hvalid, hpool]
    exact ⟨_, _, rfl⟩
  obtain ⟨l₂, hbuilt, htransport⟩ := (builds_build (Prod.ext rfl hbuild)).pool
  rw [hpool] at hbuilt
  cases hbuilt
  exact ⟨d, interval, hbuild, rfl, htransport⟩

/-- A build that succeeds has made the handles that its pool holds, and nothing else. -/
theorem calls_of_build {c : BuildContext} {l' : Link (Tapped τ)} {d : Dispatcher}
    {interval : Option Duration} (h : build s c l = (l', .ok (d, interval))) :
    ∃ handles, d.pool = ⟨s.pool.capacity, handles⟩ ∧
      l'.transport.calls = l.transport.calls ++ allocations handles ∧
      handles.length = if s.pool.prefill then s.pool.capacity else 0 := by
  obtain ⟨hvalid, ⟨l₁, hpool, htransport⟩, -, -⟩ := builds_build h
  rw [htransport]
  cases hprefill : s.pool.prefill with
  | false =>
    -- without a wish for handles none is asked for
    obtain ⟨rfl, hd⟩ : l = l₁ ∧ ⟨s.pool.capacity, []⟩ = d.pool := by
      simpa [buildPool, new?_of_valid hvalid, hprefill] using hpool
    exact ⟨[], hd.symm, (List.append_nil _).symm, rfl⟩
  | true =>
    rcases Transport.answers_cases l.transport.inner s.pool.capacity with
      ⟨handles, hall⟩ | ⟨handles, e, hlt, hfirst⟩
    · obtain ⟨l₂, hfilled, hcalls⟩ := buildPool_of_ok hvalid hprefill hall
      obtain ⟨rfl, hd⟩ : l₁ = l₂ ∧ d.pool = ⟨s.pool.capacity, handles⟩ := by
        simpa [hpool] using hfilled
      exact ⟨handles, hd, hcalls, Transport.length_of_answers hall⟩
    · obtain ⟨l₂, hfailed, -⟩ := buildPool_of_error hvalid hprefill hlt hfirst
      rw [hpool] at hfailed
      cases hfailed

/-- The books are balanced from the beginning. -/
theorem balanced_build {c : BuildContext} {l' : Link (Tapped τ)} {d : Dispatcher}
    {interval : Option Duration} (h : build s c l = (l', .ok (d, interval)))
    (hnew : l.transport.calls = []) :
    d.pool.Balanced [] l'.transport.calls ∧ d.pool.capacity = s.pool.capacity := by
  obtain ⟨handles, hpool, hcalls, hlength⟩ := calls_of_build h
  have hle : handles.length ≤ s.pool.capacity := by
    rw [hlength]
    split
    · exact Nat.le_refl _
    · exact Nat.zero_le _
  rw [hnew, List.nil_append] at hcalls
  rw [hpool, hcalls]
  refine ⟨⟨hle, ?_, ?_⟩, rfl⟩
  · simp [allocated_allocations, finalized_allocations]
  · simp [finalized_allocations]

end

/-- A build that fails leaves nothing allocated. Settings that are not valid are refused before
anything is asked of the transport. Where the pool is to be filled and an allocation fails, the
build fails with the first that does: the handles that were allocated before it are all the handles
that there are, and each is given back once, as one that is done with. Where none fails the pool
holds as many handles as it has room for, in the order in which they were allocated, and none is
given back. -/
theorem build_of_answers (s : Settings) (c : BuildContext) (l : Link (Tapped τ)) :
    let built := build s c l
    (∀ e, s.validate = .error e → built = (l, .error (.settings e))) ∧
      (s.validate = .ok () → s.pool.prefill = true →
        (∀ (handles : List HandleId) (e : TransportError), handles.length < s.pool.capacity →
          Transport.answers l.transport.inner (handles.length + 1) =
            handles.map .ok ++ [.error e] →
          built.2 = .error (.prefill e) ∧
            built.1.transport.calls = l.transport.calls ++
              (allocations handles ++ [.allocate (.error e)] ++ returns handles)) ∧
        ∀ handles : List HandleId,
          Transport.answers l.transport.inner s.pool.capacity = handles.map .ok →
          ∃ d interval, built.2 = .ok (d, interval) ∧ d.pool = ⟨s.pool.capacity, handles⟩ ∧
            built.1.transport.calls = l.transport.calls ++ allocations handles) := by
  refine ⟨fun e hinvalid => ?_, fun hvalid hprefill => ⟨?_, ?_⟩⟩
  · simp [build, hinvalid]
  · intro handles e hlt hanswers
    obtain ⟨l', hpool, hcalls⟩ := buildPool_of_error hvalid hprefill hlt hanswers
    have hbuild : build s c l = (l', .error (.prefill e)) := by simp [build, hvalid, hpool]
    exact ⟨congrArg Prod.snd hbuild, by rw [hbuild]; exact hcalls⟩
  · intro handles hanswers
    obtain ⟨l', hpool, hcalls⟩ := buildPool_of_ok hvalid hprefill hanswers
    obtain ⟨d, interval, hbuild, hd, htransport⟩ := build_of_pool c hvalid hpool
    exact ⟨d, interval, hbuild, hd, by rw [htransport]; exact hcalls⟩

/-- A pool for three handles that is filled at once. -/
def threefold : Settings := { pool := { capacity := 3, prefill := true } }

/-- A transport that refuses the third allocation. -/
def scant : Link (Tapped Faulty) := { transport := ⟨{ plan := { allocate := [3] } }, []⟩ }

/-- The third allocation fails, and the two handles that were there are given back. -/
theorem build_of_answers_scant :
    let e : TransportError := .allocate Faulty.reason
    threefold.validate = .ok () ∧
      Transport.answers scant.transport.inner 3 = [.ok ⟨1⟩, .ok ⟨2⟩, .error e] ∧
      (build threefold {} scant).2 = .error (.prefill e) ∧
      (build threefold {} scant).1.transport.calls =
        [.allocate (.ok ⟨1⟩), .allocate (.ok ⟨2⟩), .allocate (.error e), .finalize ⟨1⟩ .ok,
          .finalize ⟨2⟩ .ok] := by
  intro e
  have hvalid : threefold.validate = .ok () := rfl
  have hanswers : Transport.answers scant.transport.inner 3 =
      [.ok ⟨1⟩, .ok ⟨2⟩, .error e] := rfl
  have hbuilt := ((build_of_answers threefold {} scant).2 hvalid rfl).1 [⟨1⟩, ⟨2⟩] e (by decide)
    hanswers
  exact ⟨hvalid, hanswers, hbuilt.1, hbuilt.2⟩

end Dispatcher

end Sluice
