import Mathlib.Data.List.Nodup
import Sluice.Proofs.Serving.Dispatches
import Sluice.Proofs.Pooling.Building
import Sluice.Proofs.Sending.Exits

/-!
# No handle is lost

A dispatcher at work on a transport that may refuse any call. Requests come, dispatches go on and
end in every way they can, or are dropped while they wait, in any order. The books of the handles
are balanced at every moment, with those in flight as the ones who hold a handle.
-/
namespace Sluice

namespace Dispatches

variable {τ ε α : Type}

/-- What others may do to a service whose calls are counted: anything with the cache, and anything
with the link that makes no call. -/
inductive Silent : (Service (Tapped τ) → Service (Tapped τ)) → Prop where
  | recache (change : Option Cache → Option Cache) :
    Silent fun s => { s with dispatcher.cache := change s.dispatcher.cache }
  | relink (change : Link (Tapped τ) → Link (Tapped τ)) :
    (∀ l, (change l).transport.calls = l.transport.calls) →
    Silent fun s => { s with link := change s.link }

/-- Where a handle can be. -/
inductive Place where
  | pooled
  /-- A dispatch in flight has it. -/
  | held (id : Nat)
  | finalized

def pool (r : Dispatches τ ε α) : Pool := r.service.dispatcher.pool

/-- The calls so far. -/
def calls (r : Dispatches (Tapped τ) ε α) : List TransportCall := r.service.link.transport.calls

/-- The handle is there. -/
def Has (r : Dispatches (Tapped τ) ε α) (handle : HandleId) : Place → Prop
  | .pooled => handle ∈ r.pool.handles
  | .held id => ∃ f, r.flights.find? id = some f ∧ f.dispatch.writer.handle = handle
  | .finalized => handle ∈ (TransportCall.finalized r.calls).map Prod.fst

end Dispatches

/-! ## What a turn does to the books -/

/-- The handle that is held after a turn. -/
def Outcome.holds {ε : Type} : Outcome ε → List HandleId
  | .inFlight d => [d.writer.handle]
  | _ => []

section

variable {ε α : Type} {flights : Table Nat (Flight ε α)} {handle : HandleId}

/-- The handles that are held by dispatches in flight. -/
def heldBy (flights : Table Nat (Flight ε α)) : List HandleId :=
  flights.entries.map fun f => f.2.dispatch.writer.handle

theorem heldBy_perm {id : Nat} {f : Flight ε α} (h : flights.find? id = some f) :
    (heldBy flights).Perm (f.dispatch.writer.handle :: heldBy (flights.erase id)) :=
  (Table.perm_cons_erase h).map _

theorem heldBy_insert (flights : Table Nat (Flight ε α)) (id : Nat) (f : Flight ε α) :
    (heldBy (flights.insert id f)).Perm (f.dispatch.writer.handle :: heldBy (flights.erase id)) :=
  (flights.perm_insert id f).map _

theorem mem_heldBy :
    handle ∈ heldBy flights ↔
      ∃ id f, flights.find? id = some f ∧ f.dispatch.writer.handle = handle := by
  constructor
  · intro h
    obtain ⟨⟨id, f⟩, hmem, hhandle⟩ := List.mem_map.1 h
    exact ⟨id, f, Table.find?_eq_some_iff.2 hmem, hhandle⟩
  · rintro ⟨id, f, hf, hhandle⟩
    exact List.mem_map.2 ⟨(id, f), Table.find?_eq_some_iff.1 hf, hhandle⟩

/-- A handle that is held once is held by one dispatch. -/
theorem eq_of_count_heldBy_le (hcount : (heldBy flights).count handle ≤ 1) {id other : Nat}
    {f f' : Flight ε α} (hf : flights.find? id = some f) (hf' : flights.find? other = some f')
    (hhandle : f.dispatch.writer.handle = handle) (hhandle' : f'.dispatch.writer.handle = handle) :
    other = id := by
  by_cases heq : id = other
  · exact heq.symm
  · have hrest : (flights.erase id).find? other = some f' := by
      rw [Table.find?_erase, if_neg heq]
      exact hf'
    have hpos : 0 < (heldBy (flights.erase id)).count handle :=
      List.count_pos_iff.2 (mem_heldBy.2 ⟨other, f', hrest, hhandle'⟩)
    rw [(heldBy_perm hf).count_eq, hhandle, List.count_cons_self] at hcount
    omega

end

/-- A dispatch that waits can go on. -/
def Dispatch.Waits {ε : Type} (d : Dispatch ε) : Prop := ∃ may, d.stage.Stands may d.writer.sent

/-- How a turn ends, when these are held by others. -/
structure Settles {τ ε : Type} (p : Pool) (held : List HandleId) (s : Service (Tapped τ))
    (o : Outcome ε) : Prop where
  capacity_eq : s.dispatcher.pool.capacity = p.capacity
  balanced : s.dispatcher.pool.Balanced (o.holds ++ held) s.link.transport.calls
  waits : ∀ d, o = .inFlight d → d.Waits

section

variable {τ ε : Type} {may : Http.Status → Prop} {t : Turn (Tapped τ)} {s : Service (Tapped τ)}
  {o : Outcome ε} {held : List HandleId}

/-- A turn that only spoke leaves the books as they were. -/
theorem Turn.Speaks.balanced {t t' : Turn (Tapped τ)} {tries : List HeaderTry}
    {calls : List TransportCall} (h : t.Speaks t' tries calls)
    (hbalanced : t.dispatcher.pool.Balanced held t.session.link.transport.calls) :
    t'.dispatcher.pool.Balanced held t'.session.link.transport.calls := by
  rw [h.pool_eq, h.session.calls_eq]
  apply hbalanced.write
  intro c hc
  simp [h.session.dialogue.writesOn? c hc]

variable [Transport τ]

/-- A turn that is over has released its handle. -/
theorem Turn.balanced_leave
    (h : t.dispatcher.pool.Balanced (t.session.writer.handle :: held)
      t.session.link.transport.calls) :
    t.leave.dispatcher.pool.Balanced held t.leave.link.transport.calls ∧
      t.leave.dispatcher.pool.capacity = t.dispatcher.pool.capacity := by
  obtain ⟨calls, hcalls, hstows⟩ := t.stows_leave
  rw [hcalls]
  exact ⟨h.stow hstows, hstows.capacity_eq⟩

theorem Turn.Exits.settles (h : t.Exits may s o)
    (hbalanced : t.dispatcher.pool.Balanced (t.session.writer.handle :: held)
      t.session.link.transport.calls) : Settles t.dispatcher.pool held s o := by
  cases h with
  | @waits t' stage _ _ hspeaks _ hstands =>
    refine ⟨by rw [hspeaks.pool_eq], ?_, ?_⟩
    · have hspoke := hspeaks.balanced hbalanced
      rw [← hspeaks.session.handle_eq] at hspoke
      exact hspoke
    · rintro d ⟨⟩
      exact ⟨may, hstands⟩
  | @returned t' result _ _ hspeaks _ hreturns =>
    have hspoke := hspeaks.balanced hbalanced
    rw [← hspeaks.session.handle_eq] at hspoke
    obtain ⟨hleave, hcapacity⟩ := Turn.balanced_leave hspoke
    exact ⟨by rw [hcapacity, hspeaks.pool_eq], hleave, fun d hd => by cases hd⟩
  | @crashed t' _ _ _ hspeaks =>
    have hspoke := hspeaks.balanced hbalanced
    rw [← hspeaks.session.handle_eq] at hspoke
    obtain ⟨hleave, hcapacity⟩ := Turn.balanced_leave hspoke
    exact ⟨by rw [hcapacity, hspeaks.pool_eq], hleave, fun d hd => by cases hd⟩

/-- Who has a handle does not return that there is none. -/
theorem Turn.Exits.ne_handle (h : t.Exits may s o) (e : TransportError) :
    o ≠ .returned (.error (.handle e)) := by
  rintro rfl
  cases h with
  | returned _ _ hreturns => cases hreturns

theorem Service.Takes.settles {s' : Service (Tapped τ)} {now : Instant} {request : Request}
    {program : Program ε} (h : s.Takes now request program s' o)
    (hbalanced : s.dispatcher.pool.Balanced held s.link.transport.calls) :
    Settles s.dispatcher.pool held s' o := by
  obtain ⟨calls, hcalls, hdraws⟩ := s.dispatcher.pool.draws_checkout s.link
  cases h with
  | @refused pool link e hcheckout =>
    rw [hcheckout] at hcalls hdraws
    refine ⟨hdraws.capacity_eq, ?_, fun d hd => by cases hd⟩
    show pool.Balanced held link.transport.calls
    rw [show link.transport.calls = s.link.transport.calls ++ calls from hcalls]
    exact hbalanced.refuse hdraws
  | @taken t link _ _ hcheckout htransport _ hexits =>
    rw [hcheckout] at hcalls hdraws
    have hdrawn := hbalanced.draw hdraws
    rw [← show link.transport.calls = s.link.transport.calls ++ calls from hcalls, ← htransport]
      at hdrawn
    have hsettles := hexits.settles hdrawn
    exact ⟨hsettles.capacity_eq.trans hdraws.capacity_eq, hsettles.balanced, hsettles.waits⟩

/-- A request is turned away only where the pool is empty and no handle is allocated, and that
changes nothing. -/
theorem Service.Takes.of_handle {s' : Service (Tapped τ)} {now : Instant} {request : Request}
    {program : Program ε} {e : TransportError}
    (h : s.Takes now request program s' (.returned (.error (.handle e)) : Outcome ε)) :
    s.dispatcher.pool.handles = [] ∧
      s'.link.transport.calls = s.link.transport.calls ++ [.allocate (.error e)] ∧
      s'.dispatcher = s.dispatcher := by
  obtain ⟨calls, hcalls, hdraws⟩ := s.dispatcher.pool.draws_checkout s.link
  cases h with
  | refused hcheckout =>
    rw [hcheckout] at hcalls hdraws
    cases hdraws with
    | allocated hempty => exact ⟨hempty, hcalls, rfl⟩
  | taken _ _ _ hexits => exact absurd rfl (hexits.ne_handle e)

end

namespace Dispatches

variable {τ ε α : Type} {r r' : Dispatches (Tapped τ) ε α} {capacity : Nat}

/-- What holds of the handles at every moment. -/
structure KeepsHandles (capacity : Nat) (r : Dispatches (Tapped τ) ε α) : Prop where
  capacity_eq : r.pool.capacity = capacity
  balanced : r.pool.Balanced (heldBy r.flights) r.calls
  /-- Those in flight can go on. -/
  waits : ∀ id f, r.flights.find? id = some f → f.dispatch.Waits
  numbered : r.Numbered

theorem heldBy_settle (r : Dispatches (Tapped τ) ε α) (id : Nat) (tag : α)
    (s : Service (Tapped τ)) (o : Outcome ε) :
    (heldBy (r.settle id tag (s, o)).flights).Perm (o.holds ++ heldBy (r.flights.erase id)) := by
  cases o with
  | inFlight d => exact heldBy_insert r.flights id ⟨tag, d⟩
  | returned result => exact .refl _
  | crashed message => exact .refl _

namespace KeepsHandles

/-- A dispatch that was started had its turn. -/
theorem settle (h : r.KeepsHandles capacity) {id : Nat} {tag : α} {s : Service (Tapped τ)}
    {o : Outcome ε} (hid : id < r.started) {p : Pool} (hp : p.capacity = capacity)
    (hsettles : Settles p (heldBy (r.flights.erase id)) s o) :
    (r.settle id tag (s, o)).KeepsHandles capacity where
  capacity_eq := by
    rw [pool, service_settle, hsettles.capacity_eq, hp]
  balanced := by
    rw [pool, calls, service_settle]
    exact hsettles.balanced.held_perm (r.heldBy_settle id tag s o).symm
  waits other f hf := by
    rcases of_find?_settle hf with ⟨-, -, ho⟩ | ⟨-, hold⟩
    · exact hsettles.waits f.dispatch ho
    · exact h.waits other f hold
  numbered := h.numbered.settle hid tag s o

/-- The books with one dispatch taken out. -/
theorem balanced_turn (h : r.KeepsHandles capacity) {id : Nat} {f : Flight ε α}
    (hf : r.flights.find? id = some f) :
    r.pool.Balanced (f.dispatch.writer.handle :: heldBy (r.flights.erase id)) r.calls :=
  h.balanced.held_perm (heldBy_perm hf)

/-- The next request has a number of its own. -/
theorem erase_started (h : r.KeepsHandles capacity) : r.flights.erase r.started = r.flights :=
  Table.erase_of_find?_eq_none h.numbered.find?_started

/-- One more request comes. -/
theorem next (h : r.KeepsHandles capacity) : r.next.KeepsHandles capacity :=
  ⟨h.capacity_eq, h.balanced, h.waits, h.numbered.next⟩

/-- Where ids are distinct, a handle that was allocated is in one place. -/
theorem place_unique (h : r.KeepsHandles capacity)
    (hdistinct : (TransportCall.allocated r.calls).Nodup) {handle : HandleId}
    (hmem : handle ∈ TransportCall.allocated r.calls) :
    ∃ place, r.Has handle place ∧ ∀ other, r.Has handle other → other = place := by
  have hcount := h.balanced.count_eq handle
  rw [List.count_eq_one_of_mem hdistinct hmem] at hcount
  have hpooled (hhas : r.Has handle .pooled) : 0 < r.pool.handles.count handle :=
    List.count_pos_iff.2 hhas
  have hheld (id : Nat) (hhas : r.Has handle (.held id)) :
      0 < (heldBy r.flights).count handle :=
    List.count_pos_iff.2 (mem_heldBy.2 ⟨id, hhas⟩)
  have hgone (hhas : r.Has handle .finalized) :
      0 < ((TransportCall.finalized r.calls).map Prod.fst).count handle :=
    List.count_pos_iff.2 hhas
  -- one of the three counts is one and the others are zero
  by_cases hp : 0 < r.pool.handles.count handle
  · refine ⟨.pooled, List.count_pos_iff.1 hp, fun other hother => ?_⟩
    cases other with
    | pooled => rfl
    | held id =>
      have := hheld id hother
      omega
    | finalized =>
      have := hgone hother
      omega
  · by_cases hb : 0 < (heldBy r.flights).count handle
    · obtain ⟨id, f, hf, hhandle⟩ := mem_heldBy.1 (List.count_pos_iff.1 hb)
      refine ⟨.held id, ⟨f, hf, hhandle⟩, fun other hother => ?_⟩
      cases other with
      | pooled => exact absurd (hpooled hother) hp
      | held id' =>
        obtain ⟨f', hf', hhandle'⟩ := hother
        rw [eq_of_count_heldBy_le (by omega) hf hf' hhandle hhandle']
      | finalized =>
        have := hgone hother
        omega
    · refine ⟨.finalized, List.count_pos_iff.1 (by omega), fun other hother => ?_⟩
      cases other with
      | pooled => exact absurd (hpooled hother) hp
      | held id => exact absurd (hheld id hother) hb
      | finalized => rfl

variable [Transport τ] {move : Move (Tapped τ) ε α Silent}

/-- A dispatch in flight had a turn. -/
theorem settle_exits (h : r.KeepsHandles capacity) {id : Nat} {f : Flight ε α}
    (hf : r.flights.find? id = some f) {may : Http.Status → Prop} {s : Service (Tapped τ)}
    {o : Outcome ε} (hexits : (f.dispatch.turn r.service).Exits may s o) :
    (r.settle id f.tag (s, o)).KeepsHandles capacity :=
  h.settle (h.numbered id f hf) h.capacity_eq (hexits.settles (h.balanced_turn hf))

theorem steps (h : r.KeepsHandles capacity) (hsteps : r.Steps move r') :
    r'.KeepsHandles capacity := by
  cases hsteps with
  | starts hstart =>
    have hsettles := (Service.takes_start hstart).settles h.balanced
    rw [← h.erase_started] at hsettles
    exact h.next.settle (Nat.lt_succ_self _) h.capacity_eq hsettles
  | resumes hf hresume =>
    obtain ⟨may, hstands⟩ := h.waits _ _ hf
    exact h.settle_exits hf (Service.exits_resume hstands hresume)
  | answers hf hanswer =>
    obtain ⟨may, hstands⟩ := h.waits _ _ hf
    exact h.settle_exits hf (Service.exits_answer hstands hanswer)
  | @drops id f hf =>
    obtain ⟨hleave, hcapacity⟩ :=
      Turn.balanced_leave (t := f.dispatch.turn r.service) (h.balanced_turn hf)
    exact ⟨hcapacity.trans h.capacity_eq, hleave,
      fun other g hg => h.waits other g (Table.of_find?_erase hg).2, h.numbered.cancel id f⟩
  | idles => exact h
  | @changes change =>
    obtain ⟨_, hsilent⟩ := change
    cases hsilent with
    | recache change => exact ⟨h.capacity_eq, h.balanced, h.waits, h.numbered⟩
    | relink change hcalls =>
      refine ⟨h.capacity_eq, ?_, h.waits, h.numbered⟩
      show r.pool.Balanced (heldBy r.flights) (change r.service.link).transport.calls
      rw [hcalls]
      exact h.balanced

theorem run (h : r.KeepsHandles capacity) (moves : List (Move (Tapped τ) ε α Silent)) :
    (r.run moves).KeepsHandles capacity :=
  run_of_act (fun r h move => h.steps (r.steps_act move)) h moves

/-- A request is turned away only where the pool is empty and no handle is allocated. Nothing else
changes then, and no other dispatch returns such an error. -/
theorem of_returned_handle (h : r.KeepsHandles capacity) {id : Nat} {tag : α}
    {s : Service (Tapped τ)} {e : TransportError}
    (hturn : r.turn? move = some (id, tag, s, .returned (.error (.handle e)))) :
    r.pool.handles = [] ∧ (r.act move).calls = r.calls ++ [.allocate (.error e)] ∧
      (r.act move).service.dispatcher = r.service.dispatcher ∧
      (r.act move).flights = r.flights := by
  -- who holds a handle does not return such an error
  have hnever {f : Flight ε α} {may : Http.Status → Prop} {out : Service (Tapped τ) × Outcome ε}
      (hexits : (f.dispatch.turn r.service).Exits may out.1 out.2)
      (hout : out = (s, .returned (.error (.handle e)))) : False := by
    rw [hout] at hexits
    exact hexits.ne_handle e rfl
  cases move with
  | start now request program tag =>
    simp only [turn?, Option.some.injEq, Prod.mk.injEq] at hturn
    obtain ⟨rfl, rfl, hstart⟩ := hturn
    obtain ⟨hempty, hcalls, hdispatcher⟩ := (Service.takes_start hstart).of_handle
    simp only [act, hstart]
    exact ⟨hempty, hcalls, hdispatcher, h.erase_started⟩
  | resume id' now =>
    simp only [turn?, Option.map_eq_some_iff, Prod.mk.injEq] at hturn
    obtain ⟨f, hf, -, -, hresume⟩ := hturn
    obtain ⟨may, hstands⟩ := h.waits id' f hf
    exact (hnever (Service.exits_resume hstands rfl) hresume).elim
  | answer id' now n =>
    simp only [turn?, Option.map_eq_some_iff, Prod.mk.injEq] at hturn
    obtain ⟨f, hf, -, -, hanswer⟩ := hturn
    obtain ⟨may, hstands⟩ := h.waits id' f hf
    exact (hnever (Service.exits_answer hstands rfl) hanswer).elim
  | drop id' => cases hturn
  | others change => cases hturn

end KeepsHandles

variable [Transport τ]

theorem keepsHandles_opening {settings : Settings} {context : BuildContext}
    {l l' : Link (Tapped τ)} {d : Dispatcher} {interval : Option Duration}
    (hbuild : Dispatcher.build settings context l = (l', .ok (d, interval)))
    (hnew : l.transport.calls = []) :
    (opening d l' : Dispatches (Tapped τ) ε α).KeepsHandles settings.pool.capacity := by
  obtain ⟨hbalanced, hcapacity⟩ := Dispatcher.balanced_build hbuild hnew
  refine ⟨hcapacity, hbalanced, ?_, ?_⟩ <;> intro id f hf <;> cases hf

/-- Handles are conserved. On a transport that allocates distinct ids and may refuse any allocation,
whatever comes and however dispatches end, each handle that was allocated waits in the pool, or is
held by one dispatch in flight, or was given back, and it is nowhere twice. The pool keeps to its
capacity. A dispatch fails for want of a handle only when the pool is empty and the allocation
fails, and nothing else changes then. Once all dispatches are over and the dispatcher is dropped,
every handle has been given back once, as one that is done with. -/
theorem handles_conserved {settings : Settings} {context : BuildContext} {l l' : Link (Tapped τ)}
    {d : Dispatcher} {interval : Option Duration}
    (hbuild : Dispatcher.build settings context l = (l', .ok (d, interval)))
    (hnew : l.transport.calls = []) (moves : List (Move (Tapped τ) ε α Silent))
    (hdistinct : (TransportCall.allocated ((opening d l').run moves).calls).Nodup) :
    let r := (opening d l').run moves
    (∀ handle ∈ TransportCall.allocated r.calls,
      ∃ place, r.Has handle place ∧ ∀ other, r.Has handle other → other = place) ∧
    (r.pool.handles ++ heldBy r.flights ++ (TransportCall.finalized r.calls).map Prod.fst).Perm
      (TransportCall.allocated r.calls) ∧
    r.pool.handles.length ≤ settings.pool.capacity ∧
    (∀ (move : Move (Tapped τ) ε α Silent) id tag s e,
      r.turn? move = some (id, tag, s, .returned (.error (.handle e))) →
      r.pool.handles = [] ∧ (r.act move).calls = r.calls ++ [.allocate (.error e)] ∧
        (r.act move).service.dispatcher = r.service.dispatcher ∧
        (r.act move).flights = r.flights) ∧
    (r.flights = .empty →
      (TransportCall.finalized
        (r.service.dispatcher.drop r.service.link).transport.calls).Perm
        ((TransportCall.allocated r.calls).map fun handle => (handle, .ok))) := by
  intro r
  have hkeeps : r.KeepsHandles settings.pool.capacity :=
    (keepsHandles_opening hbuild hnew).run moves
  refine ⟨fun handle hmem => hkeeps.place_unique hdistinct hmem, hkeeps.balanced.perm, ?_,
    fun move id tag s e hturn => hkeeps.of_returned_handle hturn, fun hempty => ?_⟩
  · rw [← hkeeps.capacity_eq]
    exact hkeeps.balanced.length_le
  · have hbalanced := hkeeps.balanced
    rw [hempty] at hbalanced
    exact Pool.Balanced.drop hbalanced

/-- A pool for one handle that is filled at once. -/
def scarce : Settings := { pool := { capacity := 1, prefill := true } }

/-- A transport that refuses the third allocation. -/
def strict : Link (Tapped Faulty) := { transport := ⟨{ plan := { allocate := [3] } }, []⟩ }

/-- The dispatcher that is built there. -/
def scarceDispatcher : Dispatcher := ⟨.shared, ⟨1, [⟨1⟩]⟩, some (.ofSettings {}), scarce⟩

/-- The link once it is built. -/
def strictBuilt : Link (Tapped Faulty) where
  transport := ⟨{ plan := { allocate := [3] }, inner.allocated := 1, calls := { allocate := 1 } },
    [.allocate (.ok ⟨1⟩)]⟩
  log := #[.poolPrefilled 1 1, .dispatcherBuilt 1 true 65536]

/-- Four requests: the first is answered, the second panics, the third finds no handle, and the
fourth is dropped. -/
def fourEndings : List (Move (Tapped Faulty) Unit Unit Silent) :=
  [.start .start ⟨.get, "/a"⟩ (.sleep (.ofMillis 5) .finish) (),
    .start .start ⟨.get, "/b"⟩ (.ask () fun _ => .crash "no") (),
    .start .start ⟨.get, "/c"⟩ .finish (),
    .start .start ⟨.get, "/d"⟩ (.sleep (.ofMillis 5) .finish) (), .drop 3, .answer 1 .start 0,
    .resume 0 (Instant.start.timer (.ofMillis 5))]

theorem handles_conserved_fourEndings :
    let r := (opening scarceDispatcher strictBuilt).run fourEndings
    Dispatcher.build scarce {} strict = (strictBuilt, .ok (scarceDispatcher, none)) ∧
      r.pool.handles = [⟨3⟩] ∧ r.flights = .empty ∧
      (∃ place, r.Has ⟨2⟩ place ∧ ∀ other, r.Has ⟨2⟩ other → other = place) ∧
      (TransportCall.finalized
        (r.service.dispatcher.drop r.service.link).transport.calls).Perm
        [(⟨1⟩, .ok), (⟨2⟩, .ok), (⟨3⟩, .ok)] := by
  dsimp only
  have hbuild : Dispatcher.build scarce {} strict = (strictBuilt, .ok (scarceDispatcher, none)) :=
    rfl
  have hallocated : TransportCall.allocated
      ((opening scarceDispatcher strictBuilt).run fourEndings).calls = [⟨1⟩, ⟨2⟩, ⟨3⟩] := by
    decide +kernel
  have hpool : ((opening scarceDispatcher strictBuilt).run fourEndings).pool.handles = [⟨3⟩] := by
    decide +kernel
  have hempty : ((opening scarceDispatcher strictBuilt).run fourEndings).flights = .empty := by
    apply Table.ext
    apply List.isEmpty_iff.1
    decide +kernel
  have hdistinct : (TransportCall.allocated
      ((opening scarceDispatcher strictBuilt).run fourEndings).calls).Nodup := by
    rw [hallocated]
    decide
  obtain ⟨hplace, -, -, -, hdropped⟩ := handles_conserved hbuild rfl fourEndings hdistinct
  refine ⟨hbuild, hpool, hempty, hplace ⟨2⟩ ?_, ?_⟩
  · rw [hallocated]
    decide
  · have hperm := hdropped hempty
    rw [hallocated] at hperm
    exact hperm

end Dispatches

end Sluice
