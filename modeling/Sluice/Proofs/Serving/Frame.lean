import Sluice.Cache.Basic
import Sluice.Proofs.Writing.Calls

/-!
# What a dispatch leaves alone

Whatever a writer does on one handle of an orderly transport, the responses on all other
handles stay as they are, no handle is forgotten, and nothing is reported as kept in the cache.
-/
namespace Sluice

/-- The key under which the event says that a response was kept. -/
def Event.keptKey? : Event → Option String
  | .responseCached key _ => some key
  | _ => none

/-! ## Nothing in a board or a cache reports a response as kept -/

namespace AckBoard

theorem keptKey?_attach (b : AckBoard) (handle : HandleId) (waiter : WaiterId) :
    ∀ e ∈ (b.attach handle waiter).2, e.keptKey? = none := by
  intro e he
  unfold attach at he
  split at he
  · obtain rfl := List.mem_singleton.1 he
    rfl
  · cases he

theorem keptKey?_deliver (b : AckBoard) (handle : HandleId) (waiter : WaiterId) (count : Nat) :
    ∀ e ∈ (b.deliver handle waiter count).2, e.keptKey? = none := by
  intro e he
  unfold deliver at he
  split at he
  · cases he
  · obtain rfl := List.mem_singleton.1 he
    rfl

theorem keptKey?_deliverAll (b : AckBoard) (count : Nat) (entries : List (HandleId × WaiterId)) :
    ∀ e ∈ (b.deliverAll count entries).2, e.keptKey? = none := by
  induction entries generalizing b with
  | nil => nofun
  | cons entry rest ih =>
    intro e he
    rcases List.mem_append.1 he with he | he
    · exact keptKey?_deliver b _ _ count e he
    · exact ih _ e he

theorem keptKey?_notifyHandle (b : AckBoard) (handle : HandleId) (count : Nat) :
    ∀ e ∈ (b.notifyHandle handle count).2.1, e.keptKey? = none := by
  intro e he
  unfold notifyHandle at he
  split at he
  · exact keptKey?_deliver _ _ _ count e he
  · obtain rfl := List.mem_singleton.1 he
    rfl

theorem keptKey?_notifyAll (b : AckBoard) (count : Nat) :
    ∀ e ∈ (b.notifyAll count).2.1, e.keptKey? = none := by
  intro e he
  unfold notifyAll at he
  split at he
  · obtain rfl := List.mem_singleton.1 he
    rfl
  · exact keptKey?_deliverAll _ count _ e he

end AckBoard

namespace Cache

theorem keptKey?_get (c : Cache) (now : Instant) (key : String) :
    ∀ e ∈ (c.get now key).2.1, e.keptKey? = none := by
  intro e he
  unfold get at he
  split at he
  · cases he
  · split at he
    · cases he
    · obtain rfl := List.mem_singleton.1 he
      rfl

theorem keptKey?_purge (c : Cache) (now : Instant) :
    ∀ e ∈ (c.purge now).2.1, e.keptKey? = none := by
  intro e he
  simp only [purge] at he
  split at he
  · cases he
  · obtain rfl := List.mem_singleton.1 he
    rfl

theorem keptKey?_makeRoom (c : Cache) (now : Instant) :
    ∀ e ∈ (c.makeRoom now).2, e.keptKey? = none := by
  have hpurge := c.keptKey?_purge now
  intro e he
  unfold makeRoom at he
  dsimp only at he
  split at he
  · exact hpurge e he
  · split at he
    · exact hpurge e he
    · rcases List.mem_append.1 he with he | he
      · exact hpurge e he
      · obtain rfl := List.mem_singleton.1 he
        rfl

theorem keptKey?_set (c : Cache) (now : Instant) (key : String) (entry : Entry) :
    ∀ e ∈ (c.set now key entry).2, e.keptKey? = none := by
  have hroom : ∀ e ∈ (if c.bound ≤ c.size ∧ c.entries.contains key = false
      then c.makeRoom now else (c, [])).2, e.keptKey? = none := by
    split
    · exact c.keptKey?_makeRoom now
    · intro e he
      cases he
  exact hroom

theorem keptKey?_store? {c c' : Cache} {now : Instant} {key : String} {r : Recording}
    {events : List Event} (h : c.store? now key r = some (c', events)) :
    ∀ e ∈ events, e.keptKey? = none := by
  obtain ⟨expires, _, hset⟩ := Option.map_eq_some_iff.1 h
  rw [show events = (c.set now key ⟨r, expires⟩).2 by rw [hset]]
  exact c.keptKey?_set now key _

end Cache

namespace Link

variable {τ : Type}

/-- The keys under which responses were kept, in order. -/
def kept (l : Link τ) : List String := l.log.toList.filterMap Event.keptKey?

@[simp] theorem kept_setBoard (l : Link τ) (name : BoardName) (b : AckBoard) :
    (l.setBoard name b).kept = l.kept := by
  cases name <;> rfl

theorem kept_report (l : Link τ) (e : Event) :
    (l.report e).kept = l.kept ++ e.keptKey?.toList := by
  simp only [kept, report, Array.toList_push, List.filterMap_append]
  cases h : e.keptKey? <;> simp [h]

theorem kept_reportAll (l : Link τ) {events : List Event}
    (h : ∀ e ∈ events, e.keptKey? = none) : (l.reportAll events).kept = l.kept := by
  have hnil : events.filterMap Event.keptKey? = [] := List.filterMap_eq_nil_iff.2 h
  simp [kept, reportAll, hnil]

@[simp] theorem kept_raise (l : Link τ) (signal : Signal) : (l.raise signal).kept = l.kept := by
  cases signal with
  | drained handle freed => exact (l.kept_report _).trans (List.append_nil _)
  | ack handle count => exact kept_reportAll _ (l.shared.keptKey?_notifyHandle handle count)
  | ackAll count => exact kept_reportAll _ (l.shared.keptKey?_notifyAll count)

@[simp] theorem kept_raiseAll (l : Link τ) (signals : List Signal) :
    (l.raiseAll signals).kept = l.kept := by
  induction signals generalizing l with
  | nil => rfl
  | cons signal rest ih => exact (ih (l.raise signal)).trans (l.kept_raise signal)

@[simp] theorem kept_openMailbox (l : Link τ) (name : BoardName) :
    (l.openMailbox name).1.kept = l.kept :=
  l.kept_setBoard ..

@[simp] theorem kept_closeMailbox (l : Link τ) (name : BoardName) (waiter : WaiterId) :
    (l.closeMailbox name waiter).kept = l.kept :=
  l.kept_setBoard ..

@[simp] theorem kept_attach (l : Link τ) (name : BoardName) (handle : HandleId)
    (waiter : WaiterId) : (l.attach name handle waiter).kept = l.kept :=
  (kept_reportAll _ ((l.board name).keptKey?_attach handle waiter)).trans (l.kept_setBoard ..)

@[simp] theorem kept_detach (l : Link τ) (name : BoardName) (handle : HandleId) :
    (l.detach name handle).kept = l.kept :=
  l.kept_setBoard ..

variable [Transport τ]

@[simp] theorem kept_offer (l : Link τ) (handle : HandleId) (chunk : ByteArray) :
    (l.offer handle chunk).1.kept = l.kept :=
  kept_raiseAll ..

theorem kept_sendSection {l l' : Link τ} {handle : HandleId} {status : Http.Status}
    {layout : Layout} {fields : List (FieldName × FieldValue)}
    {answer : Except TransportError Unit}
    (h : l.sendSection handle status layout fields = (l', answer)) : l'.kept = l.kept := by
  rw [(sendSection_eq_iff.1 h).2]
  rfl

variable [Transport.Orderly τ]
open Transport.Faithful Transport.Orderly

/-- From the first link to the second only the response on this handle changed. -/
structure Frames (handle : HandleId) (l l' : Link τ) : Prop where
  received_ne : ∀ g, g ≠ handle → received l'.transport g = received l.transport g
  issued_of : ∀ g, issued l.transport g → issued l'.transport g

/-- Only the response on this handle changed, and nothing was kept in the cache. -/
structure Tends (handle : HandleId) (l l' : Link τ) : Prop extends Frames handle l l' where
  kept_eq : l'.kept = l.kept

/-- From the first link to the second no response changed. -/
structure Rests (l l' : Link τ) : Prop where
  received_eq : ∀ g, received l'.transport g = received l.transport g
  issued_of : ∀ g, issued l.transport g → issued l'.transport g
  kept_eq : l'.kept = l.kept

section

variable {handle : HandleId} {l l₁ l₂ : Link τ}

theorem Rests.of_transport (ht : l₁.transport = l.transport) (hk : l₁.kept = l.kept) :
    l.Rests l₁ :=
  ⟨fun _ => by rw [ht], fun _ => by rw [ht]; exact id, hk⟩

theorem Rests.refl (l : Link τ) : l.Rests l := of_transport rfl rfl

theorem Rests.trans (h : l.Rests l₁) (h' : l₁.Rests l₂) : l.Rests l₂ where
  received_eq g := (h'.received_eq g).trans (h.received_eq g)
  issued_of g hg := h'.issued_of g (h.issued_of g hg)
  kept_eq := h'.kept_eq.trans h.kept_eq

theorem Rests.tends (h : l.Rests l₁) : l.Tends handle l₁ :=
  ⟨⟨fun g _ => h.received_eq g, h.issued_of⟩, h.kept_eq⟩

theorem Tends.refl (l : Link τ) : l.Tends handle l := (Rests.refl l).tends

theorem Frames.trans (h : l.Frames handle l₁) (h' : l₁.Frames handle l₂) : l.Frames handle l₂ where
  received_ne g hg := (h'.received_ne g hg).trans (h.received_ne g hg)
  issued_of g hg := h'.issued_of g (h.issued_of g hg)

/-- A report, whatever it says, changes no response. -/
theorem Frames.report (h : l.Frames handle l₁) (e : Event) : l.Frames handle (l₁.report e) :=
  ⟨h.received_ne, h.issued_of⟩

theorem Tends.trans (h : l.Tends handle l₁) (h' : l₁.Tends handle l₂) : l.Tends handle l₂ :=
  ⟨h.toFrames.trans h'.toFrames, h'.kept_eq.trans h.kept_eq⟩

end

theorem rests_report (l : Link τ) {e : Event} (h : e.keptKey? = none) : l.Rests (l.report e) :=
  .of_transport rfl (by simp [kept_report, h])

theorem rests_reportAll (l : Link τ) {events : List Event} (h : ∀ e ∈ events, e.keptKey? = none) :
    l.Rests (l.reportAll events) :=
  .of_transport rfl (l.kept_reportAll h)

theorem rests_finalize (l : Link τ) (handle : HandleId) : l.Rests (l.finalize handle) :=
  ⟨received_finalize l.transport handle .ok, issued_finalize l.transport handle .ok, rfl⟩

/-- An allocation gives a handle that was not given before. -/
theorem rests_allocate (l : Link τ) :
    l.Rests l.allocate.1 ∧ ∀ handle, l.allocate.2 = .ok handle →
      ¬ issued l.transport handle ∧ issued l.allocate.1.transport handle :=
  ⟨⟨received_allocate l.transport, issued_allocate l.transport, rfl⟩, allocate_fresh l.transport⟩

theorem tends_offer (l : Link τ) (handle : HandleId) (chunk : ByteArray) :
    l.Tends handle (l.offer handle chunk).1 := by
  refine ⟨⟨fun g hg => ?_, fun g hg => ?_⟩, l.kept_offer handle chunk⟩
  · rw [transport_offer]
    exact received_offer_ne l.transport handle chunk g hg
  · rw [transport_offer]
    exact issued_offer l.transport handle chunk g hg

theorem tends_sendSection {l l' : Link τ} {handle : HandleId} {status : Http.Status}
    {layout : Layout} {fields : List (FieldName × FieldValue)}
    {answer : Except TransportError Unit}
    (h : l.sendSection handle status layout fields = (l', answer)) : l.Tends handle l' := by
  have hcall : (Transport.sendSection l.transport handle status layout fields).1 = l'.transport :=
    congrArg Prod.fst (sendSection_eq_iff.1 h).1
  -- a section that is refused half-way has changed no other response either
  refine ⟨⟨fun g hg => ?_, fun g hg => ?_⟩, kept_sendSection h⟩
  · rw [← hcall]
    exact Transport.sendSection_induct (P := fun t => received t g = received l.transport g)
      (fun t _ _ ht => (received_initResponse_ne t handle _ _ g hg).trans ht)
      (fun t _ _ ht => (received_addField_ne t handle _ _ g hg).trans ht)
      (fun t ht => (received_sendHeaders_ne t handle g hg).trans ht) rfl status layout fields
  · rw [← hcall]
    exact Transport.sendSection_induct (P := fun t => issued t g)
      (fun t _ _ ht => issued_initResponse t handle _ _ g ht)
      (fun t _ _ ht => issued_addField t handle _ _ g ht)
      (fun t ht => issued_sendHeaders t handle g ht) hg status layout fields

end Link

namespace Session

variable {τ : Type} [Transport τ] [Transport.Orderly τ]

/-- From the first session to the second only the response of the writer changed. -/
structure Tends (s s' : Session τ) : Prop where
  handle_eq : s'.writer.handle = s.writer.handle
  link : s.link.Tends s.writer.handle s'.link

variable {s s₁ s₂ s₃ s' : Session τ}

theorem Tends.of_rests (hhandle : s'.writer.handle = s.writer.handle)
    (hlink : s.link.Rests s'.link) : s.Tends s' :=
  ⟨hhandle, hlink.tends⟩

theorem Tends.refl (s : Session τ) : s.Tends s := ⟨rfl, .refl _⟩

theorem Tends.trans (h : s.Tends s₁) (h' : s₁.Tends s₂) : s.Tends s₂ := by
  refine ⟨h'.handle_eq.trans h.handle_eq, h.link.trans ?_⟩
  rw [← h.handle_eq]
  exact h'.link

theorem tends_edit (s : Session τ) (change : Fields.Edit) : s.Tends (s.edit change) :=
  .of_rests rfl (.refl _)

theorem tends_offer {chunk : ByteArray} {a : Nat} (h : s.offer chunk = (s', a)) : s.Tends s' := by
  obtain rfl : (s.offer chunk).1 = s' := congrArg Prod.fst h
  exact ⟨rfl, s.link.tends_offer s.writer.handle chunk⟩

theorem tends_register {waiter : WaiterId} (h : s.register = (s', waiter)) : s.Tends s' := by
  obtain rfl : s.register.1 = s' := congrArg Prod.fst h
  refine .of_rests (by rw [writer_register]) (.of_transport s.transport_register ?_)
  cases hwaiter : s.writer.waiter with
  | some earlier => simp [register_of_some hwaiter]
  | none => simp [register_of_none hwaiter]

theorem tends_unregister (s : Session τ) : s.Tends s.unregister :=
  .of_rests rfl (.of_transport (by simp) (by simp [unregister]))

theorem keptKey?_recordBody (r : Recorder) (body : ByteArray) :
    ∀ e ∈ (r.recordBody body).2, e.keptKey? = none := by
  intro e he
  unfold Recorder.recordBody at he
  split at he
  · split at he
    · obtain rfl := List.mem_singleton.1 he
      rfl
    · cases he
  · cases he

theorem tends_finishBody (s : Session τ) (body : ByteArray) : s.Tends (s.finishBody body) := by
  unfold finishBody
  split
  · exact .refl s
  · rename_i r _
    exact .of_rests rfl (s.link.rests_reportAll (keptKey?_recordBody r body))

theorem tends_retry {chunk rest : ByteArray} {a r : Nat} {waiter : WaiterId}
    (hoffer : s.offer chunk = (s₁, a)) (hregister : s₁.countShort.register = (s₂, waiter))
    (hagain : s₂.offer rest = (s₃, r)) : s.Tends s₃ := by
  have hshort : s₁.Tends s₁.countShort := .of_rests rfl (.refl _)
  exact (tends_offer hoffer).trans (hshort.trans ((tends_register hregister).trans
    (tends_offer hagain)))

theorem Pours.tends {now : Instant} {body : ByteArray} {n : Nat} {p : Progress}
    (h : Pours now body s n s' p) : s.Tends s' := by
  induction h with
  | @done s n _ => exact s.tends_finishBody body
  | @endless s n _ _ => exact .refl s
  | whole _ _ hoffer _ _ ih => exact (tends_offer hoffer).trans ih
  | @retried _ _ _ s₃ _ _ _ _ _ _ _ _ hoffer _ hregister hagain _ _ ih =>
    exact (tends_retry hoffer hregister hagain).trans (s₃.tends_unregister.trans ih)
  | @blocked _ _ _ s₃ _ _ _ _ _ hoffer _ hregister hagain =>
    exact (tends_retry hoffer hregister hagain).trans (.of_rests rfl (s₃.link.rests_report rfl))

theorem Heads.tends {status : Http.Status} {result : Except WriteError Unit}
    (h : Heads status s s' result) : s.Tends s' := by
  cases h with
  | repeated => exact .of_rests rfl (s.link.rests_report rfl)
  | unfit => exact .of_rests rfl (.refl _)
  | refused _ _ hsend => exact ⟨rfl, Link.tends_sendSection hsend⟩
  | @sent layout link _ _ hsend =>
    exact ⟨rfl, (Link.tends_sendSection hsend).trans (link.rests_report rfl).tends⟩

theorem Flushes.tends {result : Except WriteError Unit} (h : Flushes s s' result) : s.Tends s' := by
  cases h with
  | already => exact .refl s
  | heads _ hheads => exact hheads.tends

theorem Writes.tends {now : Instant} {body : ByteArray} {p : Progress}
    (h : Writes now body s s' p) : s.Tends s' := by
  cases h with
  | failed hflush => exact hflush.tends
  | pours hflush hpours => exact hflush.tends.trans hpours.tends

/-- A wait that ended changed the board only. -/
theorem tends_ended (s : Session τ) (board : AckBoard) :
    s.Tends { s with link := s.link.setBoard s.writer.board board } :=
  .of_rests rfl (.of_transport (by simp) (by simp))

theorem Resumes.tends {now : Instant} {write : PendingWrite} {p : Progress}
    (h : Resumes now write s s' p) : s.Tends s' := by
  cases h with
  | waits => exact .refl s
  | @gaveUp board e _ =>
    refine (s.tends_ended board).trans ((tends_unregister _).trans ?_)
    exact .of_rests rfl (Link.rests_report _ rfl)
  | @pours board ready _ _ _ hpours =>
    refine (s.tends_ended board).trans (.trans ?_ hpours.tends)
    exact .of_rests rfl (Link.rests_report _ rfl)

theorem Replays.tends {now : Instant} {r : Recording} {p : Progress}
    (h : Replays now r s s' p) : s.Tends s' := by
  have hfields : s.Tends (s.withFields r) := .of_rests rfl (.refl _)
  cases h with
  | failed hheads => exact hfields.trans hheads.tends
  | bare hheads => exact hfields.trans hheads.tends
  | writes hheads _ hwrites => exact hfields.trans (hheads.tends.trans hwrites.tends)

theorem rests_close (s : Session τ) : s.link.Rests s.close := by
  unfold close
  split
  · exact .refl _
  · exact .of_transport (by simp) (by simp)

end Session

end Sluice
