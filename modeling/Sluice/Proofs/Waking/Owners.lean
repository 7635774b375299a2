import Mathlib.Data.List.Perm.Subperm
import Sluice.Proofs.Serving.Dispatches
import Sluice.Proofs.Waking.Turns
import Sluice.Proofs.Writing.Course

/-!
# Acknowledgments stay with their request

A dispatcher at work on a board of its own. Requests come, dispatches go on, end in every way they
can or are dropped, in any order, and the transport tells what it likes at any time. Every
registration is that of a dispatch in flight, on the handle that it has, and leads to a mailbox that
is its own from first to last.
-/
namespace Sluice

/-- The board on which the dispatcher's writers register. -/
def Service.ackBoard {τ : Type} (s : Service τ) : AckBoard := s.link.board s.dispatcher.board

/-! ## What the pool leaves alone -/

namespace Pool

variable {τ : Type} [Transport τ]

@[simp] theorem board_checkout (p : Pool) (l : Link τ) (name : BoardName) :
    (p.checkout l).2.1.board name = l.board name := by
  unfold checkout
  split
  · rfl
  · cases name <;> rfl

@[simp] theorem board_release (p : Pool) (l : Link τ) (handle : HandleId) (name : BoardName) :
    (p.release l handle).2.1.board name = l.board name := by
  unfold release
  split
  · rfl
  · cases name <;> rfl

end Pool

namespace Dispatches

variable {τ ε α : Type}

/-- What others may do to a service whose registrations are looked at. -/
inductive Telling : (Service τ → Service τ) → Prop where
  /-- Others have the cache. -/
  | recache (change : Option Cache → Option Cache) :
    Telling fun s => { s with dispatcher.cache := change s.dispatcher.cache }
  /-- The transport does as it likes, and tells of it. -/
  | tell (turn : τ → τ) (signals : List Signal) :
    Telling fun s =>
      { s with link := { s.link with transport := turn s.link.transport }.raiseAll signals }

def ackBoard (r : Dispatches τ ε α) : AckBoard := r.service.ackBoard

/-- A dispatch in flight has this handle and this mailbox. -/
def Owns (r : Dispatches τ ε α) (handle : HandleId) (waiter : WaiterId) : Prop :=
  ∃ id f, r.flights.find? id = some f ∧ f.dispatch.writer.handle = handle ∧
    f.dispatch.writer.waiter = some waiter

/-- What holds of the registrations at every moment. -/
structure KeepsRegistrations (r : Dispatches τ ε α) : Prop where
  numbered : r.Numbered
  board_eq : ∀ id f, r.flights.find? id = some f →
    f.dispatch.writer.board = r.service.dispatcher.board
  waits : ∀ id f, r.flights.find? id = some f → f.dispatch.stage.WaitsAt f.dispatch.writer.waiter
  made : ∀ id f waiter, r.flights.find? id = some f → f.dispatch.writer.waiter = some waiter →
    waiter.number < r.ackBoard.opened
  /-- No two dispatches have one mailbox. -/
  apart : ∀ id f other g waiter, r.flights.find? id = some f → r.flights.find? other = some g →
    f.dispatch.writer.waiter = some waiter → g.dispatch.writer.waiter = some waiter → other = id
  registered : ∀ handle waiter, r.ackBoard.registrations.find? handle = some waiter →
    r.Owns handle waiter

/-- From the first moment to the second no dispatch came back, and none got a mailbox that was there
already. -/
structure Later (r r' : Dispatches τ ε α) : Prop where
  started_le : r.started ≤ r'.started
  opened_le : r.ackBoard.opened ≤ r'.ackBoard.opened
  flown : ∀ id f', r'.flights.find? id = some f' → id < r.started →
    ∃ f, r.flights.find? id = some f
  waiter : ∀ id f' waiter, r'.flights.find? id = some f' →
    f'.dispatch.writer.waiter = some waiter →
    r.ackBoard.opened ≤ waiter.number ∨
      ∃ f, r.flights.find? id = some f ∧ f.dispatch.writer.waiter = some waiter

variable {r r₁ r₂ : Dispatches τ ε α} {id : Nat}

theorem Later.refl (r : Dispatches τ ε α) : Later r r :=
  ⟨Nat.le_refl _, Nat.le_refl _, fun _ f hf _ => ⟨f, hf⟩, fun _ f _ hf hw => .inr ⟨f, hf, hw⟩⟩

theorem Later.trans (h : Later r r₁) (h' : Later r₁ r₂) : Later r r₂ where
  started_le := Nat.le_trans h.started_le h'.started_le
  opened_le := Nat.le_trans h.opened_le h'.opened_le
  flown id f' hf' hlt := by
    obtain ⟨f, hf⟩ := h'.flown id f' hf' (Nat.lt_of_lt_of_le hlt h.started_le)
    exact h.flown id f hf hlt
  waiter id f' waiter hf' hw := by
    rcases h'.waiter id f' waiter hf' hw with hnew | ⟨f, hf, hw⟩
    · exact .inl (Nat.le_trans h.opened_le hnew)
    · exact h.waiter id f waiter hf hw

theorem keepsRegistrations_opening {d : Dispatcher} {l : Link τ}
    (hfree : (l.board d.board).registrations = .empty) :
    (opening d l : Dispatches τ ε α).KeepsRegistrations := by
  have hnone {id : Nat} {f : Flight ε α} (h : (opening d l).flights.find? id = some f) : False := by
    cases h
  refine ⟨fun _ _ h => (hnone h).elim, fun _ _ h => (hnone h).elim, fun _ _ h => (hnone h).elim,
    fun _ _ _ h => (hnone h).elim, fun _ _ _ _ _ h => (hnone h).elim, fun handle waiter hw => ?_⟩
  have hempty : (l.board d.board).registrations.find? handle = some waiter := hw
  rw [hfree] at hempty
  cases hempty

/-- A turn of the dispatch with this number begins where it was left, or anew. -/
structure Begins [Transport τ] (r : Dispatches τ ε α) (id : Nat) (t : Turn τ) : Prop where
  id_lt : id < r.started
  dispatcher_board : t.dispatcher.board = r.service.dispatcher.board
  writer_board : t.session.writer.board = r.service.dispatcher.board
  ackBoard_eq : t.session.ackBoard = r.ackBoard
  flight : t.session.writer.waiter = none ∧ r.flights.find? id = none ∨
    ∃ f, r.flights.find? id = some f ∧ t.session.writer.handle = f.dispatch.writer.handle ∧
      t.session.writer.waiter = f.dispatch.writer.waiter

/-! ## A turn that waits, and one that is over -/

section

variable [Transport τ] {t t' : Turn τ} {s : Service τ} {o : Outcome ε} {tag : α}

/-- The mailbox of the turn's writer is new, or it had it before. -/
theorem Begins.waiter_or (hb : r.Begins id t) (hposts : t.session.Posts t'.session)
    {waiter : WaiterId} (hw : t'.session.writer.waiter = some waiter) :
    r.ackBoard.opened ≤ waiter.number ∧ waiter.number < t'.session.ackBoard.opened ∨
      ∃ f, r.flights.find? id = some f ∧ f.dispatch.writer.waiter = some waiter := by
  rcases hposts.waiter with hsame | ⟨-, new, hnew, hle, hlt⟩
  · rw [hsame] at hw
    rcases hb.flight with ⟨hnone, -⟩ | ⟨f, hf, -, hwaiter⟩
    · rw [hnone] at hw
      cases hw
    · exact .inr ⟨f, hf, hwaiter.symm.trans hw⟩
  · obtain rfl := Option.some.inj (hnew.symm.trans hw)
    rw [hb.ackBoard_eq] at hle
    exact .inl ⟨hle, hlt⟩

/-- The board of a dispatch that waits. -/
theorem Begins.ackBoard_suspend (hb : r.Begins id t) (hreaches : t.Reaches t') (stage : Stage ε) :
    (r.settle id tag (t'.suspend stage)).ackBoard = t'.session.ackBoard := by
  show t'.session.link.board t'.dispatcher.board = t'.session.link.board t'.session.writer.board
  rw [hreaches.dispatcher_eq, hreaches.strokes.posts.board_eq, hb.writer_board]
  exact congrArg _ hb.dispatcher_board

/-- No mailbox is taken back. -/
theorem Begins.opened_le (hb : r.Begins id t) (hreaches : t.Reaches t') (stage : Stage ε) :
    r.ackBoard.opened ≤ (r.settle id tag (t'.suspend stage)).ackBoard.opened := by
  rw [hb.ackBoard_suspend hreaches stage, ← hb.ackBoard_eq]
  exact hreaches.strokes.posts.opened_le

namespace KeepsRegistrations

/-- No other dispatch has it. -/
theorem eq_of_waiter (h : r.KeepsRegistrations) (hb : r.Begins id t)
    (hposts : t.session.Posts t'.session) {waiter : WaiterId} {other : Nat} {f : Flight ε α}
    (hw : t'.session.writer.waiter = some waiter) (hf : r.flights.find? other = some f)
    (hw' : f.dispatch.writer.waiter = some waiter) : other = id := by
  rcases hb.waiter_or hposts hw with ⟨hnew, -⟩ | ⟨f', hf', hw''⟩
  · exact absurd (h.made other f waiter hf hw') (Nat.not_lt_of_le hnew)
  · exact h.apart id f' other f waiter hf' hf hw'' hw'

/-- Whose registration there is once the turn waits. -/
theorem registered_suspend (h : r.KeepsRegistrations) (hb : r.Begins id t)
    (hposts : t.session.Posts t'.session) {stage : Stage ε} {handle : HandleId} {waiter : WaiterId}
    (hw : t'.session.ackBoard.registrations.find? handle = some waiter) :
    (r.settle id tag (t'.suspend stage)).Owns handle waiter := by
  have hown (hhandle : handle = t.session.writer.handle)
      (hwaiter : t'.session.writer.waiter = some waiter) :
      (r.settle id tag (t'.suspend stage)).Owns handle waiter :=
    ⟨id, _, Table.find?_insert_self .., hposts.handle_eq.trans hhandle.symm, hwaiter⟩
  rcases hposts.registered handle waiter hw with hold | ⟨hhandle, hwaiter⟩
  · rw [hb.ackBoard_eq] at hold
    obtain ⟨other, f, hf, hhandle, hwaiter⟩ := h.registered handle waiter hold
    by_cases hother : id = other
    · subst hother
      rcases hb.flight with ⟨-, hnone⟩ | ⟨f', hf', hhandle', hwaiter'⟩
      · rw [hnone] at hf
        cases hf
      · obtain rfl := Option.some.inj (hf.symm.trans hf')
        exact hown (hhandle.symm.trans hhandle'.symm)
          (hposts.waiter_eq_some (hwaiter'.trans hwaiter))
    · exact ⟨other, f, (Table.find?_insert ..).trans ((if_neg hother).trans hf), hhandle, hwaiter⟩
  · exact hown hhandle hwaiter

/-- A dispatch that waits is in flight, with what its writer put up. -/
theorem suspend (h : r.KeepsRegistrations) (hb : r.Begins id t) (hreaches : t.Reaches t')
    {stage : Stage ε} (hat : stage.WaitsAt t'.session.writer.waiter) :
    (r.settle id tag (t'.suspend stage)).KeepsRegistrations := by
  have hposts := hreaches.strokes.posts
  have hdispatcher : t'.dispatcher.board = r.service.dispatcher.board := by
    rw [hreaches.dispatcher_eq]
    exact hb.dispatcher_board
  have hwriter : t'.session.writer.board = r.service.dispatcher.board :=
    hposts.board_eq.trans hb.writer_board
  let r' := r.settle id tag (t'.suspend stage)
  have hboard : r'.ackBoard = t'.session.ackBoard := hb.ackBoard_suspend hreaches stage
  have hopened : r.ackBoard.opened ≤ r'.ackBoard.opened := hb.opened_le hreaches stage
  refine ⟨h.numbered.settle hb.id_lt _ _ _, fun other f hf => ?_, fun other f hf => ?_,
    fun other f waiter hf hw => ?_, fun first f other g waiter hf hg hw hw' => ?_,
    fun handle waiter hw => h.registered_suspend hb hposts (hboard ▸ hw)⟩
  · show f.dispatch.writer.board = t'.dispatcher.board
    rw [hdispatcher]
    rcases Table.of_find?_insert hf with ⟨-, rfl⟩ | ⟨-, hold⟩
    · exact hwriter
    · exact h.board_eq other f hold
  · rcases Table.of_find?_insert hf with ⟨-, rfl⟩ | ⟨-, hold⟩
    · exact hat
    · exact h.waits other f hold
  · rcases Table.of_find?_insert hf with ⟨-, rfl⟩ | ⟨-, hold⟩
    · rcases hb.waiter_or hposts hw with ⟨-, hlt⟩ | ⟨f', hf', hw'⟩
      · rwa [hboard]
      · exact Nat.lt_of_lt_of_le (h.made id f' waiter hf' hw') hopened
    · exact Nat.lt_of_lt_of_le (h.made other f waiter hold hw) hopened
  · rcases Table.of_find?_insert hf with ⟨rfl, rfl⟩ | ⟨-, hold⟩ <;>
      rcases Table.of_find?_insert hg with ⟨rfl, rfl⟩ | ⟨-, hold'⟩
    · rfl
    · exact h.eq_of_waiter hb hposts hw hold' hw'
    · exact (h.eq_of_waiter hb hposts hw' hold hw).symm
    · exact h.apart first f other g waiter hold hold' hw hw'

end KeepsRegistrations

/-- The board that a dispatch leaves that is over. -/
theorem ackBoard_cancel (r : Dispatches τ ε α) {d : Dispatch ε}
    (hd : d.writer.board = r.service.dispatcher.board) :
    (r.service.cancel d).ackBoard =
      (⟨d.writer, r.service.link⟩ : Session τ).close.board d.writer.board := by
  show (r.service.dispatcher.pool.release _ d.writer.handle).2.1.board
    r.service.dispatcher.board = _
  rw [Pool.board_release, ← hd]
  rfl

theorem spends_cancel (r : Dispatches τ ε α) {d : Dispatch ε}
    (hd : d.writer.board = r.service.dispatcher.board) :
    r.ackBoard.Spends (r.service.cancel d).ackBoard := by
  rw [r.ackBoard_cancel hd, ackBoard, Service.ackBoard, ← hd]
  exact Session.spends_close ⟨d.writer, r.service.link⟩

/-- A dispatch in flight that is over has taken its registration along. -/
theorem KeepsRegistrations.cancel (h : r.KeepsRegistrations) {f : Flight ε α}
    (hf : r.flights.find? id = some f) : (r.cancel id f).KeepsRegistrations := by
  have hwriter := h.board_eq id f hf
  have hspends := r.spends_cancel hwriter
  refine ⟨h.numbered.cancel id f, fun other g hg => h.board_eq other g (Table.of_find?_erase hg).2,
    fun other g hg => h.waits other g (Table.of_find?_erase hg).2,
    fun other g waiter hg hw => ?_, fun first g₁ other g₂ waiter hg₁ hg₂ => ?_,
    fun handle waiter hw => ?_⟩
  · show waiter.number < (r.service.cancel f.dispatch).ackBoard.opened
    rw [hspends.opened_eq]
    exact h.made other g waiter (Table.of_find?_erase hg).2 hw
  · exact h.apart first g₁ other g₂ waiter (Table.of_find?_erase hg₁).2 (Table.of_find?_erase hg₂).2
  · obtain ⟨other, g, hg, hhandle, hwaiter⟩ := h.registered handle waiter
      (hspends.registered handle waiter hw)
    by_cases hother : id = other
    · -- it was its own, and closing the writer has taken it down
      subst hother
      obtain rfl := Option.some.inj (hf.symm.trans hg)
      have hgone : (r.service.cancel f.dispatch).ackBoard.registrations.find?
          f.dispatch.writer.handle = none := by
        rw [r.ackBoard_cancel hwriter]
        refine Session.find?_close (s := ⟨f.dispatch.writer, r.service.link⟩) ?_
        show f.dispatch.writer.waiter ≠ none
        rw [hwaiter]
        exact Option.some_ne_none _
      have hw' : (r.service.cancel f.dispatch).ackBoard.registrations.find? handle = some waiter :=
        hw
      rw [← hhandle, hgone] at hw'
      cases hw'
    · exact ⟨other, g, (Table.find?_erase ..).trans ((if_neg hother).trans hg), hhandle, hwaiter⟩

/-! ## Turns, and what others do -/

/-- From then on to a dispatch that waits. Its number may be a new one. -/
theorem later_suspend (hb : r.Begins id t) (hreaches : t.Reaches t') (stage : Stage ε) {n : Nat}
    (hn : n ≤ r.started) (hid : r.flights.find? id = none → n ≤ id) :
    Later { r with started := n } (r.settle id tag (t'.suspend stage)) := by
  have hposts := hreaches.strokes.posts
  refine ⟨hn, hb.opened_le hreaches stage, fun other f hf hlt => ?_, fun other f waiter hf hw => ?_⟩
  · rcases Table.of_find?_insert hf with ⟨rfl, -⟩ | ⟨-, hold⟩
    · cases hfind : r.flights.find? other with
      | none => exact absurd hlt (Nat.not_lt_of_le (hid hfind))
      | some g => exact ⟨g, rfl⟩
    · exact ⟨f, hold⟩
  · rcases Table.of_find?_insert hf with ⟨rfl, rfl⟩ | ⟨-, hold⟩
    · exact (hb.waiter_or hposts hw).imp_left And.left
    · exact .inr ⟨f, hold, hw⟩

theorem later_cancel {f : Flight ε α}
    (hf : f.dispatch.writer.board = r.service.dispatcher.board) : Later r (r.cancel id f) :=
  ⟨Nat.le_refl _, Nat.le_of_eq (r.spends_cancel hf).opened_eq.symm,
    fun _ g hg _ => ⟨g, (Table.of_find?_erase hg).2⟩,
    fun _ g _ hg hw => .inr ⟨g, (Table.of_find?_erase hg).2, hw⟩⟩

/-- A dispatch that is over might as well have waited, and been dropped. -/
theorem settle_leave (r : Dispatches τ ε α) (id : Nat) (tag : α) (t : Turn τ) {o : Outcome ε}
    (ho : ∀ d, o ≠ .inFlight d) :
    r.settle id tag (t.leave, o) =
      (r.settle id tag (t.suspend .endless)).cancel id
        ⟨tag, ⟨t.session.writer, t.key, .endless⟩⟩ := by
  have herase : (r.settle id tag (t.suspend (.endless : Stage ε))).flights.erase id =
      r.flights.erase id := Table.erase_insert_self ..
  rw [cancel, herase]
  cases o with
  | inFlight d => exact absurd rfl (ho d)
  | _ => rfl

namespace KeepsRegistrations

theorem ends (h : r.KeepsRegistrations) (hb : r.Begins id t) (hends : t.Ends s o) {n : Nat}
    (hn : n ≤ r.started) (hid : r.flights.find? id = none → n ≤ id) :
    (r.settle id tag (s, o)).KeepsRegistrations ∧
      Later { r with started := n } (r.settle id tag (s, o)) := by
  have hover {t' : Turn τ} {o : Outcome ε} (hreaches : t.Reaches t') (ho : ∀ d, o ≠ .inFlight d) :
      (r.settle id tag (t'.leave, o)).KeepsRegistrations ∧
        Later { r with started := n } (r.settle id tag (t'.leave, o)) := by
    rw [r.settle_leave id tag t' ho]
    have hwait : (r.settle id tag (t'.suspend .endless)).KeepsRegistrations :=
      h.suspend hb hreaches trivial
    have hfind : (r.settle id tag (t'.suspend (.endless : Stage ε))).flights.find? id = some _ :=
      Table.find?_insert_self ..
    exact ⟨hwait.cancel hfind,
      (later_suspend hb hreaches .endless hn hid).trans (later_cancel (hwait.board_eq id _ hfind))⟩
  cases hends with
  | waits hreaches hat => exact ⟨h.suspend hb hreaches hat, later_suspend hb hreaches _ hn hid⟩
  | returned hreaches => exact hover hreaches fun _ h => by cases h
  | crashed hreaches => exact hover hreaches fun _ h => by cases h

theorem begins (h : r.KeepsRegistrations) {f : Flight ε α} (hf : r.flights.find? id = some f) :
    r.Begins id (f.dispatch.turn r.service) := by
  have hwriter := h.board_eq id f hf
  refine ⟨h.numbered id f hf, rfl, hwriter, ?_, .inr ⟨f, hf, rfl, rfl⟩⟩
  show r.service.link.board f.dispatch.writer.board =
    r.service.link.board r.service.dispatcher.board
  rw [hwriter]

/-- A dispatch in flight that went on. -/
theorem settle (h : r.KeepsRegistrations) {f : Flight ε α} (hf : r.flights.find? id = some f)
    (hends : (f.dispatch.turn r.service).Ends s o) :
    (r.settle id f.tag (s, o)).KeepsRegistrations ∧ Later r (r.settle id f.tag (s, o)) := by
  refine h.ends (h.begins hf) hends (Nat.le_refl _) fun hnone => ?_
  rw [hf] at hnone
  cases hnone

omit [Transport τ] in
/-- Others put up no registration, and take no mailbox. -/
theorem spends (h : r.KeepsRegistrations)
    (hboard : s.dispatcher.board = r.service.dispatcher.board)
    (hspends : r.ackBoard.Spends s.ackBoard) :
    { r with service := s }.KeepsRegistrations ∧ Later r { r with service := s } := by
  have hopened : s.ackBoard.opened = r.ackBoard.opened := hspends.opened_eq
  refine ⟨⟨h.numbered, fun id f hf => (h.board_eq id f hf).trans hboard.symm, h.waits,
    fun id f waiter hf hw => hopened ▸ h.made id f waiter hf hw, h.apart,
    fun handle waiter hw => h.registered handle waiter (hspends.registered handle waiter hw)⟩,
    ⟨Nat.le_refl _, Nat.le_of_eq hopened.symm, fun _ f hf _ => ⟨f, hf⟩,
      fun _ f _ hf hw => .inr ⟨f, hf, hw⟩⟩⟩

omit [Transport τ] in
/-- One more request comes. -/
theorem next (h : r.KeepsRegistrations) : r.next.KeepsRegistrations :=
  ⟨h.numbered.next, h.board_eq, h.waits, h.made, h.apart, h.registered⟩

/-- A request is taken up under a number of its own. -/
theorem start (h : r.KeepsRegistrations) (hadmits : r.service.Admits s o) :
    (r.next.settle r.started tag (s, o)).KeepsRegistrations ∧
      Later r (r.next.settle r.started tag (s, o)) := by
  have hnone : r.flights.find? r.started = none := h.numbered.find?_started
  cases hadmits with
  | @refused pool link e hcheckout =>
    have hlink := r.service.dispatcher.pool.board_checkout r.service.link r.service.dispatcher.board
    rw [hcheckout] at hlink
    have hspends : r.next.ackBoard.Spends
        (⟨{ r.service.dispatcher with pool }, link⟩ : Service τ).ackBoard := by
      show (r.service.link.board _).Spends (link.board _)
      rw [hlink]
      exact .refl _
    obtain ⟨hkeeps, hlater⟩ := h.next.spends (s := ⟨{ r.service.dispatcher with pool }, link⟩) rfl
      hspends
    have herase : r.next.flights.erase r.started = r.next.flights :=
      Table.erase_of_find?_eq_none hnone
    simp only [Dispatches.settle, herase]
    exact ⟨hkeeps, ⟨Nat.le_succ _, hlater.opened_le, fun _ f hf _ => ⟨f, hf⟩, hlater.waiter⟩⟩
  | @admitted t pool link handle _ _ hcheckout hdispatcher _ hboard hwaiter hlink hends =>
    have hlink' := r.service.dispatcher.pool.board_checkout r.service.link
      r.service.dispatcher.board
    rw [hcheckout] at hlink'
    have hbegins : r.next.Begins r.started t := by
      refine ⟨Nat.lt_succ_self _, by rw [hdispatcher]; rfl, hboard, ?_, .inl ⟨hwaiter, hnone⟩⟩
      show t.session.link.board t.session.writer.board =
        r.service.link.board r.service.dispatcher.board
      rw [hboard, hlink, ← hlink']
      cases r.service.dispatcher.board <;> rfl
    exact h.next.ends hbegins hends (Nat.le_succ _) fun _ => Nat.le_refl _

theorem steps (h : r.KeepsRegistrations) {move : Move τ ε α Telling} (hsteps : r.Steps move r₁) :
    r₁.KeepsRegistrations ∧ Later r r₁ := by
  cases hsteps with
  | starts hstart => exact h.start (Service.admits_start hstart)
  | resumes hf hresume => exact h.settle hf (Service.ends_resume (h.waits _ _ hf) hresume)
  | answers hf hanswer => exact h.settle hf (Service.ends_answer (h.waits _ _ hf) hanswer)
  | drops hf => exact ⟨h.cancel hf, later_cancel (h.board_eq _ _ hf)⟩
  | idles => exact ⟨h, .refl r⟩
  | @changes change =>
    obtain ⟨_, htelling⟩ := change
    cases htelling with
    | recache change => exact h.spends rfl (.refl _)
    | tell turn signals =>
      let l : Link τ := { r.service.link with transport := turn r.service.link.transport }
      have hboard : l.board r.service.dispatcher.board = r.ackBoard := by
        show l.board r.service.dispatcher.board = r.service.link.board r.service.dispatcher.board
        cases r.service.dispatcher.board <;> rfl
      have hspends := l.spends_raiseAll signals r.service.dispatcher.board
      rw [hboard] at hspends
      exact h.spends rfl hspends

theorem run (h : r.KeepsRegistrations) (moves : List (Move τ ε α Telling)) :
    (r.run moves).KeepsRegistrations ∧ Later r (r.run moves) :=
  run_of_act (P := fun r' => r'.KeepsRegistrations ∧ Later r r')
    (fun _ hkeeps move => by
      obtain ⟨hact, hlater⟩ := hkeeps.1.steps (steps_act _ move)
      exact ⟨hact, hkeeps.2.trans hlater⟩)
    ⟨h, .refl r⟩ moves

end KeepsRegistrations

end

/-! ## Whose registrations there are -/

/-- Registrations are on different handles, and so are those that have them. -/
theorem KeepsRegistrations.waiting_le (h : r.KeepsRegistrations) :
    r.ackBoard.waiting ≤ r.flights.size := by
  have hsub : r.ackBoard.registrations.keys ⊆
      r.flights.entries.map fun f => f.2.dispatch.writer.handle := by
    intro handle hmem
    obtain ⟨waiter, hw⟩ := Option.isSome_iff_exists.1 (Table.contains_iff.2 hmem)
    obtain ⟨id, f, hf, rfl, -⟩ := h.registered handle waiter hw
    exact List.mem_map.2 ⟨(id, f), Table.find?_eq_some_iff.1 hf, rfl⟩
  have hle := (List.subperm_of_subset r.ackBoard.registrations.distinct hsub).length_le
  simp only [List.length_map] at hle
  exact hle

/-- A mailbox is that of one dispatch for all time. -/
theorem KeepsRegistrations.eq_of_later (h : r.KeepsRegistrations) (hlater : Later r r₁)
    {f g : Flight ε α} {other : Nat} {waiter : WaiterId} (hf : r.flights.find? id = some f)
    (hw : f.dispatch.writer.waiter = some waiter) (hg : r₁.flights.find? other = some g)
    (hw' : g.dispatch.writer.waiter = some waiter) : other = id := by
  rcases hlater.waiter other g waiter hg hw' with hnew | ⟨f₁, hf₁, hw₁⟩
  · exact absurd (h.made id f waiter hf hw) (Nat.not_lt_of_le hnew)
  · exact h.apart id f other f₁ waiter hf hf₁ hw hw₁

/-- Acknowledgments never cross from one request to the next user of its handle. However dispatches
begin, go on, end and are dropped, and whatever the transport tells, each registration on the
dispatcher's board is that of a dispatch in flight, on its handle and for its mailbox, at which it
waits. So there are no more than there are dispatches in flight, none under a handle that nobody
has, and no notification reaches anybody else. The registration of a dispatch that is over is gone,
and its mailbox is nobody's afterwards. -/
theorem registrations_owned [Transport τ] (d : Dispatcher) (l : Link τ)
    (moves more : List (Move τ ε α Telling)) (hfree : (l.board d.board).registrations = .empty) :
    let r := (opening d l : Dispatches τ ε α).run moves
    let r' := r.run more
    (∀ handle waiter, r.ackBoard.registrations.find? handle = some waiter →
      r.Owns handle waiter) ∧
    r.ackBoard.waiting ≤ r.flights.size ∧
    (r.flights.size = 0 → r.ackBoard.waiting = 0) ∧
    (∀ handle, (∀ id f, r.flights.find? id = some f → f.dispatch.writer.handle ≠ handle) →
      r.ackBoard.registrations.find? handle = none) ∧
    (∀ id f, r.flights.find? id = some f →
      f.dispatch.stage.WaitsAt f.dispatch.writer.waiter) ∧
    (∀ handle count waiter, (r.ackBoard.notifyHandle handle count).1.mailboxes.find? waiter ≠
      r.ackBoard.mailboxes.find? waiter → r.Owns handle waiter) ∧
    (∀ count waiter, (r.ackBoard.notifyAll count).1.mailboxes.find? waiter ≠
      r.ackBoard.mailboxes.find? waiter → ∃ handle, r.Owns handle waiter) ∧
    ∀ id f waiter, r.flights.find? id = some f → f.dispatch.writer.waiter = some waiter →
      (r'.flights.find? id = none →
        ∀ handle, r'.ackBoard.registrations.find? handle ≠ some waiter) ∧
      ∀ other g, r'.flights.find? other = some g → g.dispatch.writer.waiter = some waiter →
        other = id := by
  intro r r'
  have hkeeps : r.KeepsRegistrations := ((keepsRegistrations_opening hfree).run moves).1
  obtain ⟨hkeeps', hlater⟩ := hkeeps.run more
  refine ⟨hkeeps.registered, hkeeps.waiting_le, fun hzero => ?_, fun handle hnobody => ?_,
    hkeeps.waits, fun handle count waiter hposted => ?_, fun count waiter hposted => ?_,
    fun id f waiter hf hw => ⟨fun hgone handle hregistered => ?_, fun other g hg hw' => ?_⟩⟩
  · have hle := hkeeps.waiting_le
    omega
  · rw [Option.eq_none_iff_forall_ne_some]
    intro waiter hw
    obtain ⟨id, f, hf, hhandle, -⟩ := hkeeps.registered handle waiter hw
    exact hnobody id f hf hhandle
  · exact hkeeps.registered handle waiter (AckBoard.registered_of_notifyHandle hposted)
  · obtain ⟨handle, hw⟩ := AckBoard.registered_of_notifyAll hposted
    exact ⟨handle, hkeeps.registered handle waiter hw⟩
  · obtain ⟨other, g, hg, -, hw'⟩ := hkeeps'.registered handle waiter hregistered
    obtain rfl := hkeeps.eq_of_later hlater hf hw hg hw'
    rw [hgone] at hg
    cases hg
  · exact hkeeps.eq_of_later hlater hf hw hg hw'

/-- A dispatcher whose pool keeps two handles. -/
def pairDispatcher : Dispatcher := ⟨.shared, { capacity := 2 }, none, {}⟩

/-- A handler whose only write does not fit. -/
def long : Program Unit := .write "abcdef".toUTF8 none fun _ => .finish

/-- Two dispatches wait. The first is dropped, and the third waits on the handle that it had. -/
def turnover : List (Move Loopback Unit Unit Telling) :=
  [.start .start ⟨.get, "/a"⟩ long (), .start .start ⟨.get, "/b"⟩ long (), .drop 0,
    .start .start ⟨.get, "/c"⟩ long ()]

/-- The buffer of that handle is emptied, and the third dispatch ends. -/
def release : List (Move Loopback Unit Unit Telling) :=
  [.others ⟨_, .tell (fun t => (t.drain ⟨1⟩).1) [.drained ⟨1⟩ 4, .ack ⟨1⟩ 1]⟩, .resume 2 .start]

theorem registrations_owned_turnover :
    let r := (opening pairDispatcher Course.shortLink).run turnover
    r.ackBoard.registrations.entries = [(⟨2⟩, ⟨1⟩), (⟨1⟩, ⟨2⟩)] ∧
      r.Owns ⟨1⟩ ⟨2⟩ ∧ r.flights.size = 2 ∧ r.ackBoard.waiting ≤ r.flights.size ∧
      (r.run release).ackBoard.registrations.find? ⟨1⟩ ≠ some ⟨2⟩ := by
  intro r
  have hfree : (Course.shortLink.board pairDispatcher.board).registrations = .empty := rfl
  obtain ⟨hregistered, hwaiting, -, -, -, -, -, hover⟩ :=
    registrations_owned pairDispatcher Course.shortLink turnover release hfree
  have hwaits : r.ackBoard.registrations.find? ⟨1⟩ = some ⟨2⟩ := by decide +kernel
  have hwaiter : (r.flights.find? 2).map (·.dispatch.writer.waiter) = some (some ⟨2⟩) := by
    decide +kernel
  obtain ⟨f, hf, hw⟩ := Option.map_eq_some_iff.1 hwaiter
  have hgone : ((r.run release).flights.find? 2).isNone := by decide +kernel
  exact ⟨by decide +kernel, hregistered _ _ hwaits, by decide +kernel, hwaiting,
    (hover 2 f ⟨2⟩ hf hw).1 (Option.isNone_iff_eq_none.1 hgone) ⟨1⟩⟩

end Dispatches

end Sluice
