import Sluice.Proofs.Waking.Registrations
import Sluice.Proofs.Writing.Course
import Sluice.Transport.Faulty
import Sluice.Transport.Tapped

/-!
# What a returned write leaves behind

A write that has to wait puts a registration up. A signal uses it up, a second offer that is
accepted takes it down, and so does a write that runs out of time. It is left behind in two ways:
the write is dropped, or the wait is ended by a count that was there before the registration was.
-/
namespace Sluice

namespace Session

variable {τ : Type}

/-- Who is registered under the handle of the session's writer. -/
def registration (s : Session τ) : Option WaiterId :=
  s.ackBoard.registrations.find? s.writer.handle

theorem registration_of_spends {s s' : Session τ} (hcontinues : s.Continues s')
    (hspends : s.ackBoard.Spends s'.ackBoard) (hfree : s.registration = none) :
    s'.registration = none := by
  rw [Option.eq_none_iff_forall_ne_some, registration, hcontinues.handle_eq]
  intro waiter hw
  have hbefore : s.registration = some waiter := hspends.registered _ waiter hw
  rw [hfree] at hbefore
  cases hbefore

@[simp] theorem registration_unregister (s : Session τ) : s.unregister.registration = none := by
  rw [registration, ackBoard, unregister, Link.board_detach]
  exact Table.find?_erase_self ..

variable [Transport τ]

theorem registration_offer {s s' : Session τ} {chunk : ByteArray} {a : Nat}
    (h : s.offer chunk = (s', a)) (hfree : s.registration = none) : s'.registration = none := by
  have hcontinues := (strokes_offer h).continues
  obtain rfl : (s.offer chunk).1 = s' := congrArg Prod.fst h
  exact registration_of_spends hcontinues (s.link.spends_offer _ chunk _) hfree

/-- A body that is poured where nothing is registered leaves nothing registered, unless the write
has to wait. -/
theorem Pours.registration_eq_none {now : Instant} {body : ByteArray} {s s' : Session τ} {n : Nat}
    {p : Progress} (h : Pours now body s n s' p) (hp : ∀ write, p ≠ .suspended write)
    (hfree : s.registration = none) : s'.registration = none := by
  induction h with
  | @done s n _ =>
    obtain ⟨events, hlink⟩ := s.link_finishBody body
    have hcontinues := (s.strokes_finishBody body).continues
    refine registration_of_spends hcontinues ?_ hfree
    rw [ackBoard, ackBoard, hcontinues.board_eq, hlink, Link.board_reportAll]
    exact .refl _
  | endless => exact hfree
  | whole _ _ hoffer _ _ ih => exact ih hp (registration_offer hoffer hfree)
  | retried _ _ _ _ _ _ _ _ ih => exact ih hp (registration_unregister _)
  | blocked => exact absurd rfl (hp _)

/-- A header section has nothing to do with registrations. -/
theorem Heads.registration_eq {status : Http.Status} {s s' : Session τ}
    {result : Except WriteError Unit} (h : Heads status s s' result) :
    s'.registration = s.registration := by
  have hcontinues := h.strokes.continues
  have hboard : s'.ackBoard = s.ackBoard := by
    rw [ackBoard, hcontinues.board_eq, ackBoard]
    cases h with
    | repeated => exact s.link.board_report _ _
    | unfit => rfl
    | refused _ _ hsend => exact Link.board_sendSection hsend _
    | sent _ _ hsend => exact (Link.board_report _ _ _).trans (Link.board_sendSection hsend _)
  rw [registration, hboard, hcontinues.handle_eq, registration]

theorem Flushes.registration_eq {s s' : Session τ} {result : Except WriteError Unit}
    (h : Flushes s s' result) : s'.registration = s.registration := by
  cases h with
  | already => rfl
  | heads _ hheads => exact hheads.registration_eq

/-- A flush fails only where nothing was sent before. -/
theorem Flushes.sent_eq_none {s s' : Session τ} {e : WriteError} (h : Flushes s s' (.error e)) :
    s.writer.sent = none := by
  cases h with
  | heads hsent => exact hsent

/-- What a write that ends finds and leaves registered. -/
theorem Writes.registration_eq_none {now : Instant} {body : ByteArray} {s s' : Session τ}
    {p : Progress} (h : Writes now body s s' p) (hp : ∀ write, p ≠ .suspended write)
    (hfree : s.registration = none) : s'.registration = none := by
  cases h with
  | failed hflush => exact hflush.registration_eq.trans hfree
  | pours hflush hpours =>
    exact hpours.registration_eq_none hp (hflush.registration_eq.trans hfree)

omit [Transport τ] in
theorem registration_giveUp (s : Session τ) (write : PendingWrite) (e : WriteError) :
    (s.giveUp write e).registration = none := by
  unfold giveUp
  rw [registration, ackBoard_report]
  exact s.registration_unregister

/-- A wait that ended in an error has taken its registration down. -/
theorem Resumes.registration_of_error {now : Instant} {write : PendingWrite} {s s' : Session τ}
    {e : WriteError} (h : Resumes now write s s' (.finished (.error e))) :
    s'.registration = none := by
  cases h with
  | gaveUp => exact registration_giveUp ..
  | pours _ hpours => exact absurd rfl (hpours.ne_error e)

/-- A wait that is not ended by a count, or not with a registration up, leaves none when it ends. -/
theorem Resumes.registration_eq_none {now : Instant} {write : PendingWrite} {s s' : Session τ}
    {p : Progress} (h : Resumes now write s s' p) (hp : ∀ write, p ≠ .suspended write)
    (hfree : (s.ackBoard.take? write.wait.waiter).isSome → s.registration = none) :
    s'.registration = none := by
  cases h with
  | waits => exact absurd rfl (hp write)
  | gaveUp => exact registration_giveUp ..
  | @pours board ready _ _ hends hpours =>
    refine hpours.registration_eq_none hp ?_
    cases ends_of_waitEnds? hends with
    | told htake =>
      have htake' : s.ackBoard.take? write.wait.waiter = some (ready, board) := htake
      have hbefore := hfree (by rw [htake']; rfl)
      refine registration_of_spends (s := s) ⟨rfl, rfl, id⟩ ?_ hbefore
      have hboard : (s.link.setBoard s.writer.board board).board s.writer.board = board :=
        Link.board_setBoard ..
      rw [ackBoard_report, ackBoard, ackBoard, hboard]
      exact AckBoard.spends_take? htake'

end Session

/-! ## A writer and the others -/

/-- What others do with a link: anything but to put up a registration under this handle. -/
structure Besides (τ : Type) (board : BoardName) (handle : HandleId) where
  change : Link τ → Link τ
  spares : ∀ l waiter, ((change l).board board).registrations.find? handle = some waiter →
    (l.board board).registrations.find? handle = some waiter

namespace Besides

/-- The transport does as it likes, and tells of it. -/
def tell {τ : Type} {board : BoardName} {handle : HandleId} (turn : τ → τ)
    (signals : List Signal) : Besides τ board handle where
  change l := { l with transport := turn l.transport }.raiseAll signals
  spares l waiter hw := by
    have hspends :=
      ({ l with transport := turn l.transport } : Link τ).spends_raiseAll signals board
    have hbefore := hspends.registered handle waiter hw
    revert hbefore
    cases board <;> exact id

end Besides

namespace Course

variable {τ : Type} [Transport τ] {board : BoardName} {handle : HandleId}

/-- What can happen next to the only writer of a handle. -/
inductive Move (τ : Type) (board : BoardName) (handle : HandleId) where
  | does (d : Deed)
  | besides (b : Besides τ board handle)

def step (c : Course τ) : Move τ board handle → Course τ
  | .does d => c.does d
  | .besides b => { c with session.link := b.change c.session.link }

def steps (c : Course τ) (moves : List (Move τ board handle)) : Course τ := moves.foldl step c

/-- A registration that is up is let go of: the write that waits is dropped, or a count that is
there already ends its wait. -/
def leaks (c : Course τ) (m : Move τ board handle) : Bool :=
  match m, c.current with
  | .does .drop, some _ => c.session.registration.isSome
  | .does (.resume _), some p =>
    c.session.registration.isSome && (c.session.ackBoard.take? p.wait.waiter).isSome
  | _, _ => false

/-- No registration is let go of on the way. -/
def isTight (c : Course τ) : List (Move τ board handle) → Bool
  | [] => true
  | m :: rest => !c.leaks m && (c.step m).isTight rest

/-- What holds at every moment. -/
structure Known (board : BoardName) (handle : HandleId) (c : Course τ) : Prop where
  board_eq : c.session.writer.board = board
  handle_eq : c.session.writer.handle = handle
  /-- Before the header section went out no write has waited. -/
  registered : c.session.registration ≠ none → c.session.writer.sent ≠ none
  waits : ∀ p, c.current = some p →
    c.session.writer.sent ≠ none ∧ c.session.writer.waiter = some p.wait.waiter

/-- Nothing is registered while no write waits. -/
def Settled (c : Course τ) : Prop := c.current = none → c.session.registration = none

variable {c : Course τ} {d : Deed} {s' : Session τ} {p : Progress} {now : Instant}
  {body : ByteArray}

omit [Transport τ] in
theorem known_start (handle : HandleId) (board : BoardName) (settings : WriterSettings)
    (recorder : Option Recorder) {link : Link τ}
    (hfree : (link.board board).registrations.find? handle = none) :
    Known board handle (start handle board settings recorder link) :=
  ⟨rfl, rfl, fun h => absurd hfree h, nofun⟩

namespace Known

omit [Transport τ] in
/-- A session that came of a call, whether a write waits afterwards or not. -/
theorem settle (h : Known board handle c) (hs : c.session.Continues s')
    (hregistered : s'.registration ≠ none → s'.writer.sent ≠ none)
    (hwaits : ∀ write, p = .suspended write →
      s'.writer.sent ≠ none ∧ s'.writer.waiter = some write.wait.waiter) (n : Nat) :
    Known board handle (c.settle body n (s', p)) := by
  have hsession := c.session_settle body n (s', p)
  refine ⟨?_, ?_, ?_, fun write hwrite => ?_⟩
  · rw [hsession]
    exact hs.board_eq.trans h.board_eq
  · rw [hsession]
    exact hs.handle_eq.trans h.handle_eq
  · rw [hsession]
    exact hregistered
  · rw [hsession]
    exact hwaits write ((c.current_settle body n (s', p) write).1 hwrite)

omit [Transport τ] in
/-- A session that came of a call that puts no registration up. -/
theorem of_registration_eq (h : Known board handle c) (hs : c.session.Continues s')
    (hsame : s'.registration = c.session.registration) (hcurrent : c.current = none) :
    Known board handle { c with session := s' } := by
  refine ⟨hs.board_eq.trans h.board_eq, hs.handle_eq.trans h.handle_eq, fun hr => ?_, ?_⟩
  · rw [hsame] at hr
    exact hs.sent (h.registered hr)
  · intro p hp
    rw [show c.current = some p from hp] at hcurrent
    cases hcurrent

theorem write (h : Known board handle c) (hwrites : c.session.Writes now body s' p) :
    Known board handle (c.settle body 0 (s', p)) := by
  have hs := hwrites.strokes.continues
  refine h.settle hs ?_ (fun write hp => ⟨?_, hwrites.waiter_eq hp⟩) 0
  · cases hwrites with
    | failed hflush =>
      rw [hflush.registration_eq]
      exact fun hr => hs.sent (h.registered hr)
    | pours hflush hpours => exact fun _ => hpours.strokes.continues.sent hflush.sent_ne_none
  · cases hwrites with
    | failed => cases hp
    | pours hflush hpours => exact hpours.strokes.continues.sent hflush.sent_ne_none

theorem resume (h : Known board handle c) {write : PendingWrite} (hcurrent : c.current = some write)
    (hresumes : c.session.Resumes now write s' p) :
    Known board handle (c.settle write.body write.written (s', p)) := by
  obtain ⟨hsent, hwaiter⟩ := h.waits write hcurrent
  have hs := (hresumes.strokes hwaiter).continues
  exact h.settle hs (fun _ => hs.sent hsent)
    (fun write' hp => ⟨hs.sent hsent, hresumes.waiter_eq hwaiter hp⟩) _

theorem follows {c' : Course τ} (h : Known board handle c) (hfollows : c.Follows d c') :
    Known board handle c' := by
  cases hfollows with
  | @edits change hcurrent =>
    have hs := (c.session.strokes_edit change).continues
    exact h.of_registration_eq hs rfl hcurrent
  | heads hcurrent hheads =>
    exact h.of_registration_eq hheads.strokes.continues hheads.registration_eq hcurrent
  | flushes hcurrent hflush =>
    exact h.of_registration_eq hflush.strokes.continues hflush.registration_eq hcurrent
  | writes _ hwrites => exact h.write hwrites
  | resumes hcurrent hresumes => exact h.resume hcurrent hresumes
  | drops => exact ⟨h.board_eq, h.handle_eq, h.registered, nofun⟩
  | idles => exact h
  | busy => exact h

omit [Transport τ] in
theorem besides (h : Known board handle c) (b : Besides τ board handle)
    (hfree : c.session.registration = none) :
    ({ c.session with link := b.change c.session.link } : Session τ).registration = none := by
  rw [Option.eq_none_iff_forall_ne_some]
  intro waiter hw
  rw [Session.registration, Session.ackBoard, h.board_eq, h.handle_eq] at hfree hw
  rw [b.spares _ waiter hw] at hfree
  cases hfree

theorem step (h : Known board handle c) (m : Move τ board handle) :
    Known board handle (c.step m) := by
  cases m with
  | does d => exact h.follows (c.follows_does d)
  | besides b =>
    exact ⟨h.board_eq, h.handle_eq, fun hr => h.registered fun hfree => hr (h.besides b hfree),
      h.waits⟩

theorem steps (h : Known board handle c) (moves : List (Move τ board handle)) :
    Known board handle (c.steps moves) := by
  induction moves generalizing c with
  | nil => exact h
  | cons m rest ih => exact ih (h.step m)

end Known

namespace Settled

omit [Transport τ] in
/-- After a call that ends without a registration up. -/
theorem settle (n : Nat) (hfree : (∀ write, p ≠ .suspended write) → s'.registration = none) :
    Settled (c.settle body n (s', p)) := by
  intro hcurrent
  rw [session_settle]
  refine hfree fun write hp => ?_
  rw [(c.current_settle body n (s', p) write).2 hp] at hcurrent
  cases hcurrent

theorem follows {c' : Course τ} (h : Settled c) (hfollows : c.Follows d c')
    (htight : c.leaks (.does d : Move τ board handle) = false) : Settled c' := by
  cases hfollows with
  | edits hcurrent => exact fun _ => h hcurrent
  | heads hcurrent hheads => exact fun _ => hheads.registration_eq.trans (h hcurrent)
  | flushes hcurrent hflush => exact fun _ => hflush.registration_eq.trans (h hcurrent)
  | writes hcurrent hwrites =>
    exact settle 0 fun hp => hwrites.registration_eq_none hp (h hcurrent)
  | @resumes _ write _ _ hcurrent hresumes =>
    simp only [leaks, hcurrent, Bool.and_eq_false_iff] at htight
    refine settle _ fun hp => hresumes.registration_eq_none hp fun hcount => ?_
    rcases htight with hgone | hnone
    · simpa using hgone
    · rw [hcount] at hnone
      cases hnone
  | drops hcurrent =>
    simp only [leaks, hcurrent] at htight
    exact fun _ => by simpa using htight
  | idles => exact h
  | busy => exact h

theorem step (hk : Known board handle c) (h : Settled c) {m : Move τ board handle}
    (htight : c.leaks m = false) : Settled (c.step m) := by
  cases m with
  | does d => exact h.follows (c.follows_does d) htight
  | besides b => exact fun hcurrent => hk.besides b (h hcurrent)

theorem steps (hk : Known board handle c) (h : Settled c) {moves : List (Move τ board handle)}
    (htight : c.isTight moves = true) : Settled (c.steps moves) := by
  induction moves generalizing c with
  | nil => exact h
  | cons m rest ih =>
    simp only [isTight, Bool.and_eq_true, Bool.not_eq_true'] at htight
    exact ih (hk.step m) (h.step hk htight.1) htight.2

end Settled

/-! ## Writes that return -/

omit [Transport τ] in
/-- A write of which the book tells how it returned has returned so. -/
theorem progress_of_ended {n : Nat} {out : Session τ × Progress} {a : Attempt}
    {result : Except WriteError Nat} (hended : (c.settle body n out).ended = c.ended ++ [a])
    (hresult : a.result = some result) : out.2 = .finished result := by
  rcases out with ⟨s, (e | m) | write | _⟩
  · obtain rfl := List.singleton_inj.1 (List.append_cancel_left hended)
    cases hresult
    rfl
  · obtain rfl := List.singleton_inj.1 (List.append_cancel_left hended)
    cases hresult
    rfl
  · simp [settle] at hended
  · obtain rfl := List.singleton_inj.1 (List.append_cancel_left hended)
    cases hresult

/-- Which deeds a write can return by. No write waits after that. -/
theorem Follows.returns {c' : Course τ} {a : Attempt} {result : Except WriteError Nat}
    (h : c.Follows d c') (hended : c'.ended = c.ended ++ [a]) (hresult : a.result = some result) :
    c'.current = none ∧
      ((∃ now body, c.session.Writes now body c'.session (.finished result)) ∨
        ∃ now write, c.session.Resumes now write c'.session (.finished result)) := by
  have hnone {s : Session τ} {body : ByteArray} {n : Nat} :
      (c.settle body n (s, .finished result)).current = none := by
    cases result <;> rfl
  cases h with
  | @writes now body _ _ _ hwrites =>
    obtain rfl := progress_of_ended hended hresult
    refine ⟨hnone, .inl ⟨now, body, ?_⟩⟩
    rwa [session_settle]
  | @resumes now write _ _ _ hresumes =>
    obtain rfl := progress_of_ended hended hresult
    refine ⟨hnone, .inr ⟨now, write, ?_⟩⟩
    rwa [session_settle]
  | drops =>
    obtain rfl := List.singleton_inj.1 (List.append_cancel_left hended)
    cases hresult
  | _ => simp at hended

/-- A write that returns an error leaves nothing registered, whatever happened before. -/
theorem registration_of_error (hk : Known board handle c) {c' : Course τ} {a : Attempt}
    {e : WriteError} (hfollows : c.Follows d c') (hended : c'.ended = c.ended ++ [a])
    (hresult : a.result = some (.error e)) : c'.session.registration = none := by
  rcases (hfollows.returns hended hresult).2 with ⟨now, body, hwrites⟩ | ⟨now, write, hresumes⟩
  · cases hwrites with
    | failed hflush =>
      -- the header section never went out, so no write has ever waited
      refine hflush.registration_eq.trans (Decidable.byContradiction fun hr => ?_)
      exact hk.registered hr hflush.sent_eq_none
    | pours _ hpours => exact absurd rfl (hpours.ne_error e)
  · exact hresumes.registration_of_error

theorem isTight_append (moves : List (Move τ board handle)) (m : Move τ board handle) :
    c.isTight (moves ++ [m]) = (c.isTight moves && !(c.steps moves).leaks m) := by
  induction moves generalizing c with
  | nil => simp [isTight, steps]
  | cons first rest ih =>
    show (!c.leaks first && (c.step first).isTight (rest ++ [m])) = _
    rw [ih, ← Bool.and_assoc]
    rfl

/-- A write that returns leaves no registration behind. Whatever the transport answers and whenever
signals come, once a write of the only writer of a handle returns, nothing is registered under the
handle, and the next acknowledgment for it is absorbed. A write that succeeds can count on that as
long as no registration was let go of while it was up; one that fails can always. -/
theorem free_of_returned (handle : HandleId) (board : BoardName) (settings : WriterSettings)
    (recorder : Option Recorder) (link : Link τ) (moves : List (Move τ board handle)) (d : Deed)
    {a : Attempt} {result : Except WriteError Nat}
    (hfree : (link.board board).registrations.find? handle = none)
    (hended : (((start handle board settings recorder link).steps moves).does d).ended =
      ((start handle board settings recorder link).steps moves).ended ++ [a])
    (hresult : a.result = some result)
    (htight : (∃ e, result = .error e) ∨
      (start handle board settings recorder link).isTight (moves ++ [.does d]) = true) :
    let b := (((start handle board settings recorder link).steps moves).does d).session.link.board
      board
    b.registrations.find? handle = none ∧
      ∀ count, (b.notifyHandle handle count).1 = { b with absorbed := b.absorbed + 1 } := by
  intro b
  have hstart : Known board handle (start handle board settings recorder link) :=
    known_start handle board settings recorder hfree
  have hk := hstart.steps moves
  have hfollows := ((start handle board settings recorder link).steps moves).follows_does d
  have hreturned : (((start handle board settings recorder link).steps moves).does
      d).session.registration = none := by
    rcases htight with ⟨e, rfl⟩ | htight
    · exact registration_of_error hk hfollows hended hresult
    · rw [isTight_append, Bool.and_eq_true, Bool.not_eq_true'] at htight
      have hsettled : Settled (start handle board settings recorder link) := fun _ => hfree
      have hafter := (hsettled.steps hstart htight.1).follows hfollows htight.2
      exact hafter (hfollows.returns hended hresult).1
  have hk' := hk.follows hfollows
  have hnone : b.registrations.find? handle = none := by
    rw [Session.registration, Session.ackBoard, hk'.board_eq, hk'.handle_eq] at hreturned
    exact hreturned
  refine ⟨hnone, fun count => ?_⟩
  simp only [AckBoard.notifyHandle, hnone]

deriving instance DecidableEq for Attempt

/-- A write that has to wait for a drain. -/
def drained : List (Move Loopback .shared ⟨1⟩) :=
  [.does (.write ⟨0⟩ "abcdef".toUTF8),
    .besides (.tell (fun t => (t.drain ⟨1⟩).1) [.drained ⟨1⟩ 4, .ack ⟨1⟩ 1])]

theorem free_of_returned_drained :
    let b := (((start ⟨1⟩ .shared {} none shortLink).steps drained).does
      (.resume ⟨0⟩)).session.link.board .shared
    b.registrations.find? ⟨1⟩ = none ∧ (b.notifyHandle ⟨1⟩ 1).1.absorbed = 1 := by
  intro b
  have hended : (((start ⟨1⟩ .shared {} none shortLink).steps drained).does (.resume ⟨0⟩)).ended =
      ((start ⟨1⟩ .shared {} none shortLink).steps drained).ended ++
        [⟨"abcdef".toUTF8, 6, some (.ok 6)⟩] := by
    decide +kernel
  obtain ⟨hnone, habsorbed⟩ := free_of_returned ⟨1⟩ .shared {} none shortLink drained (.resume ⟨0⟩)
    rfl hended rfl (.inr (by decide +kernel))
  refine ⟨hnone, ?_⟩
  rw [habsorbed]
  decide +kernel

/-- A transport that acknowledges space in the midst of the first write, and is full in
the second. -/
def stale : Link Faulty :=
  { transport := { plan := { offer :=
    [(1, .limit 4), (2, .disturb (.ack 1)), (3, .limit 2), (4, .limit 0)] } } }

/-- Two writes in a row: the second is woken by what the first left in the mailbox. -/
def twice : List (Move Faulty .shared ⟨1⟩) :=
  [.does (.write ⟨0⟩ "abcdef".toUTF8), .does (.write ⟨0⟩ "ghijkl".toUTF8)]

/-- It returns with its registration up, and the next acknowledgment is not absorbed. -/
theorem registered_of_returned :
    let c := (start ⟨1⟩ .shared {} none stale).steps twice
    let b := (c.does (.resume ⟨0⟩)).session.link.shared
    (c.does (.resume ⟨0⟩)).ended = c.ended ++ [⟨"ghijkl".toUTF8, 6, some (.ok 6)⟩] ∧
      b.waiting = 1 ∧ (b.notifyHandle ⟨1⟩ 1).1.absorbed = b.absorbed := by
  decide +kernel

end Course

end Sluice
