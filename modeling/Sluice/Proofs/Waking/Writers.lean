import Sluice.Proofs.Waking.Waits
import Sluice.Proofs.Writing.Course

/-!
# No wake-up is lost

Many writers at one link, at most one for each handle, whose calls come in any order, are
interrupted at any offer, run out of time and are dropped. A write that waits with nothing in its
mailbox is registered under its handle, and the buffer is full, so that the next drain wakes it.
-/
namespace Sluice

/-- A writer that somebody has, with the write that waits. -/
structure ActiveWriter where
  writer : Writer
  waits : Option PendingWrite := none
deriving Inhabited

/-- Writers by their handles, at one link. -/
structure Writers where
  link : Link Interrupted
  seats : Table HandleId ActiveWriter := .empty

/-- What can happen next. -/
inductive Move where
  /-- A writer is made, unless the handle has one. -/
  | join (handle : HandleId) (settings : WriterSettings) (recorder : Option Recorder)
  /-- The writer of a handle is dropped, and its write with it. -/
  | leave (handle : HandleId)
  /-- The writer of a handle does something, and its offers are interrupted so. -/
  | does (handle : HandleId) (deed : Deed) (during : List Interruptions)
  | outside (i : Interruption)

/-- The writer that makes the move. -/
def Move.actor? : Move → Option HandleId
  | .join handle .. | .leave handle | .does handle .. => some handle
  | .outside _ => none

namespace Writers

/-- The link on which the next offers will be interrupted so. -/
def foresee (l : Link Interrupted) (during : List Interruptions) : Link Interrupted :=
  { l with transport := { l.transport with coming := during } }

/-- Something happens outside of all calls. -/
def disturb (l : Link Interrupted) (i : Interruption) : Link Interrupted :=
  let (inner, signals) := Interrupted.interrupt l.transport.inner [i]
  { l with transport := { l.transport with inner } }.raiseAll signals

/-- The writer's course while it does one thing. -/
def course (seat : ActiveWriter) (l : Link Interrupted) : Course Interrupted where
  session := ⟨seat.writer, l⟩
  current := seat.waits

def act (c : Writers) : Move → Writers
  | .join handle settings recorder =>
    match c.seats.find? handle with
    | some _ => c
    | none => { c with seats := c.seats.insert handle { writer := { handle, settings, recorder } } }
  | .leave handle =>
    match c.seats.find? handle with
    | none => c
    | some seat =>
      { link := (⟨seat.writer, c.link⟩ : Session Interrupted).close
        seats := c.seats.erase handle }
  | .does handle deed during =>
    match c.seats.find? handle with
    | none => c
    | some seat =>
      let d := (course seat (foresee c.link during)).does deed
      { link := d.session.link, seats := c.seats.insert handle ⟨d.session.writer, d.current⟩ }
  | .outside i => { c with link := disturb c.link i }

def run (c : Writers) (moves : List Move) : Writers := moves.foldl act c

/-- No writers yet, over empty buffers. -/
def start (capacity : Nat) (routing : AckRouting) : Writers where
  link := { transport := { inner := { capacity := some capacity, routing := some routing } } }

/-! ## What holds at every moment -/

structure Sound (capacity : Nat) (c : Writers) : Prop where
  fit : c.link.transport.inner.Fit capacity
  own : ∀ handle seat, c.seats.find? handle = some seat →
    (⟨seat.writer, c.link⟩ : Session Interrupted).Own capacity handle
  /-- No two writers have one waiter. -/
  apart : ∀ handle seat waiter other seat', c.seats.find? handle = some seat →
    seat.writer.waiter = some waiter → c.seats.find? other = some seat' → other ≠ handle →
      seat'.writer.waiter ≠ some waiter
  stands : ∀ handle seat write, c.seats.find? handle = some seat → seat.waits = some write →
    (⟨seat.writer, c.link⟩ : Session Interrupted).Stands capacity handle write

theorem sound_start (capacity : Nat) (routing : AckRouting) :
    Sound capacity (start capacity routing) := by
  refine ⟨⟨rfl, nofun, fun _ => Nat.zero_le _⟩, ?_, ?_, ?_⟩
  · intro handle seat h
    cases h
  · intro handle seat waiter other seat' h
    cases h
  · intro handle seat write h
    cases h

/-- A change of the link that is fair to every waiter under its handle. -/
def Fair (c : Writers) (handle : HandleId) (l : Link Interrupted) : Prop :=
  ∀ seat waiter, c.seats.find? handle = some seat → seat.writer.waiter = some waiter →
    c.link.Spares handle waiter l

namespace Sound

variable {capacity : Nat} {c : Writers} {handle : HandleId} {l : Link Interrupted}

/-- A seat that was not touched is as it was. -/
theorem own_of_fair (h : Sound capacity c) (hfit : l.transport.inner.Fit capacity)
    (hfair : c.Fair handle l) {seat : ActiveWriter} (hseat : c.seats.find? handle = some seat) :
    (⟨seat.writer, l⟩ : Session Interrupted).Own capacity handle := by
  have ho := h.own handle seat hseat
  exact ⟨hfit, ho.handle_eq, ho.board_eq, fun waiter hwaiter =>
    (hfair seat waiter hseat hwaiter).board.alive (ho.alive waiter hwaiter)⟩

theorem stands_of_fair (h : Sound capacity c) (hfair : c.Fair handle l) {seat : ActiveWriter}
    {write : PendingWrite} (hseat : c.seats.find? handle = some seat)
    (hwrite : seat.waits = some write) :
    (⟨seat.writer, l⟩ : Session Interrupted).Stands capacity handle write := by
  have hs := h.stands handle seat write hseat hwrite
  have ha := (h.own handle seat hseat).alive write.wait.waiter hs.waiter_eq
  exact ⟨hs.waiter_eq, hs.chunk_pos, hs.lt,
    (hfair seat write.wait.waiter hseat hs.waiter_eq).safe ha hs.safe⟩

/-- A change of the link alone that is fair to all. -/
theorem of_fair (h : Sound capacity c) (hfit : l.transport.inner.Fit capacity)
    (hfair : ∀ handle, c.Fair handle l) : Sound capacity { c with link := l } where
  fit := hfit
  own handle _ hseat := h.own_of_fair hfit (hfair handle) hseat
  apart := h.apart
  stands handle _ _ hseat hwrite := h.stands_of_fair (hfair handle) hseat hwrite

/-- One seat is taken anew, by a writer whose waiter is nobody else's. -/
theorem insert (h : Sound capacity c) (hfair : ∀ other, other ≠ handle → c.Fair other l)
    {seat : ActiveWriter} (hown : (⟨seat.writer, l⟩ : Session Interrupted).Own capacity handle)
    (hstands : ∀ write, seat.waits = some write →
      (⟨seat.writer, l⟩ : Session Interrupted).Stands capacity handle write)
    (hapart : ∀ other seat' waiter, c.seats.find? other = some seat' → other ≠ handle →
      seat'.writer.waiter = some waiter → seat.writer.waiter ≠ some waiter) :
    Sound capacity { link := l, seats := c.seats.insert handle seat } := by
  refine ⟨hown.fit, ?_, ?_, ?_⟩
  · intro other seat' hseat'
    rcases Table.of_find?_insert hseat' with ⟨rfl, rfl⟩ | ⟨hne, hold⟩
    · exact hown
    · exact h.own_of_fair hown.fit (hfair other hne) hold
  · -- either of the two may be the new one
    intro first seat₁ waiter second seat₂ hseat₁ hwaiter hseat₂ hne
    rcases Table.of_find?_insert hseat₁ with ⟨hfirst, rfl⟩ | ⟨hfirst, hold₁⟩ <;>
      rcases Table.of_find?_insert hseat₂ with ⟨hsecond, rfl⟩ | ⟨hsecond, hold₂⟩
    · exact absurd (hsecond.trans hfirst.symm) hne
    · exact fun hsame => hapart second seat₂ waiter hold₂ hsecond hsame hwaiter
    · exact hapart first seat₁ waiter hold₁ hfirst hwaiter
    · exact h.apart first seat₁ waiter second seat₂ hold₁ hwaiter hold₂ hne
  · intro other seat' write hseat' hwrite
    rcases Table.of_find?_insert hseat' with ⟨rfl, rfl⟩ | ⟨hne, hold⟩
    · exact hstands write hwrite
    · exact h.stands_of_fair (hfair other hne) hold hwrite

/-- A seat is given up. -/
theorem erase (h : Sound capacity c) (hfit : l.transport.inner.Fit capacity)
    (hfair : ∀ other, other ≠ handle → c.Fair other l) :
    Sound capacity { link := l, seats := c.seats.erase handle } := by
  refine ⟨hfit, ?_, ?_, ?_⟩
  · intro other seat hseat
    obtain ⟨hne, hold⟩ := Table.of_find?_erase hseat
    exact h.own_of_fair hfit (hfair other hne) hold
  · intro first seat₁ waiter second seat₂ hseat₁ hwaiter hseat₂ hne
    exact h.apart first seat₁ waiter second seat₂ (Table.of_find?_erase hseat₁).2 hwaiter
      (Table.of_find?_erase hseat₂).2 hne
  · intro other seat write hseat hwrite
    obtain ⟨hne, hold⟩ := Table.of_find?_erase hseat
    exact h.stands_of_fair (hfair other hne) hold hwrite

end Sound

/-! ## One move -/

theorem fair_disturb (l : Link Interrupted) (hfit : l.transport.inner.Fit capacity)
    (i : Interruption) (handle : HandleId) (waiter : WaiterId) :
    (disturb l i).transport.inner.Fit capacity ∧ l.Spares handle waiter (disturb l i) := by
  have ht : (disturb l i).transport.inner =
      (Interrupted.interrupt l.transport.inner [i]).1 := by
    simp [disturb]
  let l₁ : Link Interrupted :=
    { l with transport.inner := (Interrupted.interrupt l.transport.inner [i]).1 }
  have hkeeps : l.shared.Keeps handle waiter (disturb l i).shared :=
    l₁.keeps_raiseAll (Interrupted.interrupt l.transport.inner [i]).2
  refine ⟨?_, hkeeps, ?_, ?_⟩
  · rw [ht]
    exact Interrupted.fit_interrupt hfit [i]
  · rw [ht]
    exact Interrupted.pending_interrupt_le l.transport.inner [i] handle
  · rw [ht]
    rcases Interrupted.interrupt_wakes hfit.told [i] handle with heq | hwakes
    · exact .inl heq
    · refine .inr fun ha hw => ?_
      have ha₁ : l₁.shared.Alive waiter := ha
      exact Link.awake_raiseAll hwakes ha₁ hw

/-- A writer that is dropped takes along what is its own. -/
theorem spares_close {handle : HandleId} {waiter : WaiterId} {s : Session Interrupted}
    (hboard : s.writer.board = .shared) (hne : s.writer.handle ≠ handle)
    (hwaiter : s.writer.waiter ≠ some waiter) : s.link.Spares handle waiter s.close := by
  refine .of_transport s.transport_close ?_
  unfold Session.close
  split
  · exact .refl _
  · rename_i gone hgone
    rw [hboard]
    refine (AckBoard.keeps_detach _ hne).trans (AckBoard.keeps_closeMailbox _ ?_)
    rintro rfl
    exact hwaiter hgone

/-- What a writer does takes nothing from the waiters of others. -/
theorem passes_of_follows {capacity : Nat} {handle : HandleId} {waiter : WaiterId}
    {d d' : Course Interrupted} {deed : Deed} (h : d.Follows deed d')
    (hwaits : ∀ p, d.current = some p → d.session.writer.waiter = some p.wait.waiter) :
    d.session.Passes capacity handle waiter d'.session := by
  cases h with
  | edits => exact .of_transport rfl rfl rfl rfl fun _ => .refl _
  | heads _ hheads => exact hheads.passes
  | flushes _ hflush => exact hflush.passes
  | writes _ hwrites =>
    rw [Course.session_settle]
    exact hwrites.passes
  | resumes hcurrent hresumes =>
    rw [Course.session_settle]
    exact hresumes.passes (hwaits _ hcurrent)
  | drops => exact .refl _
  | idles => exact .refl _
  | busy => exact .refl _

/-- A write that a writer leaves waiting may wait. -/
theorem stands_of_follows {capacity : Nat} {handle : HandleId} {d d' : Course Interrupted}
    {deed : Deed} (h : d.Follows deed d') (ho : d.session.Own capacity handle)
    (hstands : ∀ p, d.current = some p → d.session.Stands capacity handle p) :
    d'.session.Own capacity handle ∧
      ∀ p, d'.current = some p → d'.session.Stands capacity handle p := by
  have hnone {s : Session Interrupted} (hcurrent : d.current = none) (p : PendingWrite)
      (hp : d.current = some p) : s.Stands capacity handle p := by
    rw [hcurrent] at hp
    cases hp
  cases h with
  | edits hcurrent => exact ⟨⟨ho.fit, ho.handle_eq, ho.board_eq, ho.alive⟩, hnone hcurrent⟩
  | heads hcurrent hheads => exact ⟨hheads.own ho, hnone hcurrent⟩
  | flushes hcurrent hflush => exact ⟨hflush.own ho, hnone hcurrent⟩
  | writes _ hwrites =>
    simp only [Course.session_settle, Course.current_settle]
    exact hwrites.stands ho
  | resumes hcurrent hresumes =>
    simp only [Course.session_settle, Course.current_settle]
    exact hresumes.stands ho (hstands _ hcurrent)
  | drops => exact ⟨ho, nofun⟩
  | idles => exact ⟨ho, hstands⟩
  | busy => exact ⟨ho, hstands⟩

variable {capacity : Nat} {c : Writers} {handle : HandleId}

/-- The writer of another handle is apart from the waiter, also with interruptions ahead. -/
theorem Sound.apart_foresee (h : Sound capacity c) {other : HandleId} {seat seat' : ActiveWriter}
    {waiter : WaiterId} (hseat : c.seats.find? handle = some seat)
    (hwaiter : seat.writer.waiter = some waiter) (hseat' : c.seats.find? other = some seat')
    (hne : other ≠ handle) (during : List Interruptions) :
    (⟨seat'.writer, foresee c.link during⟩ : Session Interrupted).Apart capacity handle waiter := by
  have ho := h.own other seat' hseat'
  have ha := (h.own handle seat hseat).alive waiter hwaiter
  refine ⟨h.fit, ?_, ho.board_eq, ?_, ⟨ha.number_lt, ha.isSome⟩⟩
  · show seat'.writer.handle ≠ handle
    rw [ho.handle_eq]
    exact hne
  · exact h.apart handle seat waiter other seat' hseat hwaiter hseat' hne

/-- It stays apart whatever it does, and takes nothing from the waiter. -/
theorem Sound.apart_does (h : Sound capacity c) {other : HandleId} {seat seat' : ActiveWriter}
    {waiter : WaiterId} (hseat : c.seats.find? handle = some seat)
    (hwaiter : seat.writer.waiter = some waiter) (hseat' : c.seats.find? other = some seat')
    (hne : other ≠ handle) (deed : Deed) (during : List Interruptions) :
    ((course seat' (foresee c.link during)).does deed).session.Apart capacity handle waiter ∧
      c.link.Spares handle waiter
        ((course seat' (foresee c.link during)).does deed).session.link := by
  have hforesee : c.link.Spares handle waiter (foresee c.link during) :=
    ⟨.refl _, Nat.le_refl _, .inl rfl⟩
  have hwaits (p : PendingWrite) (hp : seat'.waits = some p) :
      seat'.writer.waiter = some p.wait.waiter := (h.stands other seat' p hseat' hp).waiter_eq
  have hfollows := (course seat' (foresee c.link during)).follows_does deed
  obtain ⟨hapart, hs⟩ := passes_of_follows hfollows hwaits
    (h.apart_foresee hseat hwaiter hseat' hne during)
  exact ⟨hapart, hforesee.trans hs⟩

/-- The moves of others leave a seat alone, and are fair to who sits there. -/
theorem Sound.fair_act (h : Sound capacity c) {m : Move} (hm : m.actor? ≠ some handle) :
    c.Fair handle (c.act m).link ∧ (c.act m).seats.find? handle = c.seats.find? handle := by
  cases m with
  | join other settings recorder =>
    have hne : other ≠ handle := fun heq => hm (congrArg some heq)
    simp only [act]
    split
    · exact ⟨fun _ _ _ _ => .refl _, rfl⟩
    · exact ⟨fun _ _ _ _ => .refl _, by rw [Table.find?_insert, if_neg hne]⟩
  | leave other =>
    have hne : other ≠ handle := fun heq => hm (congrArg some heq)
    simp only [act]
    split
    · exact ⟨fun _ _ _ _ => .refl _, rfl⟩
    · rename_i seat' hseat'
      refine ⟨fun seat waiter hseat hwaiter => ?_, by rw [Table.find?_erase, if_neg hne]⟩
      have ha := h.apart_foresee hseat hwaiter hseat' hne []
      exact spares_close (h.own other seat' hseat').board_eq ha.handle_ne ha.waiter_ne
  | does other deed during =>
    have hne : other ≠ handle := fun heq => hm (congrArg some heq)
    simp only [act]
    split
    · exact ⟨fun _ _ _ _ => .refl _, rfl⟩
    · rename_i seat' hseat'
      refine ⟨fun seat waiter hseat hwaiter => ?_, by rw [Table.find?_insert, if_neg hne]⟩
      exact (h.apart_does hseat hwaiter hseat' hne deed during).2
  | outside i =>
    exact ⟨fun seat waiter _ _ => (fair_disturb c.link h.fit i handle waiter).2, rfl⟩

theorem Sound.own_foresee (h : Sound capacity c) {seat : ActiveWriter}
    (hseat : c.seats.find? handle = some seat) (during : List Interruptions) :
    (⟨seat.writer, foresee c.link during⟩ : Session Interrupted).Own capacity handle := by
  have ho := h.own handle seat hseat
  exact ⟨h.fit, ho.handle_eq, ho.board_eq, fun waiter hwaiter =>
    ⟨(ho.alive waiter hwaiter).number_lt, (ho.alive waiter hwaiter).isSome⟩⟩

theorem Sound.stands_foresee (h : Sound capacity c) {seat : ActiveWriter} {write : PendingWrite}
    (hseat : c.seats.find? handle = some seat) (hwrite : seat.waits = some write)
    (during : List Interruptions) :
    (⟨seat.writer, foresee c.link during⟩ : Session Interrupted).Stands capacity handle write := by
  have hs := h.stands handle seat write hseat hwrite
  exact ⟨hs.waiter_eq, hs.chunk_pos, hs.lt, ⟨hs.safe.armed, hs.safe.awake_or_full⟩⟩

/-- No move does away with what holds. -/
theorem Sound.act (h : Sound capacity c) (m : Move) : Sound capacity (c.act m) := by
  have hfair (handle : HandleId) (hm : m.actor? = some handle) (other : HandleId)
      (hne : other ≠ handle) : c.Fair other (c.act m).link :=
    (h.fair_act fun heq => hne (Option.some.inj (heq.symm.trans hm))).1
  cases m with
  | join handle settings recorder =>
    have hfair := hfair handle rfl
    simp only [Writers.act] at hfair ⊢
    split
    · exact h
    · -- a writer that was just made has no waiter yet
      refine h.insert (fun _ _ _ _ _ _ => .refl _) ⟨h.fit, rfl, rfl, ?_⟩ ?_ ?_
      · rintro _ ⟨⟩
      · rintro _ ⟨⟩
      · rintro _ _ _ _ _ _ ⟨⟩
  | leave handle =>
    have hfair := hfair handle rfl
    simp only [Writers.act] at hfair ⊢
    split
    · exact h
    · rename_i seat hseat
      rw [hseat] at hfair
      refine h.erase ?_ hfair
      rw [Session.transport_close]
      exact h.fit
  | does handle deed during =>
    have hfair := hfair handle rfl
    simp only [Writers.act] at hfair ⊢
    split
    · exact h
    · rename_i seat hseat
      rw [hseat] at hfair
      have hown : (course seat (foresee c.link during)).session.Own capacity handle :=
        h.own_foresee hseat during
      have hstands := stands_of_follows (Course.follows_does _ deed) hown
        fun p hp => h.stands_foresee hseat hp during
      refine h.insert hfair hstands.1 hstands.2 ?_
      intro other seat' waiter hseat' hne hwaiter
      exact (h.apart_does hseat' hwaiter hseat hne.symm deed during).1.waiter_ne
  | outside i =>
    have hdisturb (handle : HandleId) (waiter : WaiterId) :=
      fair_disturb c.link h.fit i handle waiter
    exact h.of_fair (hdisturb ⟨0⟩ ⟨0⟩).1 fun handle _ waiter _ _ => (hdisturb handle waiter).2

theorem Sound.run (h : Sound capacity c) (moves : List Move) : Sound capacity (c.run moves) := by
  induction moves generalizing c with
  | nil => exact h
  | cons m rest ih => exact ih (h.act m)

/-! ## A drain wakes who waits -/

/-- While others move, a writer keeps its seat and whatever would wake it. -/
theorem Sound.run_others (h : Sound capacity c) {seat : ActiveWriter} {waiter : WaiterId}
    (hseat : c.seats.find? handle = some seat) (hwaiter : seat.writer.waiter = some waiter)
    {others : List Move} (hothers : ∀ m ∈ others, m.actor? ≠ some handle) :
    (c.run others).seats.find? handle = some seat ∧
      c.link.Spares handle waiter (c.run others).link := by
  induction others generalizing c with
  | nil => exact ⟨hseat, .refl _⟩
  | cons m rest ih =>
    obtain ⟨hfair, hkept⟩ := h.fair_act (hothers m List.mem_cons_self)
    have hrest := ih (h.act m) (hkept.trans hseat) fun m' hm' =>
      hothers m' (List.mem_cons_of_mem _ hm')
    exact ⟨hrest.1, (hfair seat waiter hseat hwaiter).trans hrest.2⟩

/-- A drain leaves the waiter of a full buffer awake, and the buffer empty. -/
theorem Sound.drain (h : Sound capacity c) (hcapacity : 0 < capacity) {seat : ActiveWriter}
    {write : PendingWrite} (hseat : c.seats.find? handle = some seat)
    (hwrite : seat.waits = some write) :
    (c.act (.outside (.drain handle))).link.shared.Awake write.wait.waiter ∧
      ((c.act (.outside (.drain handle))).link.transport.inner.exchange handle).pending = 0 := by
  have hs := h.stands handle seat write hseat hwrite
  have ha := (h.own handle seat hseat).alive _ hs.waiter_eq
  have hspares := (fair_disturb c.link h.fit (.drain handle) handle write.wait.waiter).2
  have hempty : ((disturb c.link (.drain handle)).transport.inner.exchange handle).pending = 0 := by
    have ht : (disturb c.link (.drain handle)).transport.inner =
        (c.link.transport.inner.drain handle).1 := by
      simp [disturb, Interrupted.interrupt]
    rw [ht, Loopback.pending_drain, if_pos rfl]
  refine ⟨?_, hempty⟩
  rcases hs.safe.awake_or_full with hawake | hfull
  · exact hspares.board.awake ha hawake
  · rcases hspares.told with heq | hwoken
    · -- the buffer cannot be full and empty
      rw [hempty, hfull] at heq
      omega
    · exact hwoken ha hs.safe.armed

/-- A write that is awake and finds its buffer empty gets at least one more byte accepted. -/
theorem Sound.resume (h : Sound capacity c) (hcapacity : 0 < capacity) {seat : ActiveWriter}
    {write : PendingWrite} (hseat : c.seats.find? handle = some seat)
    (hwrite : seat.waits = some write) (hawake : c.link.shared.Awake write.wait.waiter)
    (hempty : (c.link.transport.inner.exchange handle).pending = 0) (now : Instant)
    (during : List Interruptions) :
    (c.link.transport.inner.exchange handle).body.size <
      ((c.act (.does handle (.resume now) during)).link.transport.inner.exchange
        handle).body.size := by
  have ho := h.own_foresee hseat during
  have hs := h.stands_foresee hseat hwrite during
  have hresumes := (⟨seat.writer, foresee c.link during⟩ : Session Interrupted).resumes_resume
    now write
  have hgains := hresumes.gains ho hcapacity hempty hs hawake
  have hhandle := (hresumes.stands ho hs).1.handle_eq
  rw [Session.received, Session.received, hhandle, ho.handle_eq] at hgains
  simp only [Writers.act, hseat, course, Course.does, hwrite, Course.session_settle]
  exact hgains

/-- No wake-up is lost. Whenever a write waits and its mailbox is empty, its own waiter is
registered under its handle and the buffer is full. So a drain of the handle puts an acknowledgment
into that mailbox, and when the write is resumed, whatever others did in between, at least one more
byte of it is accepted. -/
theorem registered_of_waits (capacity : Nat) (hcapacity : 0 < capacity) (routing : AckRouting)
    (moves : List Move) (handle : HandleId) (seat : ActiveWriter) (write : PendingWrite)
    (hseat : ((start capacity routing).run moves).seats.find? handle = some seat)
    (hwrite : seat.waits = some write)
    (hempty : ((start capacity routing).run moves).link.shared.take? write.wait.waiter = none) :
    let c := (start capacity routing).run moves
    c.link.shared.registrations.find? handle = some write.wait.waiter ∧
      c.link.shared.mailboxes.find? write.wait.waiter = some .empty ∧
      (c.link.transport.inner.exchange handle).pending = capacity ∧
      ∀ others : List Move, (∀ m ∈ others, m.actor? ≠ some handle) →
        let c' := (c.act (.outside (.drain handle))).run others
        c'.link.shared.take? write.wait.waiter ≠ none ∧
          ∀ now during, (c'.link.transport.inner.exchange handle).body.size <
            ((c'.act (.does handle (.resume now) during)).link.transport.inner.exchange
              handle).body.size := by
  intro c
  have h : Sound capacity c := (sound_start capacity routing).run moves
  have hs := h.stands handle seat write hseat hwrite
  have ha := (h.own handle seat hseat).alive _ hs.waiter_eq
  have hasleep : ¬ c.link.shared.Awake write.wait.waiter :=
    (AckBoard.take?_eq_none_iff ha).1 hempty
  refine ⟨hs.safe.armed.resolve_left hasleep, ?_, hs.safe.awake_or_full.resolve_left hasleep, ?_⟩
  · -- a mailbox from which nothing can be taken may not be missing
    obtain ⟨m, hm⟩ := Option.isSome_iff_exists.1 ha.isSome
    obtain ⟨counts, hbound⟩ := m
    obtain rfl : counts = [] := by
      rcases counts with _ | ⟨count, rest⟩
      · rfl
      · exact absurd ⟨_, hm, List.cons_ne_nil _ _⟩ hasleep
    exact hm
  · intro others hothers c'
    obtain ⟨hawake, hdrained⟩ := h.drain hcapacity hseat hwrite
    have hact := h.act (.outside (.drain handle))
    obtain ⟨hseat', hspares⟩ := hact.run_others hseat hs.waiter_eq hothers
    have hrun : Sound capacity c' := hact.run others
    have ha' := (hact.own handle seat hseat).alive _ hs.waiter_eq
    have hawake' := hspares.board.awake ha' hawake
    have hdrained' := hspares.pending_le
    rw [hdrained] at hdrained'
    refine ⟨fun hnone => ?_, ?_⟩
    · exact (AckBoard.take?_eq_none_iff (hspares.board.alive ha')).1 hnone hawake'
    · exact hrun.resume hcapacity hseat' hwrite hawake' (Nat.le_zero.1 hdrained')

/-- Two writers with short buffers. The first is drained in the midst of an offer, has to wait, is
woken for nothing and waits again. -/
def stale : List Move :=
  [.join ⟨1⟩ { chunkSize := 4 } none, .join ⟨2⟩ { chunkSize := 4 } none,
    .does ⟨1⟩ (.write ⟨0⟩ "abcd".toUTF8) [{ after := [.drain ⟨1⟩] }],
    .does ⟨1⟩ (.write ⟨0⟩ "ef".toUTF8) [], .does ⟨2⟩ (.write ⟨0⟩ "xyz".toUTF8) [],
    .outside (.signal (.ackAll 1)), .does ⟨1⟩ (.resume ⟨0⟩) []]

theorem registered_stale :
    let c := (start 2 .perHandle).run stale
    c.link.shared.registrations.find? ⟨1⟩ = some ⟨0⟩ ∧
      (c.link.transport.inner.exchange ⟨1⟩).pending = 2 ∧
      (c.act (.outside (.drain ⟨1⟩))).link.shared.take? ⟨0⟩ ≠ none := by
  intro c
  have hwaits : (c.seats.find? ⟨1⟩).bind ActiveWriter.waits =
      some ⟨"ef".toUTF8, 0, ⟨⟨0⟩, ⟨0⟩, none⟩⟩ := by decide +kernel
  obtain ⟨seat, hseat, hwrite⟩ := Option.bind_eq_some_iff.1 hwaits
  have hempty : c.link.shared.take? ⟨0⟩ = none := by decide +kernel
  obtain ⟨hregistered, -, hfull, hdrain⟩ := registered_of_waits 2 (by decide) .perHandle stale ⟨1⟩
    seat _ hseat hwrite hempty
  exact ⟨hregistered, hfull, (hdrain [] nofun).1⟩

end Writers

end Sluice
