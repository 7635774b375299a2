import Mathlib.Data.List.Induction
import Sluice.Proofs.Writing.Effort

/-!
# When a wait runs out of time

A write that runs out of time has waited in vain: from some moment on it was suspended, its mailbox
stayed empty, and the last look at it came when its timer had gone off. The timer runs for the whole
milliseconds of the time that the writer was given, and goes off at a whole millisecond of the
clock. So a wait lasts for that time if it is a number of whole milliseconds, and else it may fall
short of it by less than one.
-/
namespace Sluice

/-- What a writer makes of a time limit: its whole milliseconds, as far as a word can count them. -/
def Duration.granted (d : Duration) : Duration := .ofMillis (min d.wholeMillis Document.maxWord)

theorem Duration.granted_le (d : Duration) : d.granted.nanos ≤ d.nanos := by
  simp only [granted, ofMillis, wholeMillis]
  omega

/-- The timer goes off when one for the whole time would, if not before. -/
theorem Duration.timer_granted_le (d : Duration) (t : Instant) : t.timer d.granted ≤ t.timer d :=
  Instant.timer_le_timer (Nat.add_le_add_left d.granted_le _)

/-- What is cut off is less than a millisecond, of a time whose end a timer can be set to. -/
theorem Duration.after_le_timer_granted {d : Duration} {t : Instant}
    (h : t.after d ≤ Instant.lastTimer) :
    t.after d ≤ (t.timer d.granted).after Instant.graduation := by
  have hearlier : t.after d.granted ≤ t.after d := Nat.add_le_add_left d.granted_le _
  have htimer : t.after d.granted ≤ t.timer d.granted :=
    Instant.after_le_timer (Nat.le_trans hearlier h)
  have hcut : d.nanos ≤ d.granted.nanos + 999999 := by
    simp only [Instant.le_def, Instant.after, Instant.lastTimer, Nat.pow_eq] at h
    simp only [granted, ofMillis, wholeMillis, Document.maxWord]
    omega
  simp only [Instant.le_def, Instant.after, Instant.graduation] at htimer ⊢
  omega

/-- Nothing is cut off a number of whole milliseconds that a timer can be set to. -/
theorem Duration.granted_eq_self {d : Duration} (h : d.nanos % 1000000 = 0)
    (hle : d.nanos ≤ Instant.lastTimer.nanos) : d.granted = d := by
  have hword : d.wholeMillis ≤ Document.maxWord := by
    simp only [wholeMillis, Instant.lastTimer, Document.maxWord, Nat.pow_eq] at hle ⊢
    omega
  obtain ⟨n⟩ := d
  rw [granted, Nat.min_eq_left hword]
  simp only [ofMillis, wholeMillis, mk.injEq] at h ⊢
  omega

theorem ackTimeout_withAckTimeout (settings : WriterSettings) (d : Duration) :
    (settings.withAckTimeout d).ackTimeout = some d.granted := rfl

namespace Session

variable {τ : Type} [Transport τ] {s s' : Session τ} {now : Instant} {body : ByteArray}
  {p : Progress} {write : PendingWrite}

theorem Writes.wait_eq (h : Writes now body s s' p) (hp : p = .suspended write) :
    write.wait.since = now ∧ write.wait.limit = s'.writer.settings.ackTimeout := by
  cases h with
  | failed => cases hp
  | pours _ hpours => exact hpours.wait_eq hp

/-- A write does not run out of time when it is called. -/
theorem Writes.ne_ackTimeout (h : Writes now body s s' p) (waited : Duration) :
    p ≠ .finished (.error (.ackTimeout waited)) := by
  cases h with
  | @failed _ e hflush =>
    intro hp
    cases hp
    exact hflush.ne_ackTimeout waited rfl
  | pours _ hpours => exact hpours.ne_error _

end Session

namespace TracedWrite

variable {τ : Type}

/-- What others do puts counts into mailboxes, and takes none out. -/
def Move.Posts : Move τ → Prop
  | .resume _ => True
  | .others change => ∀ l name waiter,
      (Link.board l name).counts waiter <+: ((change l).board name).counts waiter

/-- The moves end with a look at the write at this moment. Without any it is that of the call. -/
def EndsAt (now : Instant) (moves : List (Move τ)) (t : Instant) : Prop :=
  (Move.resume now :: moves).getLast? = some (.resume t)

theorem endsAt_concat (now : Instant) (moves : List (Move τ)) (t : Instant) :
    EndsAt now (moves ++ [.resume t]) t := by
  rw [EndsAt, ← List.cons_append, List.getLast?_concat]

variable [Transport τ]

theorem run_concat (h : TracedWrite τ) (moves : List (Move τ)) (move : Move τ) :
    h.run (moves ++ [move]) = (h.run moves).act move :=
  h.run_append moves [move]

/-- What a move can come to. -/
inductive Follows (h : TracedWrite τ) : Move τ → TracedWrite τ → Prop where
  | others {change} :
      Follows h (.others change) { h with session.link := change h.session.link }
  /-- There is nothing to carry on. -/
  | rests {t} : (∀ write, h.progress ≠ .suspended write) → Follows h (.resume t) h
  | carries {t write s' p} : h.progress = .suspended write → h.session.Resumes t write s' p →
      Follows h (.resume t) (of h.session h.calls (s', p))

theorem follows_act (h : TracedWrite τ) (move : Move τ) : h.Follows move (h.act move) := by
  cases move with
  | others change => exact .others
  | resume t =>
    cases hprogress : h.progress with
    | suspended write =>
      simp only [act, hprogress]
      exact .carries hprogress (h.session.resumes_resume t write)
    | _ =>
      simp only [act, hprogress]
      refine .rests fun write hwrite => ?_
      rw [hprogress] at hwrite
      cases hwrite

variable {h₀ h h' : TracedWrite τ} {now t : Instant} {first waiting moves : List (Move τ)}
  {move : Move τ}
  {write : PendingWrite} {waited : Duration}

omit [Transport τ] in
/-- What others do takes nothing out of the mailbox of the write. -/
theorem mail_prefix_others {change : Link (Tapped τ) → Link (Tapped τ)}
    (hposts : (Move.others change).Posts) (h : TracedWrite τ) :
    h.mail <+: ({ h with session.link := change h.session.link } : TracedWrite τ).mail := by
  show h.session.writer.waiter.elim [] _ <+: h.session.writer.waiter.elim [] _
  cases h.session.writer.waiter with
  | none => exact List.prefix_rfl
  | some waiter => exact hposts h.session.link h.session.writer.board waiter

/-- A write that waits after a move either began to wait with it, or waits on, and then nothing is
gone from its mailbox. -/
theorem Follows.waits (hfollows : h.Follows move h') (hposts : move.Posts)
    (hprogress : h'.progress = .suspended write) :
    move = .resume write.wait.since ∨ h.progress = .suspended write ∧ h.mail <+: h'.mail := by
  cases hfollows with
  | others => exact .inr ⟨hprogress, mail_prefix_others hposts h⟩
  | rests hnone => exact absurd hprogress (hnone write)
  | carries hwas hresumes =>
    change _ = Progress.suspended write at hprogress
    cases hresumes with
    | waits =>
      cases hprogress
      exact .inr ⟨hwas, List.prefix_rfl⟩
    | gaveUp => cases hprogress
    | pours _ hpours =>
      obtain ⟨hsince, -⟩ := hpours.wait_eq hprogress
      exact .inl (by rw [hsince])

/-- A write that runs out of time with a move has waited until then, at an empty mailbox. -/
theorem Follows.late (hfollows : h.Follows move h')
    (hwaiter : ∀ write, h.progress = .suspended write →
      h.session.writer.waiter = some write.wait.waiter)
    (hresult : h'.result? = some (.error (.ackTimeout waited))) :
    h.result? = some (.error (.ackTimeout waited)) ∨
      ∃ last write, move = .resume last ∧ h.progress = .suspended write ∧ h.mail = [] ∧
        write.wait.limit = some waited ∧ write.wait.since.timer waited ≤ last := by
  cases hfollows with
  | others => exact .inl hresult
  | rests => exact .inl hresult
  | @carries last write _ _ hwas hresumes =>
    refine .inr ⟨last, write, rfl, hwas, ?_⟩
    cases hresumes with
    | waits => cases hresult
    | @gaveUp board e hends =>
      cases hresult
      obtain ⟨hmail, -⟩ := Session.mail_of_late (hwaiter write hwas) hends
      refine ⟨hmail, ?_⟩
      cases Session.ends_of_waitEnds? hends with
      | late _ hexpired =>
        obtain ⟨hlimit, htimer⟩ := Option.filter_eq_some_iff.1 hexpired
        exact ⟨hlimit, of_decide_eq_true htimer⟩
    | pours _ hpours =>
      unfold result? at hresult
      split at hresult
      · rename_i result hp
        cases hresult
        exact absurd hp (hpours.ne_error _)
      · cases hresult

/-! ## What a wait goes through -/

/-- The write waits at the end of the moves, and did so through all the waiting ones. What came into
its mailbox meanwhile lies there still. -/
structure Waits (h₀ : TracedWrite τ) (now : Instant) (first waiting : List (Move τ))
    (write : PendingWrite) : Prop where
  since : EndsAt now first write.wait.since
  suspended : ∀ mid, mid <+: waiting → (h₀.run (first ++ mid)).progress = .suspended write
  keeps_mail : ∀ mid, mid <+: waiting →
    (h₀.run (first ++ mid)).mail <+: (h₀.run (first ++ waiting)).mail

/-- A wait that has just begun. -/
theorem waits_nil (hsince : EndsAt now first write.wait.since)
    (hprogress : (h₀.run first).progress = .suspended write) : Waits h₀ now first [] write := by
  refine ⟨hsince, fun mid hmid => ?_, fun mid hmid => ?_⟩ <;> obtain rfl := List.prefix_nil.1 hmid
  · rwa [List.append_nil]
  · exact List.prefix_rfl

/-- The write waits through one more move. -/
theorem Waits.concat (hwaits : Waits h₀ now first waiting write)
    (hprogress : (h₀.run (first ++ (waiting ++ [move]))).progress = .suspended write)
    (hmail : (h₀.run (first ++ waiting)).mail <+: (h₀.run (first ++ (waiting ++ [move]))).mail) :
    Waits h₀ now first (waiting ++ [move]) write := by
  refine ⟨hwaits.since, fun mid hmid => ?_, fun mid hmid => ?_⟩ <;>
    rcases List.prefix_concat_iff.1 hmid with rfl | hmid
  · exact hprogress
  · exact hwaits.suspended mid hmid
  · exact List.prefix_rfl
  · exact (hwaits.keeps_mail mid hmid).trans hmail

/-- A write that waits has done so since its wait began. -/
theorem waits_run (s : Session (Tapped τ)) (now : Instant) (body : ByteArray)
    {moves : List (Move τ)} (hposts : ∀ move ∈ moves, move.Posts)
    (hprogress : ((start s now body).run moves).progress = .suspended write) :
    ∃ first waiting, moves = first ++ waiting ∧
      Waits (start s now body) now first waiting write := by
  induction moves using List.reverseRecOn with
  | nil =>
    obtain ⟨hsince, -⟩ := (s.writes_write now body).wait_eq hprogress
    exact ⟨[], [], rfl, waits_nil (by rw [hsince]; rfl) hprogress⟩
  | append_singleton moves move ih =>
    have hfollows := ((start s now body).run moves).follows_act move
    rw [← run_concat] at hfollows
    rcases hfollows.waits (hposts move List.mem_concat_self) hprogress with rfl | ⟨hwas, hmail⟩
    · exact ⟨_, [], (List.append_nil _).symm, waits_nil (endsAt_concat ..) hprogress⟩
    · obtain ⟨first, waiting, rfl, hwaits⟩ :=
        ih (fun m hm => hposts m (List.mem_append_left _ hm)) hwas
      rw [List.append_assoc] at hprogress hmail ⊢
      exact ⟨first, waiting ++ [move], rfl, hwaits.concat hprogress hmail⟩

/-- A write that ran out of time did so at the last look at a wait. -/
theorem late_run (s : Session (Tapped τ)) (now : Instant) (body : ByteArray)
    (hresult : ((start s now body).run moves).result? = some (.error (.ackTimeout waited))) :
    ∃ before last rest write, moves = before ++ .resume last :: rest ∧
      ((start s now body).run before).progress = .suspended write ∧
      ((start s now body).run before).mail = [] ∧ write.wait.limit = some waited ∧
      write.wait.since.timer waited ≤ last := by
  induction moves using List.reverseRecOn with
  | nil =>
    refine absurd ?_ ((s.writes_write now body).ne_ackTimeout waited)
    change TracedWrite.result? (of s [] (s.write now body)) = _ at hresult
    unfold result? at hresult
    split at hresult
    · rename_i result hp
      cases hresult
      exact hp
    · cases hresult
  | append_singleton moves move ih =>
    have hfollows := ((start s now body).run moves).follows_act move
    rw [← run_concat] at hfollows
    rcases hfollows.late ((offersPaid_start s now body).run moves).waits hresult with
      hearlier | ⟨last, write, rfl, hwas, hmail, hlimit, htimer⟩
    · obtain ⟨before, last, rest, write, rfl, hwas⟩ := ih hearlier
      refine ⟨before, last, rest ++ [move], write, ?_, hwas⟩
      rw [List.append_assoc, List.cons_append]
    · exact ⟨moves, last, [], write, rfl, hwas, hmail, hlimit, htimer⟩

/-! ## How long it lasts -/

/-- The limit of a wait is that of the writer. -/
theorem limit_run (s : Session (Tapped τ)) (now : Instant) (body : ByteArray)
    (moves : List (Move τ)) :
    ((start s now body).run moves).session.writer.settings = s.writer.settings ∧
      ∀ write, ((start s now body).run moves).progress = .suspended write →
        write.wait.limit = s.writer.settings.ackTimeout := by
  induction moves using List.reverseRecOn with
  | nil =>
    have hwrites := s.writes_write now body
    obtain ⟨xs, hxs, -⟩ := hwrites.offersPaid
    refine ⟨hxs.settings_eq, fun write hp => ?_⟩
    rw [(hwrites.wait_eq hp).2, hxs.settings_eq]
  | append_singleton moves move ih =>
    obtain ⟨hsettings, hlimit⟩ := ih
    have hfollows := ((start s now body).run moves).follows_act move
    rw [run_concat]
    generalize ((start s now body).run moves).act move = h' at hfollows ⊢
    cases hfollows with
    | others => exact ⟨hsettings, hlimit⟩
    | rests => exact ⟨hsettings, hlimit⟩
    | @carries _ write s' p hwas hresumes =>
      have hpaid := (offersPaid_start s now body).run moves
      obtain ⟨written, hle, -, hwrite⟩ := hpaid.paid
      obtain ⟨rfl, rfl⟩ := hwrite write hwas
      obtain ⟨xs, hxs, -⟩ := hresumes.offersPaid (hpaid.waits write hwas) hle
      have hkept : s'.writer.settings = s.writer.settings := hxs.settings_eq.trans hsettings
      refine ⟨hkept, fun write' hp => ?_⟩
      change p = .suspended write' at hp
      cases hresumes with
      | waits =>
        cases hp
        exact hlimit write hwas
      | gaveUp => cases hp
      | pours _ hpours => rw [(hpours.wait_eq hp).2, hkept]

/-- A wait at an empty mailbox ends with an error as soon as its timer has gone off, and
not before. -/
theorem result?_resume_iff {d : Duration} (hprogress : h.progress = .suspended write)
    (hwaiter : h.session.writer.waiter = some write.wait.waiter) (hmail : h.mail = [])
    (hlimit : write.wait.limit = some d) (t : Instant) :
    (h.act (.resume t)).result? = some (.error (.ackTimeout d)) ↔ write.wait.since.timer d ≤ t := by
  have htake : h.session.ackBoard.take? write.wait.waiter = none := by
    rw [AckBoard.take?_eq_none_iff_counts, ← Session.mail_of_waiter hwaiter]
    exact hmail
  have hends : h.session.waitEnds? t write =
      (write.wait.expired t).map fun d => (h.session.ackBoard, .error (.ackTimeout d)) := by
    rw [Session.ackBoard] at htake ⊢
    simp only [Session.waitEnds?, Wait.poll?, htake]
  by_cases hlate : write.wait.since.timer d ≤ t
  · rw [Wait.expired_of_timer_le hlimit hlate] at hends
    simp [act, hprogress, Session.resume, hends, hlate, of, result?]
  · rw [Wait.expired_of_not_timer_le hlimit hlate] at hends
    simp [act, hprogress, Session.resume, hends, hlate, of, result?]

/-- A write runs out of time no earlier than its writer was told, as far as the clock of the timers
goes, down to whole milliseconds. If it does so then from some moment on it was suspended and its
mailbox empty, up to the look at which its timer had gone off. The timer runs for the whole
milliseconds of the time; if there is nothing else to it, and the timer can be set to its end, then
the wait has lasted for all that time, and if there is, it fell short by less than a millisecond.
And a write that waits at an empty mailbox runs out of time as soon as this timer has gone off,
which is when a timer for all the time would, or before. -/
theorem timer_of_ackTimeout (s : Session (Tapped τ)) (now : Instant) (body : ByteArray)
    {moves : List (Move τ)} (hposts : ∀ move ∈ moves, move.Posts) {settings : WriterSettings}
    {d : Duration} (hsettings : s.writer.settings = settings.withAckTimeout d) :
    let h₀ := start s now body
    let h := h₀.run moves
    (∀ waited, h.result? = some (.error (.ackTimeout waited)) →
      waited = d.granted ∧ ∃ first waiting last rest since,
        moves = first ++ (waiting ++ .resume last :: rest) ∧ EndsAt now first since ∧
        (∀ mid, mid <+: waiting → (h₀.run (first ++ mid)).mail = [] ∧
          ∃ write, (h₀.run (first ++ mid)).progress = .suspended write) ∧
        since.timer d.granted ≤ last ∧
        (since.after d ≤ Instant.lastTimer → since.after d ≤ last.after Instant.graduation ∧
          (d.nanos % 1000000 = 0 → since.after d ≤ last))) ∧
    ∀ write t, h.progress = .suspended write → h.mail = [] →
      ((h.act (.resume t)).result? = some (.error (.ackTimeout d.granted)) ↔
        write.wait.since.timer d.granted ≤ t) ∧
      write.wait.since.timer d.granted ≤ write.wait.since.timer d := by
  intro h₀ h
  have hgranted : s.writer.settings.ackTimeout = some d.granted := by
    rw [hsettings, ackTimeout_withAckTimeout]
  refine ⟨fun waited hresult => ?_, fun write t hprogress hmail => ?_⟩
  · obtain ⟨before, last, rest, write, rfl, hwas, hempty, hlimit, htimer⟩ :=
      late_run s now body hresult
    rw [(limit_run s now body before).2 write hwas, hgranted] at hlimit
    obtain rfl : d.granted = waited := Option.some.inj hlimit
    obtain ⟨first, waiting, rfl, hwaits⟩ :=
      waits_run s now body (fun move hmove => hposts move (List.mem_append_left _ hmove)) hwas
    refine ⟨rfl, first, waiting, last, rest, write.wait.since, List.append_assoc .., hwaits.since,
      fun mid hmid => ⟨?_, write, hwaits.suspended mid hmid⟩, htimer,
      fun hle => ⟨?_, fun hwhole => ?_⟩⟩
    · have hkept := hwaits.keeps_mail mid hmid
      rw [hempty] at hkept
      exact List.prefix_nil.1 hkept
    · exact Nat.le_trans (Duration.after_le_timer_granted hle) (Instant.after_le_after htimer _)
    · have hd : d.nanos ≤ Instant.lastTimer.nanos :=
        Nat.le_trans (Nat.le_add_left ..) (Instant.le_def.1 hle)
      rw [Duration.granted_eq_self hwhole hd] at htimer
      exact Nat.le_trans (Instant.after_le_timer hle) htimer
  · have hlimit := (limit_run s now body moves).2 write hprogress
    have hwaiter := ((offersPaid_start s now body).run moves).waits write hprogress
    exact ⟨result?_resume_iff hprogress hwaiter hmail (hlimit.trans hgranted) t,
      d.timer_granted_le _⟩

/-- A writer at a buffer that is full, with this time for its acknowledgments. -/
def full (d : Duration) : Session (Tapped Loopback) :=
  ⟨{ handle := ⟨1⟩, sent := some .ok, settings := WriterSettings.withAckTimeout {} d },
    { transport := ⟨{ capacity := some 0 }, []⟩ }⟩

/-- The first wait is ended by an acknowledgment that frees nothing. Later ones are for others. The
second wait begins in the middle of a millisecond, so that its timer for five of them goes off half
a millisecond late. -/
def patient : List (Move Loopback) :=
  [.others fun l => l.raise (.ack ⟨1⟩ 1), .resume ⟨2500000⟩, .others fun l => l.raise (.ack ⟨2⟩ 1),
    .resume ⟨7999999⟩, .resume ⟨8000000⟩]

theorem timer_of_ackTimeout_patient :
    let h := (start (full (.ofMillis 5)) .start "a".toUTF8).run patient
    h.result? = some (.error (.ackTimeout (.ofMillis 5))) ∧
      ∃ first waiting last rest since, patient = first ++ (waiting ++ .resume last :: rest) ∧
        EndsAt .start first since ∧ since.after (.ofMillis 5) ≤ last := by
  intro h
  have hposts : ∀ move ∈ patient, move.Posts := by
    intro move hmove
    simp only [patient, List.mem_cons, List.not_mem_nil, or_false] at hmove
    rcases hmove with rfl | rfl | rfl | rfl | rfl
    · exact fun l => l.counts_prefix_raise _
    · trivial
    · exact fun l => l.counts_prefix_raise _
    · trivial
    · trivial
  have hlate : h.result? = some (.error (.ackTimeout (.ofMillis 5))) := by decide +kernel
  obtain ⟨hran, -⟩ := timer_of_ackTimeout (full (.ofMillis 5)) .start "a".toUTF8 hposts rfl
  obtain ⟨-, first, waiting, last, rest, since, hmoves, hends, -, -, hlasted⟩ := hran _ hlate
  refine ⟨hlate, first, waiting, last, rest, since, hmoves, hends, (hlasted ?_).2 (by decide)⟩
  -- the wait began with one of the looks
  have hlook : Move.resume since ∈ Move.resume .start :: patient := by
    rw [hmoves, ← List.cons_append]
    exact List.mem_append_left _ (List.mem_of_getLast? hends)
  simp only [patient, List.mem_cons, Move.resume.injEq, reduceCtorEq, List.not_mem_nil, or_false,
    false_or] at hlook
  rcases hlook with rfl | rfl | rfl | rfl <;> decide +kernel

/-- A time of less than a millisecond is none at all: the write runs out of it as soon as
it waits. -/
theorem ackTimeout_below_millis :
    let h := start (full ⟨999999⟩) .start "a".toUTF8
    h.result? = none ∧ h.mail = [] ∧
      (h.act (.resume .start)).result? = some (.error (.ackTimeout ⟨0⟩)) ∧
      ¬ Instant.start.after ⟨999999⟩ ≤ .start := by
  decide +kernel

end TracedWrite

end Sluice
