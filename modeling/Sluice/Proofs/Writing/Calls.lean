import Sluice.Proofs.Writing.Pours

/-!
# What the calls of a writer do

One relation for each call, with a case for each way it can go. A header section does not fit, is
refused by the transport, or is sent; a write fails with its header section or pours its body; a
write that waits goes on, gives up or keeps waiting.
-/
namespace Sluice

/-- The writer with the fields that its header section is sent with. -/
def Writer.prepared (w : Writer) : Writer := { w with fields := w.fields.withContentType }

/-- The writer once its header section went out. -/
def Writer.opened (w : Writer) (status : Http.Status) : Writer :=
  { w.prepared with
    sent := some status
    recorder := w.recorder.map fun r => r.recordFields w.prepared.fields }

namespace Session

variable {τ : Type} [Transport τ]

/-! ## The header section -/

/-- What `writeHeader` can do. -/
inductive Heads (status : Http.Status) (s : Session τ) :
    Session τ → Except WriteError Unit → Prop where
  | repeated {earlier} : s.writer.sent = some earlier →
      Heads status s (s.report (.headersRepeated s.writer.handle status)) (.ok ())
  | unfit {fault} : s.writer.sent = none →
      Layout.measure s.writer.prepared.fields = .error fault →
      Heads status s ⟨s.writer.prepared, s.link⟩ (.error (.fieldTooLarge fault))
  | refused {layout link e} : s.writer.sent = none →
      Layout.measure s.writer.prepared.fields = .ok layout →
      s.link.sendSection s.writer.handle status layout s.writer.prepared.fields.instances =
        (link, .error e) →
      Heads status s ⟨s.writer.prepared, link⟩ (.error (.transport e))
  | sent {layout link} : s.writer.sent = none →
      Layout.measure s.writer.prepared.fields = .ok layout →
      s.link.sendSection s.writer.handle status layout s.writer.prepared.fields.instances =
        (link, .ok ()) →
      Heads status s
        ⟨s.writer.opened status, link.report (.headersSent s.writer.handle status layout)⟩ (.ok ())

theorem heads_writeHeader (s : Session τ) (status : Http.Status) :
    Heads status s (s.writeHeader status).1 (s.writeHeader status).2 := by
  unfold writeHeader
  split
  · rename_i earlier hsent
    exact .repeated hsent
  · rename_i hsent
    dsimp only
    split
    · rename_i fault hmeasure
      exact .unfit hsent hmeasure
    · rename_i layout hmeasure
      split
      · rename_i link e hsend
        exact .refused hsent hmeasure hsend
      · rename_i link hsend
        exact .sent hsent hmeasure hsend

/-- After a call that succeeds the header section is out. -/
theorem Heads.sent_ne_none {status : Http.Status} {s s' : Session τ}
    (h : Heads status s s' (.ok ())) : s'.writer.sent ≠ none := by
  cases h with
  | repeated hearlier =>
    show s.writer.sent ≠ none
    rw [hearlier]
    exact Option.some_ne_none _
  | sent => exact Option.some_ne_none _

/-- An attempt at a header section does not run out of time. -/
theorem Heads.ne_ackTimeout {status : Http.Status} {s s' : Session τ}
    {result : Except WriteError Unit} (h : Heads status s s' result) (waited : Duration) :
    result ≠ .error (.ackTimeout waited) := by
  cases h <;> nofun

/-- A header section that goes out is what the transport holds then, and the body is empty. -/
theorem Heads.received_eq [Transport.Faithful τ] {status : Http.Status} {s s' : Session τ}
    (h : Heads status s s' (.ok ())) (hsent : s.writer.sent = none) :
    s'.received = Received.ofHeader status s.writer.prepared.fields := by
  cases h with
  | repeated hearlier =>
    rw [hearlier] at hsent
    cases hsent
  | @sent layout link _ _ hsend =>
    have hreceived := Transport.received_sendSection s.link.transport s.writer.handle status layout
      s.writer.prepared.fields
    rw [(Link.sendSection_eq_iff.1 hsend).1] at hreceived
    exact hreceived rfl

/-- What `flush` can do: nothing, or send the header section with status 200. -/
inductive Flushes (s : Session τ) : Session τ → Except WriteError Unit → Prop where
  | already {status} : s.writer.sent = some status → Flushes s s (.ok ())
  | heads {s' result} : s.writer.sent = none → Heads .ok s s' result → Flushes s s' result

theorem flushes_flush (s : Session τ) : Flushes s s.flush.1 s.flush.2 := by
  cases hsent : s.writer.sent with
  | some status =>
    simp only [flush, hsent]
    exact .already hsent
  | none =>
    simp only [flush, hsent]
    exact .heads hsent (s.heads_writeHeader .ok)

theorem Flushes.sent_ne_none {s s' : Session τ} (h : Flushes s s' (.ok ())) :
    s'.writer.sent ≠ none := by
  cases h with
  | already hsent =>
    rw [hsent]
    exact Option.some_ne_none _
  | heads _ hheads => exact hheads.sent_ne_none

theorem Flushes.ne_ackTimeout {s s' : Session τ} {result : Except WriteError Unit}
    (h : Flushes s s' result) (waited : Duration) : result ≠ .error (.ackTimeout waited) := by
  cases h with
  | already => nofun
  | heads _ hheads => exact hheads.ne_ackTimeout waited

/-! ## Bodies -/

/-- What `write` can do. -/
inductive Writes (now : Instant) (body : ByteArray) (s : Session τ) :
    Session τ → Progress → Prop where
  | failed {s' e} : Flushes s s' (.error e) → Writes now body s s' (.finished (.error e))
  | pours {s₁ s' p} : Flushes s s₁ (.ok ()) → Pours now body s₁ 0 s' p → Writes now body s s' p

theorem writes_write (s : Session τ) (now : Instant) (body : ByteArray) :
    Writes now body s (s.write now body).1 (s.write now body).2 := by
  have hflush := s.flushes_flush
  revert hflush
  rcases hcall : s.flush with ⟨s₁, e | ⟨⟨⟩⟩⟩ <;> intro hflush
  · simp only [write, hcall]
    exact .failed hflush
  · simp only [write, hcall]
    exact .pours hflush (pours_pour now s₁ body 0)

theorem Writes.body_eq {now : Instant} {body : ByteArray} {s s' : Session τ} {p : Progress}
    (h : Writes now body s s' p) {write : PendingWrite} (hp : p = .suspended write) :
    write.body = body := by
  cases h with
  | failed => cases hp
  | pours _ hpours => exact hpours.body_eq hp

/-- How a wait can end. A count that is there wins over the time. -/
inductive WaitEnds (now : Instant) (write : PendingWrite) (s : Session τ) :
    AckBoard → Except WriteError Nat → Prop where
  | told {count board} :
      (s.link.board s.writer.board).take? write.wait.waiter = some (count, board) →
      WaitEnds now write s board (.ok count)
  | late {waited} : (s.link.board s.writer.board).take? write.wait.waiter = none →
      write.wait.expired now = some waited →
      WaitEnds now write s (s.link.board s.writer.board) (.error (.ackTimeout waited))

omit [Transport τ] in
theorem ends_of_waitEnds? {now : Instant} {write : PendingWrite} {s : Session τ} {board : AckBoard}
    {outcome : Except WriteError Nat} (h : s.waitEnds? now write = some (board, outcome)) :
    WaitEnds now write s board outcome := by
  unfold waitEnds? Wait.poll? at h
  split at h
  · rename_i count b htake
    cases h
    exact .told htake
  · rename_i hnone
    obtain ⟨waited, hexpired, hlate⟩ := Option.map_eq_some_iff.1 h
    cases hlate
    exact .late hnone hexpired

/-- What `resume` can do. -/
inductive Resumes (now : Instant) (write : PendingWrite) (s : Session τ) :
    Session τ → Progress → Prop where
  | waits : s.waitEnds? now write = none → Resumes now write s s (.suspended write)
  | gaveUp {board e} : s.waitEnds? now write = some (board, .error e) →
      Resumes now write s
        (({ s with link := s.link.setBoard s.writer.board board } : Session τ).giveUp write e)
        (.finished (.error e))
  | pours {board ready s' p} : s.waitEnds? now write = some (board, .ok ready) →
      Pours now write.body
        (({ s with link := s.link.setBoard s.writer.board board } : Session τ).report
          (.ackReceived s.writer.handle ready)) write.written s' p →
      Resumes now write s s' p

theorem resumes_resume (s : Session τ) (now : Instant) (write : PendingWrite) :
    Resumes now write s (s.resume now write).1 (s.resume now write).2 := by
  rcases hends : s.waitEnds? now write with _ | ⟨board, e | ready⟩
  · simp only [resume, hends]
    exact .waits hends
  · simp only [resume, hends]
    exact .gaveUp hends
  · simp only [resume, hends]
    exact .pours hends (pours_pour ..)

theorem Resumes.body_eq {now : Instant} {write : PendingWrite} {s s' : Session τ} {p : Progress}
    (h : Resumes now write s s' p) {write' : PendingWrite} (hp : p = .suspended write') :
    write'.body = write.body := by
  cases h with
  | waits =>
    cases hp
    rfl
  | gaveUp => cases hp
  | pours _ hpours => exact hpours.body_eq hp

/-! ## Recordings -/

/-- The session whose writer has taken the fields of a recording. -/
def withFields (s : Session τ) (r : Recording) : Session τ :=
  { s with writer.fields := s.writer.fields.extend r.fields }

/-- What `replay` can do. -/
inductive Replays (now : Instant) (r : Recording) (s : Session τ) :
    Session τ → Progress → Prop where
  | failed {s' e} : Heads r.status (s.withFields r) s' (.error e) →
      Replays now r s s' (.finished (.error e))
  | bare {s'} : Heads r.status (s.withFields r) s' (.ok ()) → r.body.size = 0 →
      Replays now r s s' (.finished (.ok 0))
  | writes {s₁ s' p} : Heads r.status (s.withFields r) s₁ (.ok ()) → r.body.size ≠ 0 →
      Writes now r.body s₁ s' p → Replays now r s s' p

theorem replays_replay (s : Session τ) (now : Instant) (r : Recording) :
    Replays now r s (s.replay now r).1 (s.replay now r).2 := by
  have hheads := (s.withFields r).heads_writeHeader r.status
  unfold replay
  rw [← withFields]
  dsimp only
  revert hheads
  rcases (s.withFields r).writeHeader r.status with ⟨s₁, e | ⟨⟨⟩⟩⟩ <;> intro hheads
  · exact .failed hheads
  · dsimp only
    split
    · rename_i hempty
      exact .bare hheads hempty
    · rename_i hbody
      exact .writes hheads hbody (s₁.writes_write now r.body)

end Session

end Sluice
