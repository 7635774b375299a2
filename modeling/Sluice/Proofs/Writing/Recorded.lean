import Sluice.Proofs.Writing.Calls

/-!
# What a recorder takes down

As long as every write runs to its end, a recorder that was not given up holds what the transport
was given: the header section as it was sent, and all of the body but what the last write still has
to finish. Sent again, a recording gives the transport the same.
-/
namespace Sluice

/-- What a transport holds of a response that was sent from the recording. -/
def Recording.received (r : Recording) : Received :=
  (Received.ofHeader r.status r.fields).append r.body

/-- The recorder has taken down what the transport received, but for the last part of the body. -/
structure Writer.Records (w : Writer) (received : Received) (last : ByteArray) : Prop where
  unsent : w.sent = none → last = .empty ∧ ∀ limit fields body,
    w.recorder = some (.active limit fields body) → fields = none ∧ body = .empty
  sent : ∀ status limit fields body, w.sent = some status →
    w.recorder = some (.active limit fields body) →
    ∃ header, fields = some header ∧ header.contains .contentType = true ∧
      received = (Received.ofHeader status header).append (body ++ last)

namespace Session

variable {τ : Type} [Transport τ] [Transport.Faithful τ]

/-- The session's recorder has taken down what the transport received, but for the last part. -/
def Records (s : Session τ) (last : ByteArray) : Prop := s.writer.Records s.received last

variable {s s₁ s' : Session τ}

/-- The recorder, the status and the response are as they were. -/
theorem Records.of_same {last : ByteArray} (h : s.Records last)
    (hsent : s'.writer.sent = s.writer.sent) (hrecorder : s'.writer.recorder = s.writer.recorder)
    (hreceived : s'.received = s.received) : s'.Records last := by
  unfold Records
  rw [hreceived]
  exact ⟨fun h' => hrecorder ▸ h.unsent (hsent ▸ h'), fun _ _ _ _ h' hr =>
    h.sent _ _ _ _ (hsent ▸ h') (hrecorder ▸ hr)⟩

/-- A recorder that has taken down nothing before the header section goes out. -/
theorem Records.of_unsent (hsent : s.writer.sent = none)
    (hrecorder : ∀ limit fields body, s.writer.recorder = some (.active limit fields body) →
      fields = none ∧ body = .empty) : s.Records .empty := by
  refine ⟨fun _ => ⟨rfl, hrecorder⟩, fun _ _ _ _ hstatus => ?_⟩
  rw [hsent] at hstatus
  cases hstatus

/-- More of the body was accepted. -/
theorem Records.accepts {body : ByteArray} {n m : Nat} (h : s.Records (body.extract 0 n))
    (hsent : s.writer.sent ≠ none) (ha : Accepts body s n s₁ m) :
    s₁.Records (body.extract 0 m) := by
  refine ⟨fun hunsent => absurd (ha.alike.sent_eq ▸ hunsent) hsent, ?_⟩
  intro status limit fields recorded hstatus hrecorder
  rw [ha.alike.sent_eq] at hstatus
  rw [ha.alike.recorder_eq] at hrecorder
  obtain ⟨header, hfields, hcontains, hreceived⟩ := h.sent _ _ _ _ hstatus hrecorder
  refine ⟨header, hfields, hcontains, ?_⟩
  rw [ha.received, hreceived, Received.append_append, ByteArray.append_assoc,
    extract_append_extract_of_le body (Nat.zero_le n) ha.le]

/-- A body that ran to its end is taken down, or the recorder is given up. -/
theorem Records.finishBody {body : ByteArray} (h : s.Records body)
    (hsent : s.writer.sent ≠ none) : (s.finishBody body).Records .empty := by
  have hwriter := s.writer_finishBody body
  have hreceived : (s.finishBody body).received = s.received := by
    simp [Session.received, hwriter]
  unfold Records
  rw [hreceived, hwriter]
  refine ⟨fun hunsent => absurd hunsent hsent, ?_⟩
  intro status limit fields recorded hstatus hrecorder
  obtain ⟨r, hr, hactive⟩ := Option.map_eq_some_iff.1 hrecorder
  unfold Recorder.recordBody at hactive
  split at hactive
  · split at hactive
    · cases hactive
    · cases hactive
      obtain ⟨header, hfields, hcontains, hreceived⟩ := h.sent _ _ _ _ hstatus hr
      exact ⟨header, hfields, hcontains, by rw [hreceived, ByteArray.append_empty]⟩
  · cases hactive

/-- What was taken down when a call left the writer with this progress. -/
def Recorded (s : Session τ) : Progress → Prop
  | .finished _ => s.Records .empty
  | .suspended write => s.writer.sent ≠ none ∧ write.written ≤ write.body.size ∧
      s.Records (write.body.extract 0 write.written)
  | .endless => True

theorem Pours.recorded {now : Instant} {body : ByteArray} {n : Nat} {p : Progress}
    (h : Pours now body s n s' p) (hs : s.Records (body.extract 0 n))
    (hsent : s.writer.sent ≠ none) (hn : n ≤ body.size) : s'.Recorded p := by
  obtain ⟨s₁, m, haccepts, hends⟩ := h.accepts hn
  have hs₁ := hs.accepts hsent haccepts
  have hsent₁ : s₁.writer.sent ≠ none := by rwa [haccepts.alike.sent_eq]
  cases hends with
  | finished =>
    rw [ByteArray.extract_zero_size] at hs₁
    exact hs₁.finishBody hsent₁
  | suspended hbody hlt =>
    subst hbody
    exact ⟨hsent₁, Nat.le_of_lt hlt, hs₁⟩
  | endless => exact trivial

theorem Heads.records {status : Http.Status} {result : Except WriteError Unit}
    (h : Heads status s s' result) (hs : s.Records .empty) : s'.Records .empty := by
  have hreceived := h
  cases h with
  | repeated => exact hs.of_same rfl rfl rfl
  | unfit => exact hs.of_same rfl rfl rfl
  | refused hsent =>
    -- nothing counts as sent, whatever the transport was given of it
    refine ⟨fun _ => hs.unsent hsent, fun _ _ _ _ hstatus => ?_⟩
    rw [show (Writer.prepared _).sent = s.writer.sent from rfl, hsent] at hstatus
    cases hstatus
  | sent hsent =>
    refine ⟨nofun, ?_⟩
    intro status' limit fields recorded hstatus hrecorder
    cases hstatus
    obtain ⟨r, hr, hactive⟩ := Option.map_eq_some_iff.1 hrecorder
    rcases r with ⟨limit', fields', recorded'⟩ | _
    · cases hactive
      obtain ⟨_, hempty⟩ := (hs.unsent hsent).2 _ _ _ hr
      refine ⟨s.writer.prepared.fields, rfl, s.writer.fields.contains_withContentType, ?_⟩
      rw [hempty, ByteArray.append_empty, Received.append_empty]
      exact hreceived.received_eq hsent
    · cases hactive

theorem Flushes.records {result : Except WriteError Unit} (h : Flushes s s' result)
    (hs : s.Records .empty) : s'.Records .empty := by
  cases h with
  | already => exact hs
  | heads _ hheads => exact hheads.records hs

theorem Writes.recorded {now : Instant} {body : ByteArray} {p : Progress}
    (h : Writes now body s s' p) (hs : s.Records .empty) : s'.Recorded p := by
  cases h with
  | failed hflush => exact hflush.records hs
  | pours hflush hpours =>
    have hs₁ := hflush.records hs
    exact hpours.recorded (by simpa using hs₁) hflush.sent_ne_none (Nat.zero_le _)

theorem Resumes.recorded {now : Instant} {write : PendingWrite} {p : Progress}
    (h : Resumes now write s s' p) (hs : s.Recorded (.suspended write)) : s'.Recorded p := by
  obtain ⟨hsent, hle, hs⟩ := hs
  cases h with
  | waits => exact ⟨hsent, hle, hs⟩
  | gaveUp =>
    refine ⟨fun hunsent => absurd hunsent hsent, ?_⟩
    intro status limit fields recorded _ hrecorder
    obtain ⟨r, _, hr⟩ := Option.map_eq_some_iff.1 hrecorder
    cases hr
  | @pours board ready _ _ _ hpours =>
    -- to take an acknowledgment changes the board only
    refine hpours.recorded (hs.of_same rfl rfl ?_) hsent hle
    simp [received, report]

/-- A recording that is handed over is what the transport received. -/
theorem Records.take {r : Recording} (h : s.Records .empty)
    (htake : s.takeRecording.2 = some r) :
    s.received = r.received ∧ r.fields.contains .contentType = true ∧
      s.writer.sent = some r.status := by
  obtain ⟨recorder, hrecorder, hfinish⟩ := Option.bind_eq_some_iff.1 htake
  unfold Recorder.finish? at hfinish
  split at hfinish
  · rename_i limit fields body status hstatus
    cases hfinish
    obtain ⟨header, hfields, hcontains, hreceived⟩ := h.sent _ _ _ _ hstatus hrecorder
    cases hfields
    rw [ByteArray.append_empty] at hreceived
    exact ⟨hreceived, hcontains, hstatus⟩
  · cases hfinish

/-! ## Sent again -/

/-- How far the transport received a recording when a call left the writer with this progress. -/
def Replayed (s : Session τ) (r : Recording) : Progress → Prop
  | .finished (.ok _) => s.received = r.received
  | .finished (.error _) => True
  | .suspended write => write.body = r.body ∧ write.written ≤ r.body.size ∧
      s.received = (Received.ofHeader r.status r.fields).append (r.body.extract 0 write.written)
  | .endless => True

theorem Pours.replayed {now : Instant} {r : Recording} {n : Nat} {p : Progress}
    (h : Pours now r.body s n s' p) (hn : n ≤ r.body.size)
    (hs : s.received = (Received.ofHeader r.status r.fields).append (r.body.extract 0 n)) :
    s'.Replayed r p := by
  obtain ⟨s₁, m, haccepts, hends⟩ := h.accepts hn
  have hreceived := haccepts.received
  rw [hs, Received.append_append, extract_append_extract_of_le r.body (Nat.zero_le n) haccepts.le,
    ← hends.received_eq] at hreceived
  cases hends with
  | finished =>
    rw [ByteArray.extract_zero_size] at hreceived
    exact hreceived
  | suspended hwrite hlt => exact ⟨hwrite, Nat.le_of_lt hlt, hreceived⟩
  | endless => exact trivial

/-- A writer that has sent nothing and has no fields of its own sends a recording as it is. -/
theorem Replays.replayed {now : Instant} {r : Recording} {p : Progress}
    (h : Replays now r s s' p) (hsent : s.writer.sent = none) (hfields : s.writer.fields = .empty)
    (hcontains : r.fields.contains .contentType = true) : s'.Replayed r p := by
  have hprepared : (s.withFields r).writer.prepared.fields = r.fields := by
    show (s.writer.fields.extend r.fields).withContentType = r.fields
    rw [hfields, Fields.empty_extend, Fields.withContentType_of_contains hcontains]
  have hheader {s₁ : Session τ} (hheads : Heads r.status (s.withFields r) s₁ (.ok ())) :
      s₁.received = .ofHeader r.status r.fields := by
    rw [← hprepared]
    exact hheads.received_eq hsent
  cases h with
  | failed => exact trivial
  | bare hheads hempty =>
    have hbody : r.body = .empty := ByteArray.size_eq_zero_iff.1 hempty
    show s'.received = r.received
    rw [Recording.received, hbody, Received.append_empty]
    exact hheader hheads
  | writes hheads _ hwrites =>
    cases hwrites with
    | failed => exact trivial
    | pours hflush hpours =>
      cases hflush with
      | already => exact hpours.replayed (Nat.zero_le _) (by simpa using hheader hheads)
      | heads hunsent =>
        -- the header section of the recording went out first
        exact absurd hunsent hheads.sent_ne_none

theorem Resumes.replayed {now : Instant} {write : PendingWrite} {r : Recording} {p : Progress}
    (h : Resumes now write s s' p) (hs : s.Replayed r (.suspended write)) : s'.Replayed r p := by
  obtain ⟨hbody, hle, hreceived⟩ := hs
  cases h with
  | waits => exact ⟨hbody, hle, hreceived⟩
  | gaveUp => exact trivial
  | @pours board ready _ _ _ hpours =>
    rw [hbody] at hpours
    refine hpours.replayed hle ?_
    rw [← hreceived]
    simp [received, report]

end Session

end Sluice
