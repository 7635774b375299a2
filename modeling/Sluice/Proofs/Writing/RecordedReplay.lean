import Sluice.Proofs.Writing.Course
import Sluice.Proofs.Writing.Recorded
import Sluice.Transport.Obliging
import Sluice.Transport.Tapped

/-!
# A replay that is recorded

A recording is sent again by a writer that records. Unless the wait for an acknowledgment is too
long, what the transport received in the end, and what was recorded of it, is the recording, with a
content type if it had none. To do so once more changes nothing.
-/
namespace Sluice

/-- The recording with the fields that it is sent with. -/
def Recording.prepared (r : Recording) : Recording :=
  { r with fields := r.fields.withContentType }

theorem Recording.prepared_prepared (r : Recording) : r.prepared.prepared = r.prepared :=
  congrArg (fun fields => { r with fields })
    (Fields.withContentType_of_contains r.fields.contains_withContentType)

variable {τ : Type} [Transport τ]

/-! ## How far it came -/

namespace Session

section Faithful

variable [Transport.Faithful τ]

/-- The header section of the recording went out on the handle and these bytes after it, and these
were taken down. -/
structure Repeats (handle : HandleId) (limit : Nat) (r : Recording) (s : Session τ)
    (sent recorded : ByteArray) : Prop where
  handle_eq : s.writer.handle = handle
  sent_eq : s.writer.sent = some r.status
  recorder_eq : s.writer.recorder = some (.active limit (some r.fields) recorded)
  received_eq : s.received = (Received.ofHeader r.status r.fields).append sent

/-- How far the replay is with this progress. It does not fail but for a wait that is too long. -/
inductive Repeated (handle : HandleId) (limit : Nat) (r : Recording) (s : Session τ) :
    Progress → Prop where
  | done : s.Repeats handle limit r r.body r.body →
      Repeated handle limit r s (.finished (.ok r.body.size))
  | late {waited} : Repeated handle limit r s (.finished (.error (.ackTimeout waited)))
  | waits {write : PendingWrite} : write.body = r.body → write.written ≤ r.body.size →
      s.Repeats handle limit r (r.body.extract 0 write.written) .empty →
      Repeated handle limit r s (.suspended write)
  | endless : Repeated handle limit r s .endless

variable {handle : HandleId} {limit : Nat} {r : Recording} {s s₁ s' : Session τ}
  {sent recorded : ByteArray} {now : Instant} {p : Progress}

/-- The writer is as it was, and so is the response. -/
theorem Repeats.of_link {l : Link τ} (h : s.Repeats handle limit r sent recorded)
    (hreceived : Transport.Faithful.received l.transport handle =
      Transport.Faithful.received s.link.transport handle) :
    ({ s with link := l } : Session τ).Repeats handle limit r sent recorded := by
  refine ⟨h.handle_eq, h.sent_eq, h.recorder_eq, ?_⟩
  rw [← h.received_eq, received, received, h.handle_eq]
  exact hreceived

theorem Repeats.accepts {n m : Nat} (h : s.Repeats handle limit r (r.body.extract 0 n) recorded)
    (ha : Accepts r.body s n s₁ m) :
    s₁.Repeats handle limit r (r.body.extract 0 m) recorded where
  handle_eq := ha.alike.handle_eq.trans h.handle_eq
  sent_eq := ha.alike.sent_eq.trans h.sent_eq
  recorder_eq := ha.alike.recorder_eq.trans h.recorder_eq
  received_eq := by
    rw [ha.received, h.received_eq, Received.append_append,
      extract_append_extract_of_le r.body (Nat.zero_le n) ha.le]

/-- A body for which there is room is taken down. -/
theorem Repeats.finishBody (h : s.Repeats handle limit r r.body .empty)
    (hlimit : r.body.size ≤ limit) :
    (s.finishBody r.body).Repeats handle limit r r.body r.body := by
  have hwriter := s.writer_finishBody r.body
  have hrecord : (Recorder.active limit (some r.fields) .empty).recordBody r.body =
      (.active limit (some r.fields) r.body, []) := by
    simp [Recorder.recordBody, Nat.not_lt_of_le hlimit]
  refine ⟨?_, ?_, ?_, ?_⟩
  · rw [hwriter]
    exact h.handle_eq
  · rw [hwriter]
    exact h.sent_eq
  · rw [hwriter]
    simp [h.recorder_eq, hrecord]
  · rw [← h.received_eq]
    simp [received, hwriter]

theorem Pours.repeated {n : Nat} (h : Pours now r.body s n s' p) (hn : n ≤ r.body.size)
    (hs : s.Repeats handle limit r (r.body.extract 0 n) .empty) (hlimit : r.body.size ≤ limit) :
    s'.Repeated handle limit r p := by
  obtain ⟨s₁, m, haccepts, hends⟩ := h.accepts hn
  have hs₁ := hs.accepts haccepts
  cases hends with
  | finished =>
    rw [ByteArray.extract_zero_size] at hs₁
    exact .done (hs₁.finishBody hlimit)
  | suspended hbody hlt => exact .waits hbody (Nat.le_of_lt hlt) hs₁
  | endless => exact .endless

theorem Resumes.repeated {write : PendingWrite} (h : Resumes now write s s' p)
    (hs : s.Repeated handle limit r (.suspended write)) (hlimit : r.body.size ≤ limit) :
    s'.Repeated handle limit r p := by
  cases hs with
  | waits hbody hle hrepeats =>
    cases h with
    | waits => exact .waits hbody hle hrepeats
    | gaveUp hends =>
      cases ends_of_waitEnds? hends with
      | late => exact .late
    | @pours board ready _ _ _ hpours =>
      rw [hbody] at hpours
      -- to take an acknowledgment changes the board only
      exact hpours.repeated hle (hrepeats.of_link (by simp)) hlimit

end Faithful

variable [Transport.Obliging τ] {handle : HandleId} {limit : Nat} {r : Recording}
  {s s' : Session τ} {now : Instant} {p : Progress}

/-- A header section that fits goes out, and its fields are taken down. -/
theorem Heads.repeats {result : Except WriteError Unit} (h : Heads r.status s s' result)
    (hhandle : s.writer.handle = handle) (hsent : s.writer.sent = none)
    (hrecorder : s.writer.recorder = some (.new limit))
    (hfields : s.writer.prepared.fields = r.fields) {layout : Layout}
    (hfits : Layout.measure r.fields = .ok layout) :
    result = .ok () ∧ s'.Repeats handle limit r .empty .empty := by
  have hheads := h
  cases h with
  | repeated hearlier =>
    rw [hsent] at hearlier
    cases hearlier
  | unfit _ hmeasure =>
    rw [hfields, hfits] at hmeasure
    cases hmeasure
  | @refused layout' _ _ _ _ hsend =>
    have hok := Transport.Obliging.sendSection_ok s.link.transport s.writer.handle r.status layout'
      s.writer.prepared.fields.instances
    rw [(Link.sendSection_eq_iff.1 hsend).1] at hok
    cases hok
  | sent =>
    refine ⟨rfl, hhandle, rfl, ?_, ?_⟩
    · simp [Writer.opened, hrecorder, hfields, Recorder.new, Recorder.recordFields]
    · rw [hheads.received_eq hsent, hfields, Received.append_empty]

theorem Replays.repeated (h : Replays now r s s' p) (hhandle : s.writer.handle = handle)
    (hsent : s.writer.sent = none) (hrecorder : s.writer.recorder = some (.new limit))
    (hempty : s.writer.fields = .empty) {layout : Layout}
    (hfits : Layout.measure r.prepared.fields = .ok layout) (hlimit : r.body.size ≤ limit) :
    s'.Repeated handle limit r.prepared p := by
  have hfields : (s.withFields r).writer.prepared.fields = r.prepared.fields := by
    show (s.writer.fields.extend r.fields).withContentType = r.fields.withContentType
    rw [hempty, Fields.empty_extend]
  have hout {s₁ : Session τ} {result : Except WriteError Unit}
      (hheads : Heads r.status (s.withFields r) s₁ result) :
      result = .ok () ∧ s₁.Repeats handle limit r.prepared .empty .empty :=
    Heads.repeats (r := r.prepared) hheads hhandle hsent hrecorder hfields hfits
  cases h with
  | failed hheads => exact absurd (hout hheads).1 nofun
  | bare hheads hbare =>
    have hbody : r.prepared.body = .empty := ByteArray.size_eq_zero_iff.1 hbare
    have hdone := Repeated.done (r := r.prepared) (hbody.symm ▸ (hout hheads).2)
    rw [hbody] at hdone
    exact hdone
  | writes hheads _ hwrites =>
    obtain ⟨-, hrepeats⟩ := hout hheads
    cases hwrites with
    | failed hflush =>
      cases hflush with
      | heads hunsent =>
        rw [hrepeats.sent_eq] at hunsent
        cases hunsent
    | pours hflush hpours =>
      cases hflush with
      | already =>
        exact Pours.repeated (r := r.prepared) hpours (Nat.zero_le _) (by simpa using hrepeats)
          hlimit
      | heads hunsent =>
        rw [hrepeats.sent_eq] at hunsent
        cases hunsent

end Session

/-! ## A replay that is recorded -/

/-- What can happen while a recording is sent again on this handle. -/
inductive Meanwhile (τ : Type) [Transport τ] [Transport.Faithful τ] (handle : HandleId) where
  /-- The replay is looked at, and goes on or ends if it can. -/
  | resume (now : Instant)
  | elsewhere (e : Elsewhere τ handle)

/-- A new writer that sends a recording again and records what it sends. -/
structure RecordedReplay (τ : Type) [Transport τ] [Transport.Faithful τ] where
  handle : HandleId
  board : BoardName := .shared
  settings : WriterSettings := {}
  /-- The longest body that is recorded. -/
  limit : Nat
  link : Link τ
  now : Instant
  /-- What happens after the replay has begun. -/
  meanwhile : List (Meanwhile τ handle)

namespace RecordedReplay

section Faithful

variable [Transport.Faithful τ]

def act {handle : HandleId} (c : Session τ × Progress) (m : Meanwhile τ handle) :
    Session τ × Progress :=
  match m, c with
  | .resume now, (s, .suspended write) => s.resume now write
  | .resume _, (s, p) => (s, p)
  | .elsewhere e, (s, p) => ({ s with link := e.change s.link }, p)

/-- The writer before it is told anything. -/
def opening (x : RecordedReplay τ) : Session τ :=
  (⟨{ handle := x.handle, board := x.board, settings := x.settings }, x.link⟩ : Session τ).record
    x.limit

/-- The replay, as far as it comes. -/
def play (x : RecordedReplay τ) (r : Recording) : Session τ × Progress :=
  x.meanwhile.foldl act (x.opening.replay x.now r)

/-- What the replay returned, once it is over. -/
def result? (x : RecordedReplay τ) (r : Recording) : Option (Except WriteError Nat) :=
  match (x.play r).2 with
  | .finished result => some result
  | _ => none

/-- What the transport holds of the response. -/
def received (x : RecordedReplay τ) (r : Recording) : Received := (x.play r).1.received

/-- What is handed over in the end. -/
def recording? (x : RecordedReplay τ) (r : Recording) : Option Recording :=
  (x.play r).1.takeRecording.2

variable {handle : HandleId} {limit : Nat} {r : Recording}

theorem repeated_act {c : Session τ × Progress} (h : c.1.Repeated handle limit r c.2)
    (m : Meanwhile τ handle) (hlimit : r.body.size ≤ limit) :
    (act c m).1.Repeated handle limit r (act c m).2 := by
  obtain ⟨s, p⟩ := c
  cases m with
  | resume now =>
    cases p with
    | suspended write => exact (s.resumes_resume now write).repeated h hlimit
    | finished result => exact h
    | endless => exact h
  | elsewhere e =>
    cases h with
    | done hrepeats => exact .done (hrepeats.of_link (e.keeps _))
    | late => exact .late
    | waits hbody hle hrepeats => exact .waits hbody hle (hrepeats.of_link (e.keeps _))
    | endless => exact .endless

theorem repeated_foldl {c : Session τ × Progress} (h : c.1.Repeated handle limit r c.2)
    (events : List (Meanwhile τ handle)) (hlimit : r.body.size ≤ limit) :
    (events.foldl act c).1.Repeated handle limit r (events.foldl act c).2 := by
  induction events generalizing c with
  | nil => exact h
  | cons m rest ih => exact ih (repeated_act h m hlimit)

end Faithful

variable [Transport.Obliging τ]

theorem repeated_play (x : RecordedReplay τ) {r : Recording} {layout : Layout}
    (hfits : Layout.measure r.prepared.fields = .ok layout) (hlimit : r.body.size ≤ x.limit) :
    (x.play r).1.Repeated x.handle x.limit r.prepared (x.play r).2 :=
  repeated_foldl
    ((x.opening.replays_replay x.now r).repeated rfl rfl rfl rfl hfits hlimit) x.meanwhile hlimit

/-- A replay that comes to its end has sent the recording and recorded it. -/
theorem eq_prepared_of_result? {x : RecordedReplay τ} {r : Recording} {layout : Layout}
    (hfits : Layout.measure r.prepared.fields = .ok layout) (hlimit : r.body.size ≤ x.limit)
    {result : Except WriteError Nat} (hresult : x.result? r = some result)
    (hintime : ∀ waited, result ≠ .error (.ackTimeout waited)) :
    result = .ok r.body.size ∧ x.received r = r.prepared.received ∧
      x.recording? r = some r.prepared := by
  have hrepeated := x.repeated_play hfits hlimit
  unfold result? at hresult
  cases hp : (x.play r).2 with
  | suspended | endless => simp [hp] at hresult
  | finished ended =>
    rw [hp] at hrepeated hresult
    obtain rfl := Option.some.inj hresult
    cases hrepeated with
    | late => exact absurd rfl (hintime _)
    | done hrepeats =>
      refine ⟨rfl, hrepeats.received_eq, ?_⟩
      simp only [recording?, Session.takeRecording, hrepeats.recorder_eq, hrepeats.sent_eq]
      rfl

/-- To record undoes to replay. Whatever recording is sent again, if its fields fit and there is
room to record its body, then however the buffer fills and drains on the way, unless a wait is too
long the replay ends with all of the body sent. The transport received the status, the fields in
their order, with the default content type last if there was none, and the body; and the recording
that is handed over has the same. To replay and record that one gives it back as it is. -/
theorem recording_regained (x : RecordedReplay τ) (r : Recording) {layout : Layout}
    (hfits : Layout.measure r.fields.withContentType = .ok layout) (hlimit : r.body.size ≤ x.limit)
    {result : Except WriteError Nat} (hresult : x.result? r = some result)
    (hintime : ∀ waited, result ≠ .error (.ackTimeout waited)) :
    let instances :=
      if r.fields.contains .contentType then r.fields.instances
      else r.fields.instances ++ [(.contentType, .defaultContentType)]
    result = .ok r.body.size ∧
      x.received r =
        { status := some r.status, fields := instances.map fun f => (f.1.bytes, f.2.bytes),
          headersSent := true, body := r.body } ∧
      ∃ r', x.recording? r = some r' ∧ r'.status = r.status ∧ r'.fields.instances = instances ∧
        r'.body = r.body ∧
        ∀ again : RecordedReplay τ, r'.body.size ≤ again.limit →
          ∀ result', again.result? r' = some result' →
            (∀ waited, result' ≠ .error (.ackTimeout waited)) →
            result' = .ok r'.body.size ∧ again.received r' = x.received r ∧
              again.recording? r' = some r' := by
  intro instances
  obtain ⟨hok, hreceived, hrecording⟩ := eq_prepared_of_result? hfits hlimit hresult hintime
  have hinstances : r.prepared.fields.instances = instances := r.fields.instances_withContentType
  refine ⟨hok, ?_, r.prepared, hrecording, rfl, hinstances, rfl, ?_⟩
  · rw [hreceived, Recording.received, Received.ofHeader, hinstances]
    simp [Received.append, Recording.prepared]
  · intro again hagain result' hresult' hintime'
    have hfits' : Layout.measure r.prepared.prepared.fields = .ok layout := by
      rw [r.prepared_prepared]
      exact hfits
    obtain ⟨hok', hreceived', hrecording'⟩ :=
      eq_prepared_of_result? hfits' hagain hresult' hintime'
    rw [r.prepared_prepared] at hreceived' hrecording'
    exact ⟨hok', hreceived'.trans hreceived.symm, hrecording'⟩

/-- Two cookies, and no content type. -/
def cookies : Fields :=
  let name : FieldName := ⟨"set-cookie".toUTF8, by decide, by decide, by decide⟩
  ⟨Table.empty.insert name ⟨⟨"a=1".toUTF8, by decide⟩, [⟨"b=2".toUTF8, by decide⟩]⟩⟩

/-- An answer that nobody recorded. -/
def lost : Recording := ⟨{ code := 410 }, cookies, "not a thing".toUTF8⟩

/-- The buffer takes four bytes at a time, and is drained twice. -/
def halting : RecordedReplay Loopback where
  handle := ⟨1⟩
  limit := 11
  link := Course.shortLink
  now := ⟨0⟩
  meanwhile := [.resume ⟨0⟩, .elsewhere (.drain ⟨1⟩ ⟨1⟩), .resume ⟨0⟩,
    .elsewhere (.drain ⟨1⟩ ⟨1⟩), .resume ⟨0⟩]

theorem recording_regained_halting :
    (halting.received lost).body = "not a thing".toUTF8 ∧
      (halting.received lost).fields =
        [("set-cookie".toUTF8, "a=1".toUTF8), ("set-cookie".toUTF8, "b=2".toUTF8),
          ("content-type".toUTF8, "text/html; charset=utf-8".toUTF8)] ∧
      ∃ r', halting.recording? lost = some r' ∧ r'.body = lost.body ∧
        halting.recording? r' = some r' := by
  have hlimit : lost.body.size ≤ halting.limit := by decide
  have hresult : halting.result? lost = some (.ok 11) := by decide +kernel
  obtain ⟨layout, hfits⟩ : ∃ layout, Layout.measure lost.fields.withContentType = .ok layout :=
    ⟨_, rfl⟩
  obtain ⟨-, hreceived, r', hrecording, -, -, hbody, hagain⟩ :=
    recording_regained halting lost hfits hlimit hresult nofun
  have hresult' : halting.result? r' = some (.ok 11) := by
    have hprepared : halting.recording? lost = some lost.prepared := by decide +kernel
    rw [hrecording] at hprepared
    cases hprepared
    decide +kernel
  refine ⟨?_, ?_, r', hrecording, hbody, (hagain halting ?_ _ hresult' nofun).2.2⟩
  · rw [hreceived]
    rfl
  · rw [hreceived]
    decide +kernel
  · rw [hbody]
    exact hlimit

end RecordedReplay

end Sluice
