import Sluice.Proofs.Writing.Course

/-!
# What a recorder misses

A recorder takes down a body when its write has ended, and is given up when a write fails with part
of its body accepted. A write that was dropped is neither, and the recorder does not learn of it.
The recording that is handed over at the end is then what the transport received if and only if
nothing was accepted of the writes that were dropped.
-/
namespace Sluice

theorem foldl_eq_append_joined (first : ByteArray) (parts : List ByteArray) :
    parts.foldl (· ++ ·) first = first ++ joined parts := by
  induction parts generalizing first with
  | nil => simp
  | cons part rest ih =>
    simp only [joined, List.foldl_cons] at *
    rw [ih (first ++ part), ih (.empty ++ part), ByteArray.empty_append, ByteArray.append_assoc]

@[simp] theorem joined_cons (first : ByteArray) (parts : List ByteArray) :
    joined (first :: parts) = first ++ joined parts := by
  rw [joined, List.foldl_cons, ByteArray.empty_append, foldl_eq_append_joined]

section

variable {α : Type} {f g : α → ByteArray} {l : List α}

theorem size_joined_le (h : ∀ a ∈ l, f a = g a ∨ f a = .empty) :
    (joined (l.map f)).size ≤ (joined (l.map g)).size := by
  induction l with
  | nil => exact Nat.le_refl _
  | cons a rest ih =>
    have hrest := ih fun b hb => h b (List.mem_cons_of_mem _ hb)
    simp only [List.map_cons, joined_cons, ByteArray.size_append]
    rcases h a List.mem_cons_self with ha | ha
    · rw [ha]
      omega
    · simp only [ha, ByteArray.size_empty]
      omega

/-- Where some parts are left out the rest is the whole only if those were empty. -/
theorem joined_eq_iff (h : ∀ a ∈ l, f a = g a ∨ f a = .empty) :
    joined (l.map f) = joined (l.map g) ↔ ∀ a ∈ l, f a = g a := by
  refine ⟨fun heq => ?_, fun hall => by rw [List.map_congr_left hall]⟩
  induction l with
  | nil => nofun
  | cons a rest ih =>
    have hrest : ∀ b ∈ rest, f b = g b ∨ f b = .empty := fun b hb => h b (List.mem_cons_of_mem _ hb)
    simp only [List.map_cons, joined_cons] at heq
    have ha : f a = g a := by
      rcases h a List.mem_cons_self with ha | ha
      · exact ha
      · -- the others are no longer than what they stand for, so nothing can make up for this one
        have hsize := congrArg ByteArray.size heq
        have hle := size_joined_le hrest
        simp only [ByteArray.size_append, ha, ByteArray.size_empty] at hsize
        rw [ha, eq_comm, ← ByteArray.size_eq_zero_iff]
        omega
    rw [ha, ByteArray.append_right_inj] at heq
    intro b hb
    rcases List.mem_cons.1 hb with rfl | hb
    · exact ha
    · exact ih hrest heq b hb

end

namespace Attempt

/-- What a recorder takes down of a write. -/
def recorded (a : Attempt) : ByteArray :=
  match a.result with
  | some (.ok _) => a.body
  | _ => .empty

/-- The write failed. -/
def Failed (a : Attempt) : Prop := ∃ e, a.result = some (.error e)

theorem recorded_of_ok {a : Attempt} {n : Nat} (h : a.result = some (.ok n)) :
    a.recorded = a.body := by
  simp only [recorded, h]

theorem recorded_of_failed {a : Attempt} (h : a.Failed) : a.recorded = .empty := by
  obtain ⟨e, he⟩ := h
  simp only [recorded, he]

theorem recorded_of_none {a : Attempt} (h : a.result = none) : a.recorded = .empty := by
  simp only [recorded, h]

/-- A write succeeded, failed, or has no result. -/
theorem ok_or_failed_or_none (a : Attempt) :
    (∃ n, a.result = some (.ok n)) ∨ a.Failed ∨ a.result = none := by
  obtain ⟨body, accepted, _ | e | n⟩ := a
  · exact .inr (.inr rfl)
  · exact .inr (.inl ⟨e, rfl⟩)
  · exact .inl ⟨n, rfl⟩

/-- The writes that succeeded are all that was accepted only if nothing was of the others. -/
theorem joined_recorded_eq_iff {attempts : List Attempt} (hfair : ∀ a ∈ attempts, a.Fair)
    (hfailed : ∀ a ∈ attempts, a.Failed → a.taken = .empty) :
    joined (attempts.map recorded) = joined (attempts.map taken) ↔
      ∀ a ∈ attempts, a.result = none → a.taken = .empty := by
  have hok : ∀ a ∈ attempts, ∀ n, a.result = some (.ok n) → a.recorded = a.taken := by
    intro a ha n hn
    rw [recorded_of_ok hn, (hfair a ha).taken_of_ok hn]
  have hpart : ∀ a ∈ attempts, a.recorded = a.taken ∨ a.recorded = .empty := by
    intro a ha
    rcases a.ok_or_failed_or_none with ⟨n, hn⟩ | hfail | hnone
    · exact .inl (hok a ha n hn)
    · exact .inr (recorded_of_failed hfail)
    · exact .inr (recorded_of_none hnone)
  rw [joined_eq_iff hpart]
  refine ⟨fun hall a ha hnone => ?_, fun hall a ha => ?_⟩
  · rw [← hall a ha, recorded_of_none hnone]
  · rcases a.ok_or_failed_or_none with ⟨n, hn⟩ | hfail | hnone
    · exact hok a ha n hn
    · rw [recorded_of_failed hfail, hfailed a ha hfail]
    · rw [recorded_of_none hnone, hall a ha hnone]

end Attempt

/-- A recorder that was not given up has the bodies of the writes that succeeded, and of those that
failed nothing was accepted. -/
def Recorder.Knows (attempts : List Attempt) : Recorder → Prop
  | .active _ _ body => body = joined (attempts.map Attempt.recorded) ∧
      ∀ a ∈ attempts, a.Failed → a.accepted = 0
  | .abandoned => True

namespace Recorder

variable {attempts : List Attempt} {r : Recorder}

/-- It does not learn of a write that waits or was dropped. -/
theorem knows_concat_none {body : ByteArray} {n : Nat} :
    r.Knows (attempts ++ [⟨body, n, none⟩]) ↔ r.Knows attempts := by
  cases r with
  | active limit fields taken => simp [Knows, Attempt.recorded, Attempt.Failed, or_imp, forall_and]
  | abandoned => exact Iff.rfl

/-- A write fails before anything of it was accepted. -/
theorem Knows.concat_error (h : r.Knows attempts) (body : ByteArray) (e : WriteError) :
    r.Knows (attempts ++ [⟨body, 0, some (.error e)⟩]) := by
  cases r with
  | active limit fields taken =>
    simpa [Knows, Attempt.recorded, Attempt.Failed, or_imp, forall_and] using h
  | abandoned => exact trivial

/-- A write succeeds. -/
theorem Knows.concat_ok (h : r.Knows attempts) (body : ByteArray) (n m : Nat) :
    (r.recordBody body).1.Knows (attempts ++ [⟨body, n, some (.ok m)⟩]) := by
  cases r with
  | active limit fields taken =>
    simp only [recordBody]
    split
    · exact trivial
    · simpa [Knows, Attempt.recorded, Attempt.Failed, or_imp, forall_and] using h
  | abandoned => exact trivial

theorem Knows.recordFields (h : r.Knows attempts) (fields : Fields) :
    (r.recordFields fields).Knows attempts := by
  cases r with
  | active limit fields' taken => exact h
  | abandoned => exact trivial

end Recorder

variable {τ : Type}

/-- What the session's recorder knows of the writes. -/
def Session.Knows (s : Session τ) (attempts : List Attempt) : Prop :=
  ∀ r, s.writer.recorder = some r → r.Knows attempts

/-- The recorder knows of the writes that are over. -/
def Course.Captured (c : Course τ) : Prop := c.session.Knows c.ended

/-- A write that waits does not count. -/
theorem Course.Captured.attempts {c : Course τ} (h : c.Captured) :
    c.session.Knows c.attempts := by
  intro r hr
  cases hcurrent : c.current with
  | none =>
    rw [attempts_of_none hcurrent]
    exact h r hr
  | some write =>
    rw [attempts_of_some hcurrent]
    exact Recorder.knows_concat_none.2 (h r hr)

/-- What is handed over. -/
theorem Course.Captured.take {c : Course τ} (h : c.Captured) {r : Recording}
    (htake : c.session.takeRecording.2 = some r) :
    r.body = joined (c.attempts.map Attempt.recorded) ∧
      (∀ a ∈ c.attempts, a.Failed → a.taken = .empty) ∧ c.session.writer.sent ≠ none := by
  obtain ⟨recorder, hrecorder, hfinish⟩ := Option.bind_eq_some_iff.1 htake
  have hknows := h.attempts recorder hrecorder
  unfold Recorder.finish? at hfinish
  split at hfinish
  · rename_i limit fields body status hstatus
    cases hfinish
    obtain ⟨hbody, hfailed⟩ := hknows
    refine ⟨hbody, fun a ha hfail => ?_, by simp [hstatus]⟩
    rw [Attempt.taken, hfailed a ha hfail, ByteArray.extract_same]
  · cases hfinish

variable [Transport τ]

namespace Session

variable {s s' : Session τ} {attempts : List Attempt}

theorem Heads.knows {status : Http.Status} {result : Except WriteError Unit}
    (h : Heads status s s' result) (hs : s.Knows attempts) : s'.Knows attempts := by
  cases h with
  | repeated => exact hs
  | unfit => exact hs
  | refused => exact hs
  | sent =>
    intro r hr
    obtain ⟨earlier, hearlier, rfl⟩ := Option.map_eq_some_iff.1 hr
    exact (hs earlier hearlier).recordFields _

theorem Flushes.knows {result : Except WriteError Unit} (h : Flushes s s' result)
    (hs : s.Knows attempts) : s'.Knows attempts := by
  cases h with
  | already => exact hs
  | heads _ hheads => exact hheads.knows hs

end Session

namespace Course

variable [Transport.Faithful τ] {c : Course τ} {handle : HandleId}

theorem captured_pours {now : Instant} {body : ByteArray} {n : Nat} {s s' : Session τ}
    {p : Progress} (h : s.Pours now body n s' p) (hn : n ≤ body.size) (hs : s.Knows c.ended) :
    (c.settle body n (s', p)).Captured := by
  obtain ⟨s₁, m, haccepts, hends⟩ := h.accepts hn
  have hs₁ : s₁.Knows c.ended := by
    intro r hr
    exact hs r (haccepts.alike.recorder_eq ▸ hr)
  cases hends with
  | finished =>
    intro r hr
    rw [session_settle, s₁.writer_finishBody body] at hr
    obtain ⟨earlier, hearlier, rfl⟩ := Option.map_eq_some_iff.1 hr
    exact (hs₁ earlier hearlier).concat_ok body _ _
  | suspended => exact hs₁
  | endless => exact fun r hr => Recorder.knows_concat_none.2 (hs₁ r hr)

theorem Captured.follows {d : Deed} {c' : Course τ} (h : c.Captured) (hsound : Sound handle c)
    (hfollows : c.Follows d c') : c'.Captured := by
  cases hfollows with
  | edits => exact h
  | heads _ hheads => exact hheads.knows h
  | flushes _ hflush => exact hflush.knows h
  | writes _ hwrites =>
    cases hwrites with
    | failed hflush => exact fun r hr => (hflush.knows h r hr).concat_error _ _
    | pours hflush hpours => exact captured_pours hpours (Nat.zero_le _) (hflush.knows h)
  | @resumes _ write _ _ hcurrent hresumes =>
    cases hresumes with
    | waits => exact h
    | gaveUp =>
      -- the recorder is given up, whatever was accepted
      intro r hr
      obtain ⟨_, _, rfl⟩ := Option.map_eq_some_iff.1 hr
      exact trivial
    | pours _ hpours =>
      exact captured_pours hpours (Nat.le_of_lt (hsound.waits write hcurrent).2) h
  | drops => exact fun r hr => Recorder.knows_concat_none.2 (h r hr)
  | idles => exact h
  | busy => exact h

theorem Captured.run (h : c.Captured) (hsound : Sound handle c) (calls : List (Call τ handle)) :
    (c.run calls).Captured := by
  induction calls generalizing c with
  | nil => exact h
  | cons call rest ih =>
    refine ih ?_ (hsound.act call)
    cases call with
    | does d => exact h.follows hsound (c.follows_does d)
    | elsewhere e => exact h

/-- A writer that records keeps nothing of which a write failed half-way: when a recording is handed
over, nothing had been accepted of any write that failed, and the recording has the bodies of those
that succeeded. It has what the transport received if and only if nothing was accepted either of the
writes that were dropped or are still waiting. -/
theorem body_takeRecording (handle : HandleId) (board : BoardName) (settings : WriterSettings)
    (limit : Nat) (link : Link τ) (calls : List (Call τ handle)) (hchunk : 0 < settings.chunkSize)
    {r : Recording} :
    let c := (start handle board settings (some (.new limit)) link).run calls
    c.session.takeRecording.2 = some r →
      r.body = joined (c.attempts.map Attempt.recorded) ∧
      (∀ a ∈ c.attempts, a.Failed → a.taken = .empty) ∧
      (r.body = c.session.received.body ↔
        ∀ a ∈ c.attempts, a.result = none → a.taken = .empty) := by
  intro c htake
  have hstart := sound_start handle board settings (some (.new limit)) link hchunk
  have hsound : Sound handle c := hstart.run calls
  have hcaptured : c.Captured := by
    refine Captured.run (fun recorder hr => ?_) hstart calls
    cases hr
    exact ⟨rfl, nofun⟩
  obtain ⟨hrecorded, hfailed, hsent⟩ := hcaptured.take htake
  have hreceived : c.session.received.body = joined (c.attempts.map Attempt.taken) := by
    rw [← Session.sentBody_of_sent hsent, hsound.books.body_eq]
  refine ⟨hrecorded, hfailed, ?_⟩
  rw [hrecorded, hreceived]
  exact Attempt.joined_recorded_eq_iff hsound.books.fair hfailed

/-- A write is dropped when the buffer is full, and after a drain a second one succeeds. -/
def holed : List (Call Loopback ⟨1⟩) :=
  [.does (.write ⟨0⟩ "abcdef".toUTF8), .does .drop, .elsewhere (.drain ⟨1⟩ ⟨1⟩),
    .does (.write ⟨0⟩ "gh".toUTF8)]

/-- The recording that is handed over has a hole where the first write was. -/
theorem body_takeRecording_holed :
    let c := (start ⟨1⟩ .shared {} (some (.new 100)) shortLink).run holed
    ∃ r, c.session.takeRecording.2 = some r ∧ r.body = "gh".toUTF8 ∧
      c.session.received.body = "abcdgh".toUTF8 := by
  intro c
  obtain ⟨r, htake⟩ : ∃ r, c.session.takeRecording.2 = some r :=
    Option.isSome_iff_exists.1 (by decide +kernel)
  have hbody := (body_takeRecording ⟨1⟩ .shared {} 100 shortLink holed (by decide) htake).1
  have hrecorded : joined (c.attempts.map Attempt.recorded) = "gh".toUTF8 := by decide +kernel
  exact ⟨r, htake, hbody.trans hrecorded, by decide +kernel⟩

end Course

end Sluice
