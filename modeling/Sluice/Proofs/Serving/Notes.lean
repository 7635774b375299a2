import Sluice.Proofs.Serving.Calls
import Sluice.Proofs.Writing.Captured

/-!
# What a handler did

A handler is watched at its writer: every call is noted down with what came of it, and with what the
writer shows afterwards. The notes alone tell what a recorder that took part from the beginning must
hold: nothing if a write ran out of time or the bodies are too long together, and otherwise the
fields as they were when the header section went out, and the bodies that were written.
-/
namespace Sluice

/-- What a handler did. -/
inductive Act where
  | edits
  /-- It sent its header section, or made sure that it went out. -/
  | sends (result : Except WriteError Unit)
  /-- It began to write a body, and has to wait. -/
  | waits
  | writes (body : ByteArray) (result : Except WriteError Nat)
  /-- It dropped a write while that waited. -/
  | drops
  /-- It is through, and this is what came of the last flush. -/
  | returns (result : Except WriteError Unit)

namespace Act

/-- No acknowledgment came in time for the write. -/
def isLate : Act → Bool
  | .writes _ (.error (.ackTimeout _)) => true
  | _ => false

/-- The body, if it was written to its end. -/
def body? : Act → Option ByteArray
  | .writes body (.ok _) => some body
  | _ => none

def isReturn : Act → Bool
  | .returns _ => true
  | _ => false

instance (a : Act) : Decidable (a = .returns (.ok ())) :=
  match a with
  | .returns (.ok ()) => isTrue rfl
  | .returns (.error _) | .edits | .sends _ | .waits | .writes .. | .drops => isFalse nofun

end Act

/-- The length of these together. -/
def totalSize : List ByteArray → Nat
  | [] => 0
  | part :: rest => part.size + totalSize rest

theorem size_joined (parts : List ByteArray) : (joined parts).size = totalSize parts := by
  induction parts with
  | nil => rfl
  | cons part rest ih => simp [totalSize, ih]

/-- An act, and what the writer shows after it. -/
structure ActNote where
  act : Act
  view : WriterView

namespace ActNote

/-- The status that has gone out. -/
def sent? (notes : List ActNote) : Option Http.Status := notes.findSome? fun n => n.view.sent

/-- The fields when the status went out. -/
def header? (notes : List ActNote) : Option Fields :=
  notes.findSome? fun n => n.view.sent.map fun _ => n.view.fields

/-- The bodies that were written to their ends. -/
def bodies (notes : List ActNote) : List ByteArray := notes.filterMap fun n => n.act.body?

/-- Their length together. -/
def total (notes : List ActNote) : Nat := totalSize (bodies notes)

/-- A write ran out of time. -/
def late (notes : List ActNote) : Bool := notes.any fun n => n.act.isLate

theorem sent?_concat (notes : List ActNote) (n : ActNote) :
    sent? (notes ++ [n]) = (sent? notes).or n.view.sent := by
  cases hsent : n.view.sent <;> simp [sent?, hsent]

theorem header?_concat (notes : List ActNote) (n : ActNote) :
    header? (notes ++ [n]) = (header? notes).or (n.view.sent.map fun _ => n.view.fields) := by
  cases hsent : n.view.sent <;> simp [header?, hsent]

/-- There are fields that went out once there is a status that did. -/
theorem header?_eq_none_iff {notes : List ActNote} : header? notes = none ↔ sent? notes = none := by
  simp [header?, sent?]

theorem bodies_concat (notes : List ActNote) (n : ActNote) :
    bodies (notes ++ [n]) = bodies notes ++ n.act.body?.toList := by
  cases hbody : n.act.body? <;> simp [bodies, hbody]

theorem total_concat (notes : List ActNote) (n : ActNote) :
    total (notes ++ [n]) = total notes + (n.act.body?.elim 0 ByteArray.size) := by
  rw [total, total, bodies_concat, ← size_joined, ← size_joined]
  cases hbody : n.act.body? <;> simp

theorem late_concat (notes : List ActNote) (n : ActNote) :
    late (notes ++ [n]) = (late notes || n.act.isLate) := by
  simp [late]

end ActNote

namespace Recorder

/-- What a recorder with this limit holds when these are the notes of its writer. -/
def ofNotes (limit : Nat) (notes : List ActNote) : Recorder :=
  if ActNote.late notes = true ∨ limit < ActNote.total notes then .abandoned
  else .active limit (ActNote.header? notes) (joined (ActNote.bodies notes))

/-- The status may have gone out since, and then the fields did. -/
def headed (sent : Option Http.Status) (view : WriterView) (r : Recorder) : Recorder :=
  match sent, view.sent with
  | none, some _ => r.recordFields view.fields
  | _, _ => r

/-- What becomes of a recorder with a further note, where this status had gone out before. -/
def noted (sent : Option Http.Status) (n : ActNote) (r : Recorder) : Recorder :=
  match n.act with
  | .writes body (.ok _) => ((r.headed sent n.view).recordBody body).1
  | .writes _ (.error (.ackTimeout _)) => .abandoned
  | _ => r.headed sent n.view

theorem headed_of_sent {sent : Option Http.Status} {view : WriterView}
    (h : sent ≠ none ∨ view.sent = none) (r : Recorder) : r.headed sent view = r := by
  unfold headed
  split
  · rename_i hview
    rcases h with h | h
    · exact absurd rfl h
    · rw [h] at hview
      cases hview
  · rfl

/-- Fields that went out before are kept. -/
theorem headed_active (limit : Nat) (notes : List ActNote) (n : ActNote) (body : ByteArray) :
    (active limit (ActNote.header? notes) body).headed (ActNote.sent? notes) n.view =
      active limit (ActNote.header? (notes ++ [n])) body := by
  rw [ActNote.header?_concat]
  cases hsent : ActNote.sent? notes with
  | some status =>
    have hheader : ActNote.header? notes ≠ none := fun h => by
      rw [ActNote.header?_eq_none_iff.1 h] at hsent
      cases hsent
    obtain ⟨fields, hfields⟩ := Option.ne_none_iff_exists'.1 hheader
    rw [hfields]
    rfl
  | none =>
    rw [ActNote.header?_eq_none_iff.2 hsent]
    cases hview : n.view.sent <;> simp [headed, hview, recordFields]

@[simp] theorem headed_abandoned (sent : Option Http.Status) (view : WriterView) :
    abandoned.headed sent view = abandoned := by
  unfold headed
  split <;> rfl

variable {limit : Nat} {notes : List ActNote} {n : ActNote}

/-- What was given up stays so. -/
theorem ofNotes_eq_abandoned (h : ActNote.late notes = true ∨ limit < ActNote.total notes) :
    ofNotes limit notes = .abandoned :=
  if_pos h

theorem ofNotes_eq_active (h : ActNote.late notes = false) (htotal : ActNote.total notes ≤ limit) :
    ofNotes limit notes =
      .active limit (ActNote.header? notes) (joined (ActNote.bodies notes)) := by
  refine if_neg ?_
  rintro (hlate | hlt)
  · rw [h] at hlate
    cases hlate
  · exact Nat.not_lt.2 htotal hlt

/-- A recorder is given up, or it is active and what the notes say. -/
theorem ofNotes_cases (limit : Nat) (notes : List ActNote) :
    (ActNote.late notes = true ∨ limit < ActNote.total notes) ∨
      ActNote.late notes = false ∧ ActNote.total notes ≤ limit := by
  cases ActNote.late notes
  · rcases Nat.lt_or_ge limit (ActNote.total notes) with hlt | hle
    · exact .inl (.inr hlt)
    · exact .inr ⟨rfl, hle⟩
  · exact .inl (.inl rfl)

theorem ofNotes_concat_plain (hbody : n.act.body? = none) (hlate : n.act.isLate = false) :
    ofNotes limit (notes ++ [n]) = (ofNotes limit notes).headed (ActNote.sent? notes) n.view := by
  have hsame : ActNote.late (notes ++ [n]) = ActNote.late notes := by
    rw [ActNote.late_concat, hlate, Bool.or_false]
  have htotal : ActNote.total (notes ++ [n]) = ActNote.total notes := by
    rw [ActNote.total_concat, hbody]
    rfl
  rcases ofNotes_cases limit notes with hgone | ⟨hintime, hfits⟩
  · rw [ofNotes_eq_abandoned hgone, headed_abandoned]
    exact ofNotes_eq_abandoned (by rwa [hsame, htotal])
  · rw [ofNotes_eq_active hintime hfits, headed_active,
      ofNotes_eq_active (hsame.trans hintime) (htotal ▸ hfits), ActNote.bodies_concat, hbody]
    simp

theorem ofNotes_concat_body {body : ByteArray} (hbody : n.act.body? = some body)
    (hlate : n.act.isLate = false) :
    ofNotes limit (notes ++ [n]) =
      (((ofNotes limit notes).headed (ActNote.sent? notes) n.view).recordBody body).1 := by
  have hsame : ActNote.late (notes ++ [n]) = ActNote.late notes := by
    rw [ActNote.late_concat, hlate, Bool.or_false]
  have htotal : ActNote.total (notes ++ [n]) = ActNote.total notes + body.size := by
    rw [ActNote.total_concat, hbody]
    rfl
  have hbodies :
      joined (ActNote.bodies (notes ++ [n])) = joined (ActNote.bodies notes) ++ body := by
    rw [ActNote.bodies_concat, hbody, Option.toList_some, joined_concat]
  rcases ofNotes_cases limit notes with hgone | ⟨hintime, hfits⟩
  · rw [ofNotes_eq_abandoned hgone, headed_abandoned]
    refine ofNotes_eq_abandoned ?_
    rw [hsame, htotal]
    exact hgone.imp_right (Nat.lt_add_right _)
  · rw [ofNotes_eq_active hintime hfits, headed_active, recordBody, size_joined, ← ActNote.total]
    split
    · rename_i hlong
      exact ofNotes_eq_abandoned (.inr (htotal ▸ hlong))
    · rename_i hshort
      rw [ofNotes_eq_active (hsame.trans hintime) (by omega), hbodies]

/-- One note more. -/
theorem ofNotes_concat (limit : Nat) (notes : List ActNote) (n : ActNote) :
    ofNotes limit (notes ++ [n]) = (ofNotes limit notes).noted (ActNote.sent? notes) n := by
  unfold noted
  split
  · rename_i body _ hact
    exact ofNotes_concat_body (by rw [hact]; rfl) (by rw [hact]; rfl)
  · rename_i hact
    refine ofNotes_eq_abandoned (.inl ?_)
    rw [ActNote.late_concat, hact]
    exact Bool.or_true _
  · rename_i hok hlate
    refine ofNotes_concat_plain ?_ ?_
    · unfold Act.body?
      split
      · rename_i hact
        exact absurd hact (hok _ _)
      · rfl
    · unfold Act.isLate
      split
      · rename_i hact
        exact absurd hact (hlate _ _)
      · rfl

end Recorder

/-! ## Every call is noted -/

namespace Writer

/-- From the first writer to the second a header section may have gone out. -/
structure Opens (w w' : Writer) : Prop where
  sent_eq : w.sent ≠ none → w'.sent = w.sent
  recorder_eq : w'.recorder = w.recorder.map fun r => r.headed w.sent w'.view

/-- The note tells how the first writer became the second. -/
structure Noted (n : ActNote) (w w' : Writer) : Prop where
  view_eq : n.view = w'.view
  sent_eq : w.sent ≠ none → w'.sent = w.sent
  recorder_eq : w'.recorder = w.recorder.map fun r => r.noted w.sent n

/-- The writer is what the notes say; with a limit its recorder is so, too. -/
structure Tracks (limit : Option Nat) (notes : List ActNote) (w : Writer) : Prop where
  sent_eq : w.sent = ActNote.sent? notes
  recorder_eq : w.recorder = limit.map fun limit => .ofNotes limit notes

variable {w w₁ w' : Writer} {n : ActNote} {limit : Option Nat} {notes : List ActNote}

theorem Opens.of_same (hsent : w'.sent = w.sent) (hrecorder : w'.recorder = w.recorder) :
    w.Opens w' := by
  refine ⟨fun _ => hsent, ?_⟩
  rw [hrecorder]
  cases w.recorder with
  | none => rfl
  | some r =>
    refine congrArg some (Recorder.headed_of_sent ?_ r).symm
    rcases Option.eq_none_or_eq_some w.sent with hnone | ⟨status, hsome⟩
    · exact .inr (hsent.trans hnone)
    · exact .inl (hsome ▸ Option.some_ne_none _)

theorem Opens.alike (h : w.Opens w₁) (halike : w₁.Alike w') : w.Opens w' := by
  rw [halike]
  exact ⟨h.sent_eq, h.recorder_eq⟩

/-- Where no body was written and no time ran out, there is only the header section to note. -/
theorem Opens.noted (h : w.Opens w') (act : Act) (hbody : act.body? = none)
    (hlate : act.isLate = false) : Noted ⟨act, w'.view⟩ w w' := by
  refine ⟨rfl, h.sent_eq, ?_⟩
  have hplain (r : Recorder) : r.noted w.sent ⟨act, w'.view⟩ = r.headed w.sent w'.view := by
    unfold Recorder.noted
    split
    · rename_i hact
      rw [show act = _ from hact] at hbody
      cases hbody
    · rename_i hact
      rw [show act = _ from hact] at hlate
      cases hlate
    · rfl
  rw [h.recorder_eq]
  simp only [hplain]

theorem Tracks.of_same (h : w.Tracks limit notes) (hsent : w'.sent = w.sent)
    (hrecorder : w'.recorder = w.recorder) : w'.Tracks limit notes :=
  ⟨hsent.trans h.sent_eq, hrecorder.trans h.recorder_eq⟩

theorem Tracks.concat (h : w.Tracks limit notes) (hnoted : Noted n w w') :
    w'.Tracks limit (notes ++ [n]) := by
  constructor
  · rw [ActNote.sent?_concat, hnoted.view_eq, ← h.sent_eq]
    cases hsent : w.sent with
    | none => rfl
    | some status => exact (hnoted.sent_eq (by simp [hsent])).trans hsent
  · rw [hnoted.recorder_eq, h.recorder_eq, h.sent_eq, Option.map_map]
    cases limit with
    | none => rfl
    | some limit => exact congrArg some (Recorder.ofNotes_concat limit notes n).symm

end Writer

namespace Session

variable {τ : Type} {s s₁ s' : Session τ}

/-- The note that the session's writer is left with. -/
def note (s : Session τ) (act : Act) : ActNote := ⟨act, s.writer.view⟩

theorem noted_edit (s : Session τ) (change : Fields.Edit) :
    Writer.Noted ((s.edit change).note .edits) s.writer (s.edit change).writer := by
  have hopens : s.writer.Opens (s.edit change).writer := .of_same rfl rfl
  exact hopens.noted _ rfl rfl

variable [Transport τ]

theorem Heads.opens {status : Http.Status} {result : Except WriteError Unit}
    (h : Heads status s s' result) : s.writer.Opens s'.writer := by
  cases h with
  | repeated => exact .of_same rfl rfl
  | unfit => exact .of_same rfl rfl
  | refused => exact .of_same rfl rfl
  | sent hsent =>
    refine ⟨fun hne => absurd hsent hne, ?_⟩
    rw [hsent]
    rfl

theorem Flushes.opens {result : Except WriteError Unit} (h : Flushes s s' result) :
    s.writer.Opens s'.writer := by
  cases h with
  | already => exact .of_same rfl rfl
  | heads _ hheads => exact hheads.opens

end Session

/-- The writer at the end of a run of the loop: a recorder takes down a body that is through. -/
def Writer.poured (w : Writer) (body : ByteArray) : Progress → Writer
  | .finished _ => { w with recorder := w.recorder.map fun r => (r.recordBody body).1 }
  | .suspended _ | .endless => w

namespace Session

variable {τ : Type} [Transport τ] {s s₁ s' : Session τ} {now : Instant} {p : Progress}

theorem alike_offer {chunk : ByteArray} {a : Nat} (h : s.offer chunk = (s', a)) :
    s.writer.Alike s'.writer := by
  obtain rfl : (s.offer chunk).1 = s' := congrArg Prod.fst h
  rfl

omit [Transport τ] in
theorem alike_register {waiter : WaiterId} (h : s.countShort.register = (s', waiter)) :
    s.writer.Alike s'.writer := by
  have hwriter := s.countShort.writer_register
  rw [h] at hwriter
  rw [Writer.Alike, hwriter]
  rfl

/-- A run of the loop changes the waiter and the counts, and at its end the recorder. -/
theorem Pours.writer_eq {body : ByteArray} {n : Nat} (h : Pours now body s n s' p) :
    ∃ w, s.writer.Alike w ∧ s'.writer = w.poured body p := by
  induction h with
  | @done s n _ => exact ⟨s.writer, .refl _, s.writer_finishBody body⟩
  | @endless s n => exact ⟨s.writer, .refl _, rfl⟩
  | whole _ _ hoffer _ _ ih =>
    obtain ⟨w, halike, hw⟩ := ih
    exact ⟨w, (alike_offer hoffer).trans halike, hw⟩
  | retried _ _ hoffer _ hregister hagain _ _ ih =>
    obtain ⟨w, halike, hw⟩ := ih
    exact ⟨w, (alike_offer hoffer).trans ((alike_register hregister).trans
      ((alike_offer hagain).trans halike)), hw⟩
  | blocked _ _ hoffer _ hregister hagain =>
    refine ⟨_, (alike_offer hoffer).trans ((alike_register hregister).trans
      ((alike_offer hagain).trans ?_)), rfl⟩
    rfl

end Session

namespace Writer

variable {w w₁ w' : Writer} {body : ByteArray}

/-- What there is to note when a call of a write left the writer with this progress. -/
def Wrote (body : ByteArray) (w w' : Writer) : Progress → Prop
  | .finished result => Noted ⟨.writes body result, w'.view⟩ w w'
  | .suspended _ => w.Opens w'
  | .endless => True

/-- A body is poured once the header section is out, and then it does not fail. -/
theorem Opens.poured (h : w.Opens w₁) {p : Progress} (hp : ∀ e, p ≠ .finished (.error e)) :
    Wrote body w (w₁.poured body p) p := by
  rcases p with (e | n) | write | _
  · exact absurd rfl (hp e)
  · refine ⟨rfl, h.sent_eq, ?_⟩
    show w₁.recorder.map _ = _
    rw [h.recorder_eq, Option.map_map]
    rfl
  · exact h
  · exact trivial

/-- A write that ran out of time. -/
theorem noted_late (waited : Duration) (hsent : w'.sent = w.sent)
    (hrecorder : w'.recorder = w.recorder.map fun _ => .abandoned) :
    Noted ⟨.writes body (.error (.ackTimeout waited)), w'.view⟩ w w' :=
  ⟨rfl, fun _ => hsent, hrecorder⟩

end Writer

namespace Session

variable {τ : Type} [Transport τ] {s s₁ s' : Session τ} {now : Instant} {p : Progress}

theorem Writes.wrote {body : ByteArray} (h : Writes now body s s' p) :
    s.writer.Wrote body s'.writer p := by
  cases h with
  | @failed _ e hflush =>
    refine hflush.opens.noted _ rfl ?_
    cases e with
    | ackTimeout waited => exact absurd rfl (hflush.ne_ackTimeout waited)
    | _ => rfl
  | pours hflush hpours =>
    obtain ⟨w, halike, hw⟩ := hpours.writer_eq
    rw [hw]
    exact (hflush.opens.alike halike).poured hpours.ne_error

theorem Resumes.wrote {write : PendingWrite} (h : Resumes now write s s' p) :
    s.writer.Wrote write.body s'.writer p := by
  cases h with
  | waits => exact .of_same rfl rfl
  | @gaveUp board e hends =>
    -- a wait that fails has taken too long
    cases ends_of_waitEnds? hends with
    | @late waited => exact Writer.noted_late waited rfl rfl
  | @pours board ready _ _ _ hpours =>
    obtain ⟨w, halike, hw⟩ := hpours.writer_eq
    have hopens : s.writer.Opens w := (Writer.Opens.of_same rfl rfl).alike halike
    rw [hw]
    exact hopens.poured hpours.ne_error

/-- A write that has to wait again leaves nothing to note. -/
theorem Resumes.alike {write write' : PendingWrite}
    (h : Resumes now write s s' (.suspended write')) :
    s.writer.Alike s'.writer := by
  cases h with
  | waits => exact .refl _
  | pours _ hpours =>
    obtain ⟨w, halike, hw⟩ := hpours.writer_eq
    rw [hw]
    exact halike

/-! ## The notes of a turn -/

variable {ε : Type}

/-- The notes of a handler, from this moment until it ends or has to wait. -/
def notes (now : Instant) (s : Session τ) : Program ε → List ActNote
  | .finish =>
    let (s, result) := s.flush
    [s.note (.returns result)]
  | .fail _ | .crash _ | .sleep .. | .ask .. => []
  | .edit change next => (s.edit change).note .edits :: notes now (s.edit change) next
  | .inspect next => notes now s (next s.writer.view)
  | .writeHeader status next =>
    let (s, result) := s.writeHeader status
    s.note (.sends result) :: notes now s (next result)
  | .flush next =>
    let (s, result) := s.flush
    s.note (.sends result) :: notes now s (next result)
  | .write body _ next =>
    match s.write now body with
    | (s, .finished result) =>
      s.note (.writes body result) :: notes now s (next (.finished result))
    | (s, .suspended _) => [s.note .waits]
    | (_, .endless) => []

end Session

namespace Service

variable {τ ε : Type} [Transport τ]

/-- The notes of the handler of a dispatch that is carried on. -/
def resumeNotes (s : Service τ) (now : Instant) (d : Dispatch ε) : List ActNote :=
  if d.isReady s now then
    match d.stage with
    | .writing write patience next =>
      match (d.turn s).session.resume now write with
      | (session, .finished result) =>
        session.note (.writes write.body result) :: session.notes now (next (.finished result))
      | (session, .suspended _) =>
        if Dispatch.isOver patience now then
          session.note .drops :: session.notes now (next .dropped)
        else []
      | (_, .endless) => []
    | .sleeping _ next => (d.turn s).session.notes now next
    | _ => []
  else []

/-- The notes of the handler of a dispatch that has an answer. -/
def answerNotes (s : Service τ) (now : Instant) (d : Dispatch ε) (n : Nat) : List ActNote :=
  match d.stage with
  | .asking _ next => (d.turn s).session.notes now (next n)
  | _ => []

/-- The notes of the handler of a request. Where the cache has an answer it does nothing. -/
def startNotes (s : Service τ) (now : Instant) (request : Request) (program : Program ε) :
    List ActNote :=
  match s.dispatcher.pool.checkout s.link with
  | (_, _, .error _) => []
  | (pool, link, .ok handle) =>
    match s.dispatcher.cache, request.cacheKey? with
    | some cache, some key =>
      match cache.get now key with
      | (_, _, some _) => []
      | (cache, events, none) =>
        ((s.looked pool link handle key cache events).session.record
          s.dispatcher.settings.cache.maxBodyBytes).notes now program
    | _, _ => (s.entered pool link handle).session.notes now program

end Service

end Sluice
