import Sluice.Proofs.Serving.Calls
import Sluice.Proofs.Serving.Draft
import Sluice.Proofs.Serving.Turns
import Sluice.Proofs.Writing.Course
import Sluice.Transport.Obliging

/-!
# Turns carry out drafts

On an obliging transport, and with all the time in the world, what a turn brings about is what the
handler makes of the draft that the turn found, however often it has to wait on the way.
-/
namespace Sluice

theorem Program.Steady.patient {ε : Type} {program : Program ε} (h : program.Steady) :
    program.Patient := by
  induction program with
  | finish => trivial
  | fail => trivial
  | crash => trivial
  | edit _ _ ih => exact ih h
  | inspect _ ih => exact fun view => ih view (h view).2
  | writeHeader _ _ ih => exact fun result => ih result (h result)
  | flush _ ih => exact fun result => ih result (h result)
  | write _ _ _ ih => exact ⟨h.1, fun result => ih _ (h.2 result)⟩
  | sleep _ _ ih => exact ih h
  | ask _ _ ih => exact fun n => ih n (h n).2

/-- Writers with these settings wait as long as it takes, and get on when they need not. -/
structure WriterSettings.Unhurried (s : WriterSettings) : Prop where
  chunkSize_ne : s.chunkSize ≠ 0
  ackTimeoutMs_eq : s.ackTimeoutMs = none

/-- The verdict, if it is over. -/
def Outcome.verdict? {ε : Type} : Outcome ε → Option Verdict
  | .returned (.ok served) => some (.served served.status)
  | .returned (.error e) => some (.failed e)
  | .crashed message => some (.crashed message)
  | .inFlight _ => none

namespace Session

variable {τ : Type} [Transport τ]

omit [Transport τ] in
/-- A wait without a limit does not fail. -/
theorem waitEnds?_ne_error {s : Session τ} {now : Instant} {write : PendingWrite}
    (hlimit : write.wait.limit = none) (board : AckBoard) (e : WriteError) :
    s.waitEnds? now write ≠ some (board, .error e) := by
  intro hends
  cases ends_of_waitEnds? hends with
  | late _ hexpired => simp [Wait.expired, hlimit] at hexpired

variable [Transport.Faithful τ]

def draft (s : Session τ) : Draft :=
  ⟨s.writer.fields, s.writer.sent, s.received, s.writer.stats.bytes⟩

/-- A write comes to the draft and the result it was to come to, or is on its way there. -/
def Drafted (s : Session τ) (goal : Draft × Except WriteError Nat) : Progress → Prop
  | .finished result => (s.draft, result) = goal
  | .suspended write => write.wait.limit = none ∧ write.written ≤ write.body.size ∧
      (s.draft.append (write.body.extract write.written write.body.size), .ok write.body.size) =
        goal
  | .endless => False

variable {s s₁ s' : Session τ}

theorem Accepts.draft_eq {body : ByteArray} {n m : Nat} (h : Accepts body s n s' m)
    (hm : m ≤ body.size) : s'.draft = s.draft.append (body.extract n m) := by
  have halike := h.alike
  rw [draft, h.received, h.bytes, halike.sent_eq, halike]
  simp [draft, Draft.append, ByteArray.size_extract, Nat.min_eq_left hm]

theorem Pours.settings_eq {now : Instant} {body : ByteArray} {n : Nat} {p : Progress}
    (h : Pours now body s n s' p) (hn : n ≤ body.size) :
    s'.writer.settings = s.writer.settings := by
  obtain ⟨s₁, m, haccepts, hends⟩ := h.accepts hn
  rw [hends.gives.settings_eq, haccepts.alike.settings_eq]

theorem Pours.drafted {now : Instant} {body : ByteArray} {n : Nat} {p : Progress}
    (h : Pours now body s n s' p) (hn : n ≤ body.size) (hs : s.writer.settings.Unhurried) :
    s'.Drafted (s.draft.append (body.extract n body.size), .ok body.size) p := by
  have hlimit {write : PendingWrite} (hp : p = .suspended write) : write.wait.limit = none := by
    rw [(h.wait_eq hp).2, h.settings_eq hn, WriterSettings.ackTimeout, hs.ackTimeoutMs_eq]
    rfl
  obtain ⟨s₁, m, haccepts, hends⟩ := h.accepts hn
  have hreceived := hends.received_eq
  cases hends with
  | finished =>
    have hwriter := s₁.writer_finishBody body
    have hdraft : (s₁.finishBody body).draft = s₁.draft := by
      rw [draft, hreceived, hwriter]
      rfl
    show (_, _) = _
    rw [hdraft, haccepts.draft_eq (Nat.le_refl _)]
  | @suspended write hbody hlt =>
    subst hbody
    refine ⟨hlimit rfl, Nat.le_of_lt hlt, ?_⟩
    rw [haccepts.draft_eq (Nat.le_of_lt hlt), Draft.append_append,
      extract_append_extract_of_le write.body haccepts.le (Nat.le_of_lt hlt)]
  | endless hzero =>
    rw [haccepts.alike.settings_eq] at hzero
    exact hs.chunkSize_ne hzero

end Session

/-! ## The calls of a writer on an obliging transport -/

variable {τ ε : Type} [Transport τ] [Transport.Obliging τ]

namespace Session

variable {s s₁ s' : Session τ} {now : Instant}

theorem Heads.draft_eq {status : Http.Status} {result : Except WriteError Unit}
    (h : Heads status s s' result) : (s'.draft, result) = s.draft.writeHeader status := by
  have hheads := h
  cases h with
  | repeated hsent =>
    simp only [draft, Draft.writeHeader, hsent]
    simp [report, received, hsent]
  | unfit hsent hmeasure =>
    have hmeasure' : Layout.measure s.writer.fields.withContentType = .error _ := hmeasure
    simp only [draft, Draft.writeHeader, hsent, hmeasure']
    simp [Writer.prepared, received, hsent]
  | @refused layout _ _ _ _ hsend =>
    have hok := Transport.Obliging.sendSection_ok s.link.transport s.writer.handle status layout
      s.writer.prepared.fields.instances
    rw [(Link.sendSection_eq_iff.1 hsend).1] at hok
    cases hok
  | sent hsent hmeasure =>
    have hmeasure' : Layout.measure s.writer.fields.withContentType = .ok _ := hmeasure
    have hreceived := hheads.received_eq hsent
    simp only [draft, Draft.writeHeader, hsent, hmeasure', hreceived]
    simp [Writer.opened, Writer.prepared]

theorem Flushes.draft_eq {result : Except WriteError Unit} (h : Flushes s s' result) :
    (s'.draft, result) = s.draft.flush := by
  cases h with
  | already hsent =>
    have hdraft : s.draft.sent = some _ := hsent
    simp only [Draft.flush, hdraft]
  | heads hsent hheads =>
    have hdraft : s.draft.sent = none := hsent
    simp only [Draft.flush, hdraft]
    exact hheads.draft_eq

theorem Writes.settings_eq {body : ByteArray} {p : Progress} (h : Writes now body s s' p) :
    s'.writer.settings = s.writer.settings := by
  cases h with
  | failed hflush => exact hflush.gives.settings_eq
  | pours hflush hpours =>
    exact (hpours.settings_eq (Nat.zero_le _)).trans hflush.gives.settings_eq

theorem Writes.drafted {body : ByteArray} {p : Progress} (h : Writes now body s s' p)
    (hs : s.writer.settings.Unhurried) : s'.Drafted (s.draft.write body) p := by
  cases h with
  | failed hflush =>
    show (_, _) = _
    simp only [Draft.write, ← hflush.draft_eq]
  | pours hflush hpours =>
    have hpoured := hpours.drafted (Nat.zero_le _) (by rwa [hflush.gives.settings_eq])
    rw [ByteArray.extract_zero_size] at hpoured
    simp only [Draft.write, ← hflush.draft_eq]
    exact hpoured

theorem Resumes.settings_eq {write : PendingWrite} {p : Progress} (h : Resumes now write s s' p)
    (hle : write.written ≤ write.body.size) : s'.writer.settings = s.writer.settings := by
  cases h with
  | waits => rfl
  | gaveUp => rfl
  | pours _ hpours => exact hpours.settings_eq hle

theorem Resumes.drafted {write : PendingWrite} {p : Progress} (h : Resumes now write s s' p)
    (hs : s.writer.settings.Unhurried) {goal : Draft × Except WriteError Nat}
    (hwrite : s.Drafted goal (.suspended write)) : s'.Drafted goal p := by
  obtain ⟨hlimit, hle, hgoal⟩ := hwrite
  cases h with
  | waits => exact ⟨hlimit, hle, hgoal⟩
  | gaveUp hends => exact absurd hends (waitEnds?_ne_error hlimit _ _)
  | @pours board ready _ _ _ hpours =>
    have hpoured := hpours.drafted hle hs
    have hdraft : (({ s with link := s.link.setBoard s.writer.board board } : Session τ).report
        (.ackReceived s.writer.handle ready)).draft = s.draft := by
      simp [draft, received, report]
    rwa [hdraft, hgoal] at hpoured

end Session

/-! ## Turns -/

/-- A dispatch that waits is on its way to this end. -/
def Stage.Drafts (s : Session τ) (goal : Draft × Verdict) : Stage ε → Prop
  | .writing write patience next => patience = none ∧
      (∀ result, (next (.finished result)).Steady) ∧ ∃ out, s.Drafted out (.suspended write) ∧
        out.1.run (next (.finished out.2)) = goal
  | .sleeping _ next => next.Steady ∧ s.draft.run next = goal
  | .asking _ next => (∀ n, next n = next 0 ∧ (next n).Steady) ∧ s.draft.run (next 0) = goal
  | .replaying .. | .endless => False

namespace Turn

/-- A dispatch whose answer is not kept and whose writer is in no hurry. -/
structure Plain (t : Turn τ) : Prop where
  key_eq : t.key = none
  unhurried : t.session.writer.settings.Unhurried

/-- A turn gets to this end, or the dispatch waits on its way there. -/
inductive Brings (goal : Draft × Verdict) (t : Turn τ) : Service τ → Outcome ε → Prop where
  | waits {t' : Turn τ} {stage} : t.Goes t' → t'.Plain → stage.Drafts t'.session goal →
      Brings goal t ⟨t'.dispatcher, t'.session.link⟩
        (.inFlight ⟨t'.session.writer, t'.key, stage⟩)
  | ended {t' : Turn τ} {s o} : t.Goes t' → t'.Left s → t'.session.draft = goal.1 →
      o.verdict? = some goal.2 → Brings goal t s o

variable {t t₁ : Turn τ} {now : Instant} {s : Service τ} {o : Outcome ε} {goal : Draft × Verdict}

omit [Transport τ] [Transport.Obliging τ] in
/-- The session may go on with the writer's settings as they are. -/
theorem Plain.session (h : t.Plain) {session : Session τ}
    (hsettings : session.writer.settings = t.session.writer.settings) :
    Plain { t with session } where
  key_eq := h.key_eq
  unhurried := by
    rw [hsettings]
    exact h.unhurried

theorem Brings.after (h : t.Goes t₁) (h' : t₁.Brings goal s o) : t.Brings goal s o := by
  cases h' with
  | waits hgoes hplain hdrafts => exact .waits (h.trans hgoes) hplain hdrafts
  | ended hgoes hleft hdraft hverdict => exact .ended (h.trans hgoes) hleft hdraft hverdict

/-- The end that a turn came to. -/
theorem brings_leave {d : Draft} {verdict : Verdict} (hdraft : t.session.draft = d)
    (ho : o.verdict? = some verdict) : t.Brings (d, verdict) t.leave o :=
  .ended (.refl t) t.left_leave hdraft ho

theorem Completes.brings (h : Completes now t s o) (hkey : t.key = none) :
    t.Brings t.session.draft.complete s o := by
  cases h with
  | fails hflush =>
    simp only [Draft.complete, ← hflush.draft_eq]
    exact .after (goes_session hflush.tends) (brings_leave rfl rfl)
  | files hflush hfiles =>
    simp only [Draft.complete, ← hflush.draft_eq]
    obtain ⟨rfl, rfl⟩ := hfiles.eq_of_key_eq_none hkey
    exact .after (goes_session hflush.tends) (brings_leave rfl rfl)

theorem Fails.draft_eq {cause : HandlerError} (h : Fails cause t t₁) :
    t₁.session.draft = (t.session.draft.fail cause).1 := by
  have hcleared (hsent : t.session.writer.sent = none) :
      (((t.failed cause).session.edit .clear).draft.writeHeader .internalServerError).1 =
        (t.session.draft.fail cause).1 := by
    have hdraft : t.session.draft.sent = none := hsent
    have hempty : ((t.failed cause).session.edit .clear).draft =
        { t.session.draft with fields := .empty } := rfl
    simp only [Draft.fail, hempty, hdraft]
  cases h with
  | late hsent =>
    have hdraft : t.session.draft.sent = some _ := hsent
    simp only [Draft.fail, hdraft]
    rfl
  | answers hsent hheads => exact (congrArg Prod.fst hheads.draft_eq).trans (hcleared hsent)
  | gaveUp hsent hheads => exact (congrArg Prod.fst hheads.draft_eq).trans (hcleared hsent)

/-- A steady handler is carried out until it ends or has to wait. -/
theorem Runs.brings {program : Program ε} (h : Runs now t program s o) (hsteady : program.Steady)
    (hplain : t.Plain) : t.Brings (t.session.draft.run program) s o := by
  -- a call that is over has done to the draft what the draft's own call does
  induction h with
  | completes hcompletes => exact hcompletes.brings hplain.key_eq
  | fails hfails => exact .ended hfails.goes (left_leave _) hfails.draft_eq rfl
  | crashes => exact brings_leave rfl rfl
  | edits _ ih =>
    exact .after (goes_session (Session.tends_edit _ _)) (ih hsteady (hplain.session rfl))
  | inspects _ ih =>
    obtain ⟨hview, hnext⟩ := hsteady _
    have hrest := ih hnext hplain
    rw [hview] at hrest
    exact hrest
  | heads hheads _ ih =>
    simp only [Draft.run, ← hheads.draft_eq]
    exact .after (goes_session hheads.tends)
      (ih (hsteady _) (hplain.session hheads.gives.settings_eq))
  | flushes hflush _ ih =>
    simp only [Draft.run, ← hflush.draft_eq]
    exact .after (goes_session hflush.tends)
      (ih (hsteady _) (hplain.session hflush.gives.settings_eq))
  | @writes t body _ _ session result _ _ hwrites _ ih =>
    have hout : (session.draft, result) = t.session.draft.write body :=
      hwrites.drafted hplain.unhurried
    simp only [Draft.run, ← hout]
    exact .after (goes_session hwrites.tends)
      (ih (hsteady.2 result) (hplain.session hwrites.settings_eq))
  | waits hwrites =>
    obtain ⟨rfl, hnext⟩ := hsteady
    have hdrafted := hwrites.drafted hplain.unhurried
    exact .waits (goes_session hwrites.tends) (hplain.session hwrites.settings_eq)
      ⟨rfl, hnext, _, hdrafted, rfl⟩
  | sticks hwrites => exact (hwrites.drafted hplain.unhurried).elim
  | sleeps => exact .waits (.refl _) hplain ⟨hsteady, rfl⟩
  | asks => exact .waits (.refl _) hplain ⟨hsteady, rfl⟩

end Turn

namespace Service

variable {now : Instant} {s s' : Service τ} {d : Dispatch ε} {o : Outcome ε}
  {goal : Draft × Verdict}

/-- A dispatch that is left waiting. -/
theorem brings_wait (hplain : (d.turn s).Plain) (hdrafts : d.stage.Drafts ⟨d.writer, s.link⟩ goal) :
    (d.turn s).Brings goal s (.inFlight d) :=
  .waits (.refl _) hplain hdrafts

theorem brings_resume (hplain : (d.turn s).Plain)
    (hdrafts : d.stage.Drafts ⟨d.writer, s.link⟩ goal) (h : s.resume now d = (s', o)) :
    (d.turn s).Brings goal s' o := by
  cases resumes_resume h with
  | rests => exact brings_wait hplain hdrafts
  | replays hstage =>
    rw [hstage] at hdrafts
    exact hdrafts.elim
  | @writes _ _ _ session result _ _ hstage hresumes hruns =>
    rw [hstage] at hdrafts
    obtain ⟨rfl, hnext, out, hdrafted, hgoal⟩ := hdrafts
    have hout : (session.draft, result) = out := hresumes.drafted hplain.unhurried hdrafted
    have hsettings := hresumes.settings_eq hdrafted.2.1
    have hrest := hruns.brings (hnext result) (hplain.session hsettings)
    rw [← hgoal, ← hout]
    exact .after (Turn.goes_session hresumes.tends) hrest
  | drops hstage hover =>
    -- a steady handler does not lose patience
    rw [hstage] at hdrafts
    obtain ⟨rfl, -⟩ := hdrafts
    cases hover
  | waits hstage hresumes =>
    rw [hstage] at hdrafts
    obtain ⟨rfl, hnext, out, hdrafted, hgoal⟩ := hdrafts
    have hdrafted₁ := hresumes.drafted hplain.unhurried hdrafted
    have hsettings := hresumes.settings_eq hdrafted.2.1
    exact .waits (Turn.goes_session hresumes.tends) (hplain.session hsettings)
      ⟨rfl, hnext, out, hdrafted₁, hgoal⟩
  | sticks hstage hresumes =>
    rw [hstage] at hdrafts
    obtain ⟨-, -, out, hdrafted, -⟩ := hdrafts
    exact (hresumes.drafted hplain.unhurried hdrafted).elim
  | wakes hstage hruns =>
    rw [hstage] at hdrafts
    obtain ⟨hsteady, rfl⟩ := hdrafts
    exact hruns.brings hsteady hplain

theorem brings_answer {n : Nat} (hplain : (d.turn s).Plain)
    (hdrafts : d.stage.Drafts ⟨d.writer, s.link⟩ goal) (h : s.answer now d n = (s', o)) :
    (d.turn s).Brings goal s' o := by
  cases answers_answer h with
  | rests => exact brings_wait hplain hdrafts
  | tells hstage hruns =>
    rw [hstage] at hdrafts
    obtain ⟨hnext, rfl⟩ := hdrafts
    obtain ⟨hsame, hsteady⟩ := hnext n
    have hbrings := hruns.brings hsteady hplain
    rwa [hsame] at hbrings

end Service

end Sluice
