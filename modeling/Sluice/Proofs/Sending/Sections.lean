import Sluice.Proofs.Sending.Dialogue
import Sluice.Proofs.Writing.Course
import Sluice.Transport.Faulty

/-!
# The calls of a writer are well-formed

A writer is told to do one thing after the other, in any order, while everybody else does with the
link whatever they like and the transport refuses what it likes. Notes are taken of the header
sections it attempted and of the calls it made. They always make up one dialogue.
-/
namespace Sluice

/-- What can happen next to a writer at a tapped link. -/
inductive Prompt (τ : Type) where
  | does (d : Deed)
  /-- Others have the link. -/
  | others (change : Link (Tapped τ) → Link (Tapped τ))

namespace Course

/-- The attempts at a header section that a deed makes. -/
def tries {τ : Type} (c : Course τ) (d : Deed) : List HeaderTry :=
  match d, c.current with
  | .writeHeader status, none => c.session.tries status
  | .flush, none | .write _ _, none => c.session.tries .ok
  | _, _ => []

/-- A write waits only after the header section went out. -/
def Open {τ : Type} (c : Course τ) : Prop := c.current ≠ none → c.session.writer.sent ≠ none

variable {τ : Type} {c : Course (Tapped τ)}

theorem open_of_none (h : c.current = none) : c.Open := fun hcurrent => absurd h hcurrent

/-- However far a write came, what the session said stands. -/
theorem speaks_settle {out : Session (Tapped τ) × Progress} {tries : List HeaderTry}
    {calls : List TransportCall} (h : c.session.Speaks out.1 tries calls) (body : ByteArray)
    (n : Nat) : c.session.Speaks (c.settle body n out).session tries calls := by
  rwa [session_settle]

theorem open_settle {out : Session (Tapped τ) × Progress}
    (h : ∀ write, out.2 = .suspended write → out.1.writer.sent ≠ none) (body : ByteArray)
    (n : Nat) : (c.settle body n out).Open := by
  intro hcurrent
  obtain ⟨write, hwrite⟩ := Option.ne_none_iff_exists'.1 hcurrent
  rw [session_settle]
  exact h write ((c.current_settle body n out write).1 hwrite)

variable [Transport τ]

/-- A deed says what its attempt at a header section takes, and offers. -/
theorem Follows.speaks {d : Deed} {c' : Course (Tapped τ)} (hfollows : c.Follows d c')
    (h : c.Open) : (∃ calls, c.session.Speaks c'.session (c.tries d) calls) ∧ c'.Open := by
  cases hfollows with
  | @edits change hcurrent =>
    simp only [tries, hcurrent]
    exact ⟨⟨[], c.session.speaks_edit change⟩, open_of_none rfl⟩
  | heads hcurrent hheads =>
    obtain ⟨calls, hspeaks, -⟩ := hheads.speaks
    simp only [tries, hcurrent]
    exact ⟨⟨calls, hspeaks⟩, open_of_none rfl⟩
  | flushes hcurrent hflush =>
    obtain ⟨calls, hspeaks, -⟩ := hflush.speaks
    simp only [tries, hcurrent]
    exact ⟨⟨calls, hspeaks⟩, open_of_none rfl⟩
  | writes hcurrent hwrites =>
    obtain ⟨calls, hspeaks, -⟩ := hwrites.speaks
    simp only [tries, hcurrent]
    refine ⟨⟨calls, speaks_settle hspeaks _ 0⟩, open_settle (fun write hwrite => ?_) _ 0⟩
    exact hwrites.sent_ne_none fun result hp => by rw [hp] at hwrite; cases hwrite
  | resumes hcurrent hresumes =>
    have hsent : c.session.writer.sent ≠ none := h (by rw [hcurrent]; exact Option.some_ne_none _)
    obtain ⟨calls, hspeaks, -⟩ := hresumes.speaks hsent
    exact ⟨⟨calls, speaks_settle hspeaks _ _⟩,
      open_settle (fun _ _ => hspeaks.sent_ne_none hsent) _ _⟩
  | drops => exact ⟨⟨[], .refl _⟩, open_of_none rfl⟩
  | idles _ hd =>
    rcases hd with ⟨now, rfl⟩ | rfl
    · exact ⟨⟨[], .refl _⟩, h⟩
    · exact ⟨⟨[], .refl _⟩, h⟩
  | busy hcurrent =>
    have hnone : c.tries d = [] := by cases d <;> simp only [tries, hcurrent]
    rw [hnone]
    exact ⟨⟨[], .refl _⟩, h⟩

end Course

/-- A writer at its link, and notes of what it said. -/
structure HeardWriter (τ : Type) where
  course : Course (Tapped τ)
  /-- The header sections it attempted, in order. -/
  tries : List HeaderTry := []
  /-- The calls it made, in order. -/
  calls : List TransportCall := []

namespace HeardWriter

variable {τ : Type}

/-- A new writer, of which nothing was heard. -/
def start (handle : HandleId) (board : BoardName) (settings : WriterSettings)
    (recorder : Option Recorder) (link : Link (Tapped τ)) : HeardWriter τ where
  course := .start handle board settings recorder link

/-- What holds of the notes at every moment. -/
structure Sound (handle : HandleId) (h : HeardWriter τ) : Prop where
  handle_eq : h.course.session.writer.handle = handle
  opened : h.course.Open
  dialogue : Dialogue handle none h.course.session.writer.sent h.tries h.calls

theorem sound_start (handle : HandleId) (board : BoardName) (settings : WriterSettings)
    (recorder : Option Recorder) (link : Link (Tapped τ)) :
    (start handle board settings recorder link).Sound handle :=
  ⟨rfl, Course.open_of_none rfl, .silent⟩

variable [Transport τ]

def act (h : HeardWriter τ) : Prompt τ → HeardWriter τ
  | .does d =>
    let course := h.course.does d
    let before := h.course.session.link.transport.calls
    { course
      tries := h.tries ++ h.course.tries d
      calls := h.calls ++ course.session.link.transport.calls.drop before.length }
  | .others change => { h with course.session.link := change h.course.session.link }

def run (h : HeardWriter τ) (prompts : List (Prompt τ)) : HeardWriter τ := prompts.foldl act h

variable {handle : HandleId} {h : HeardWriter τ}

theorem Sound.act (hsound : h.Sound handle) (p : Prompt τ) : (h.act p).Sound handle := by
  cases p with
  | does d =>
    obtain ⟨⟨calls, hspeaks⟩, hopen⟩ := (h.course.follows_does d).speaks hsound.opened
    have hdialogue := hspeaks.dialogue
    rw [hsound.handle_eq] at hdialogue
    refine ⟨hspeaks.handle_eq.trans hsound.handle_eq, hopen, ?_⟩
    -- what the deed added to the tap is what it said
    have hheard : (h.act (.does d)).calls = h.calls ++ calls := by
      simp only [HeardWriter.act]
      rw [hspeaks.calls_eq, List.drop_left]
    rw [hheard]
    exact hsound.dialogue.trans hdialogue
  | others change => exact ⟨hsound.handle_eq, hsound.opened, hsound.dialogue⟩

theorem Sound.run (hsound : h.Sound handle) (prompts : List (Prompt τ)) :
    (h.run prompts).Sound handle := by
  induction prompts generalizing h with
  | nil => exact hsound
  | cons p rest ih => exact ih (hsound.act p)

/-- Whatever a writer is told to do and whatever its transport refuses, its calls are attempts at a
header section that fail, then at most one that succeeds, with the status that the writer shows as
sent from then on, and after that offers. In every attempt the layout is that of the fields, and
these are the fields at the call, with the default content type last if they name none. The writer
shows a section as sent when its last call succeeded, and not before. -/
theorem dialogue_run (handle : HandleId) (board : BoardName) (settings : WriterSettings)
    (recorder : Option Recorder) (link : Link (Tapped τ)) (prompts : List (Prompt τ)) :
    let h := (start handle board settings recorder link).run prompts
    Dialogue handle none h.course.session.writer.sent h.tries h.calls ∧
      (h.course.session.writer.sent.isSome = true ↔ .header handle .send (.ok ()) ∈ h.calls) := by
  have hdialogue := ((sound_start handle board settings recorder link).run prompts).dialogue
  exact ⟨hdialogue, hdialogue.isSome_iff rfl⟩

/-- The first `sendHeaders` is refused. The next attempt goes out, and a body after it. -/
example :
    let plan : FaultPlan := { headerCall := fun call => if call = .sendHeaders then [1] else [] }
    let link : Link (Tapped Faulty) := { transport := ⟨{ plan }, []⟩ }
    let h := (start ⟨1⟩ .shared {} none link).run
      [.does (.writeHeader .ok), .does (.write .start "a".toUTF8)]
    h.calls.map TransportCall.isAccepted = [true, true, false, true, true, true, true] := by
  decide +kernel

end HeardWriter

end Sluice
