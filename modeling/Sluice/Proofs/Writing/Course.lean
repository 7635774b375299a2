import Sluice.Proofs.Writing.Calls

/-!
# The course of a writer

Calls of one writer in any order, while everybody else does with the link what they like, as long
as they leave the writer's handle to it. Writes may wait, go on, run out of time or be dropped. A
book is kept of them: what was asked for, how much of it was accepted, and how it ended.
-/
namespace Sluice

/-- The parts one after the other. -/
def joined (parts : List ByteArray) : ByteArray := parts.foldl (· ++ ·) .empty

@[simp] theorem joined_nil : joined [] = .empty := rfl

@[simp] theorem joined_concat (parts : List ByteArray) (last : ByteArray) :
    joined (parts ++ [last]) = joined parts ++ last := by
  simp [joined]

/-- A write that was asked for. -/
structure Attempt where
  body : ByteArray
  /-- How many of its bytes were accepted. -/
  accepted : Nat
  /-- Absent while the write waits, and for good if it was dropped. -/
  result : Option (Except WriteError Nat)

namespace Attempt

/-- What was accepted. -/
def taken (a : Attempt) : ByteArray := a.body.extract 0 a.accepted

/-- No more was accepted than was asked for, and all of it if the write says so. -/
structure Fair (a : Attempt) : Prop where
  le : a.accepted ≤ a.body.size
  ok : ∀ n, a.result = some (.ok n) → n = a.body.size ∧ a.accepted = a.body.size

def ofPending (p : PendingWrite) : Attempt := ⟨p.body, p.written, none⟩

@[simp] theorem taken_zero (body : ByteArray) (result : Option (Except WriteError Nat)) :
    taken ⟨body, 0, result⟩ = .empty := by
  simp [taken]

/-- A write that was not answered with a count is fair to any prefix. -/
theorem Fair.of_le {body : ByteArray} {n : Nat} {result : Option (Except WriteError Nat)}
    (hn : n ≤ body.size) (h : ∀ m, result ≠ some (.ok m)) : Fair ⟨body, n, result⟩ :=
  ⟨hn, fun m hm => absurd hm (h m)⟩

theorem Fair.whole (body : ByteArray) : Fair ⟨body, body.size, some (.ok body.size)⟩ := by
  refine ⟨Nat.le_refl _, fun n hn => ?_⟩
  cases hn
  exact ⟨rfl, rfl⟩

/-- All of a write that succeeded was accepted. -/
theorem Fair.taken_of_ok {a : Attempt} (h : a.Fair) {n : Nat} (hn : a.result = some (.ok n)) :
    a.taken = a.body := by
  rw [taken, (h.ok n hn).2]
  exact a.body.extract_zero_size

end Attempt

variable {τ : Type}

/-- What a writer can be told to do. -/
inductive Deed where
  | edit (change : Fields.Edit)
  | writeHeader (status : Http.Status)
  | flush
  | write (now : Instant) (body : ByteArray)
  /-- The write that waits is looked at, and goes on or ends if it can. -/
  | resume (now : Instant)
  /-- The write that waits is dropped. -/
  | drop

/-- A writer at its link, and the book of its writes. -/
structure Course (τ : Type) where
  session : Session τ
  /-- The writes that are over, in the order in which they were called. -/
  ended : List Attempt := []
  /-- The write that waits. -/
  current : Option PendingWrite := none

namespace Course

/-- All writes, in the order in which they were called. -/
def attempts (c : Course τ) : List Attempt := c.ended ++ (c.current.map .ofPending).toList

theorem attempts_of_none {c : Course τ} (h : c.current = none) : c.attempts = c.ended := by
  simp [attempts, h]

theorem attempts_of_some {c : Course τ} {p : PendingWrite} (h : c.current = some p) :
    c.attempts = c.ended ++ [.ofPending p] := by
  simp [attempts, h]

/-- A new writer. -/
def start (handle : HandleId) (board : BoardName) (settings : WriterSettings)
    (recorder : Option Recorder) (link : Link τ) : Course τ where
  session := ⟨{ handle, board, settings, recorder }, link⟩

/-- Books how far a write came of which `n` bytes had been accepted before. -/
def settle (c : Course τ) (body : ByteArray) (n : Nat) : Session τ × Progress → Course τ
  | (s, .finished (.ok m)) => ⟨s, c.ended ++ [⟨body, m, some (.ok m)⟩], none⟩
  | (s, .finished (.error e)) => ⟨s, c.ended ++ [⟨body, n, some (.error e)⟩], none⟩
  | (s, .suspended write) => ⟨s, c.ended, some write⟩
  | (s, .endless) => ⟨s, c.ended ++ [⟨body, n, none⟩], none⟩

theorem session_settle (c : Course τ) (body : ByteArray) (n : Nat) (out : Session τ × Progress) :
    (c.settle body n out).session = out.1 := by
  rcases out with ⟨s, (e | m) | write | _⟩ <;> rfl

/-- A write waits if and only if the session was left so. -/
theorem current_settle (c : Course τ) (body : ByteArray) (n : Nat) (out : Session τ × Progress)
    (write : PendingWrite) :
    (c.settle body n out).current = some write ↔ out.2 = .suspended write := by
  rcases out with ⟨s, (e | m) | write | _⟩ <;> simp [settle]

/-- Whatever the end, the write that was called stands in the book. -/
theorem bodies_settle (c : Course τ) {body : ByteArray} {n : Nat} {s : Session τ} {p : Progress}
    (h : ∀ write, p = .suspended write → write.body = body) :
    (c.settle body n (s, p)).attempts.map Attempt.body = c.ended.map Attempt.body ++ [body] := by
  rcases p with (e | m) | write | _
  · simp [settle, attempts]
  · simp [settle, attempts]
  · simp [settle, attempts, Attempt.ofPending, h write rfl]
  · simp [settle, attempts]

variable [Transport τ]

/-- One deed. While a write waits its writer is not free for another; what it is told then is
nothing. -/
def does (c : Course τ) (d : Deed) : Course τ :=
  match d, c.current with
  | .edit change, none => { c with session := c.session.edit change }
  | .writeHeader status, none => { c with session := (c.session.writeHeader status).1 }
  | .flush, none => { c with session := c.session.flush.1 }
  | .write now body, none => c.settle body 0 (c.session.write now body)
  | .resume now, some p => c.settle p.body p.written (c.session.resume now p)
  | .drop, some p => { c with ended := c.ended ++ [.ofPending p], current := none }
  | _, _ => c

/-- What `does` can do. -/
inductive Follows (c : Course τ) : Deed → Course τ → Prop where
  | edits {change} : c.current = none →
      Follows c (.edit change) { c with session := c.session.edit change }
  | heads {status session result} : c.current = none →
      c.session.Heads status session result → Follows c (.writeHeader status) { c with session }
  | flushes {session result} : c.current = none → c.session.Flushes session result →
      Follows c .flush { c with session }
  | writes {now body session p} : c.current = none → c.session.Writes now body session p →
      Follows c (.write now body) (c.settle body 0 (session, p))
  | resumes {now write session p} : c.current = some write →
      c.session.Resumes now write session p →
      Follows c (.resume now) (c.settle write.body write.written (session, p))
  | drops {write} : c.current = some write →
      Follows c .drop { c with ended := c.ended ++ [.ofPending write], current := none }
  /-- There is nothing to resume or to drop. -/
  | idles {d} : c.current = none → (∃ now, d = .resume now) ∨ d = .drop → Follows c d c
  /-- The writer is not free. -/
  | busy {d write} : c.current = some write → (∀ now, d ≠ .resume now) → d ≠ .drop →
      Follows c d c

theorem follows_does (c : Course τ) (d : Deed) : c.Follows d (c.does d) := by
  cases hcurrent : c.current with
  | none =>
    cases d with
    | edit change => simpa only [does, hcurrent] using Follows.edits hcurrent
    | writeHeader status =>
      simpa only [does, hcurrent] using
        Follows.heads hcurrent (c.session.heads_writeHeader status)
    | flush => simpa only [does, hcurrent] using Follows.flushes hcurrent c.session.flushes_flush
    | write now body =>
      simpa only [does, hcurrent] using Follows.writes hcurrent (c.session.writes_write now body)
    | resume now =>
      simpa only [does, hcurrent] using Follows.idles hcurrent (.inl ⟨now, rfl⟩)
    | drop => simpa only [does, hcurrent] using Follows.idles hcurrent (.inr rfl)
  | some write =>
    cases d with
    | resume now =>
      simpa only [does, hcurrent] using
        Follows.resumes hcurrent (c.session.resumes_resume now write)
    | drop => simpa only [does, hcurrent] using Follows.drops hcurrent
    | _ =>
      simp only [does, hcurrent]
      exact .busy hcurrent nofun nofun

end Course

variable [Transport τ] [Transport.Faithful τ]

/-! ## What a deed gives the transport -/

namespace Session

/-- What was sent of the body: nothing before the header section went out, whatever a refused call
left behind. -/
def sentBody (s : Session τ) : ByteArray :=
  if s.writer.sent = none then .empty else s.received.body

theorem sentBody_of_sent {s : Session τ} (h : s.writer.sent ≠ none) :
    s.sentBody = s.received.body :=
  if_neg h

theorem sentBody_of_unsent {s : Session τ} (h : s.writer.sent = none) : s.sentBody = .empty :=
  if_pos h

/-- From the first session to the second these bytes were added to the body and counted. -/
structure Gives (s s' : Session τ) (bytes : ByteArray) : Prop where
  handle_eq : s'.writer.handle = s.writer.handle
  settings_eq : s'.writer.settings = s.writer.settings
  sent : s.writer.sent ≠ none → s'.writer.sent ≠ none
  body_eq : s'.sentBody = s.sentBody ++ bytes
  bytes_eq : s'.writer.stats.bytes = s.writer.stats.bytes + bytes.size

namespace Gives

variable {s s₁ s₂ : Session τ} {a b : ByteArray}

theorem refl (s : Session τ) : Gives s s .empty := ⟨rfl, rfl, id, by simp, rfl⟩

theorem trans (h : Gives s s₁ a) (h' : Gives s₁ s₂ b) : Gives s s₂ (a ++ b) where
  handle_eq := h'.handle_eq.trans h.handle_eq
  settings_eq := h'.settings_eq.trans h.settings_eq
  sent hs := h'.sent (h.sent hs)
  body_eq := by rw [h'.body_eq, h.body_eq, ByteArray.append_assoc]
  bytes_eq := by rw [h'.bytes_eq, h.bytes_eq, ByteArray.size_append, Nat.add_assoc]

/-- First these bytes, then nothing. -/
theorem before (h : Gives s s₁ a) (h' : Gives s₁ s₂ .empty) : Gives s s₂ a := by
  simpa using h.trans h'

/-- The writer kept its handle, its settings, its status and its counts, and the transport kept
what it holds of the response. -/
theorem of_same (hhandle : s₁.writer.handle = s.writer.handle)
    (hsettings : s₁.writer.settings = s.writer.settings) (hsent : s₁.writer.sent = s.writer.sent)
    (hstats : s₁.writer.stats = s.writer.stats) (hreceived : s₁.received = s.received) :
    Gives s s₁ .empty where
  handle_eq := hhandle
  settings_eq := hsettings
  sent h := by rwa [hsent]
  body_eq := by simp [sentBody, hsent, hreceived]
  bytes_eq := by simp [hstats]

/-- Changes of the link that keep what the handle received. -/
theorem of_link {l : Link τ}
    (h : Transport.Faithful.received l.transport s.writer.handle = s.received) :
    Gives s { s with link := l } .empty :=
  of_same rfl rfl rfl rfl h

end Gives

theorem Heads.gives {status : Http.Status} {s s' : Session τ} {result : Except WriteError Unit}
    (h : Heads status s s' result) : Gives s s' .empty := by
  have hreceived := h
  cases h with
  | repeated => exact .of_link rfl
  | unfit => exact .of_same rfl rfl rfl rfl rfl
  | refused hsent =>
    refine ⟨rfl, rfl, id, ?_, by simp [Writer.prepared]⟩
    -- what the refused call left behind is not looked at
    rw [sentBody_of_unsent hsent, ByteArray.append_empty]
    exact sentBody_of_unsent hsent
  | sent hsent =>
    refine ⟨rfl, rfl, nofun, ?_, by simp [Writer.opened, Writer.prepared]⟩
    rw [sentBody_of_unsent hsent, sentBody_of_sent (Option.some_ne_none _), ByteArray.append_empty]
    exact congrArg Received.body (hreceived.received_eq hsent)

theorem Flushes.gives {s s' : Session τ} {result : Except WriteError Unit}
    (h : Flushes s s' result) : Gives s s' .empty := by
  cases h with
  | already => exact .refl s
  | heads _ hheads => exact hheads.gives

theorem Accepts.gives {body : ByteArray} {s s' : Session τ} {n m : Nat}
    (h : Accepts body s n s' m) (hm : m ≤ body.size) (hsent : s.writer.sent ≠ none) :
    Gives s s' (body.extract n m) := by
  have hsent' : s'.writer.sent ≠ none := by rwa [h.alike.sent_eq]
  refine ⟨h.alike.handle_eq, h.alike.settings_eq, fun _ => hsent', ?_, ?_⟩
  · rw [sentBody_of_sent hsent, sentBody_of_sent hsent', h.received, Received.body_append]
  · rw [h.bytes, ByteArray.size_extract, Nat.min_eq_left hm]

theorem Ends.gives {body : ByteArray} {s s' : Session τ} {n : Nat} {p : Progress}
    (h : Ends body s n s' p) : Gives s s' .empty := by
  cases h with
  | finished =>
    have hwriter := s.writer_finishBody body
    refine .of_same ?_ ?_ ?_ ?_ ?_ <;> simp [received, hwriter]
  | suspended => exact .refl s
  | endless => exact .refl s

theorem gives_giveUp (s : Session τ) (board : AckBoard) (write : PendingWrite) (e : WriteError) :
    Gives s (({ s with link := s.link.setBoard s.writer.board board } : Session τ).giveUp write e)
      .empty := by
  refine .of_same rfl rfl rfl rfl ?_
  simp [received, giveUp, report, unregister]

end Session

/-! ## Courses -/

/-- What others do with a link: anything that keeps what the transport holds of the response on
this handle. -/
structure Elsewhere (τ : Type) [Transport τ] [Transport.Faithful τ] (handle : HandleId) where
  change : Link τ → Link τ
  keeps : ∀ l, Transport.Faithful.received (change l).transport handle =
    Transport.Faithful.received l.transport handle

namespace Elsewhere

/-- A signal is raised, wherever it comes from. -/
def raise (handle : HandleId) (signal : Signal) : Elsewhere τ handle where
  change l := l.raise signal
  keeps l := by rw [Link.transport_raise]

/-- The front end drains a buffer, and what the transport tells of it is passed on. -/
def drain (handle drained : HandleId) : Elsewhere Loopback handle where
  change l :=
    let (t, _, signals) := l.transport.drain drained
    { l with transport := t }.raiseAll signals
  keeps l := by
    rw [Link.transport_raiseAll]
    exact l.transport.received_exchange_drain drained handle

end Elsewhere

/-- What can happen next to a writer of this handle. -/
inductive Call (τ : Type) [Transport τ] [Transport.Faithful τ] (handle : HandleId) where
  | does (d : Deed)
  | elsewhere (e : Elsewhere τ handle)

namespace Course

variable {handle : HandleId}

def act (c : Course τ) : Call τ handle → Course τ
  | .does d => c.does d
  | .elsewhere e => { c with session.link := e.change c.session.link }

def run (c : Course τ) (calls : List (Call τ handle)) : Course τ := calls.foldl act c

/-- The body of the write that a call begins, if it begins one. -/
def begins (c : Course τ) (call : Call τ handle) : List ByteArray :=
  match call, c.current with
  | .does (.write _ body), none => [body]
  | _, _ => []

/-- The bodies of the writes that the calls begin, in order. -/
def begun (c : Course τ) : List (Call τ handle) → List ByteArray
  | [] => []
  | call :: rest => c.begins call ++ (c.act call).begun rest

/-! ## The book is true -/

/-- These writes account for the body, byte by byte. -/
structure Books (attempts : List Attempt) (s : Session τ) : Prop where
  body_eq : s.sentBody = joined (attempts.map Attempt.taken)
  bytes_eq : s.writer.stats.bytes = s.sentBody.size
  fair : ∀ a ∈ attempts, a.Fair

namespace Books

variable {attempts : List Attempt} {s s' : Session τ} {body bytes : ByteArray} {n m : Nat}

theorem gives (h : Books attempts s) (hg : s.Gives s' .empty) : Books attempts s' where
  body_eq := by rw [hg.body_eq, ByteArray.append_empty, h.body_eq]
  bytes_eq := by
    rw [hg.bytes_eq, hg.body_eq, ByteArray.append_empty, h.bytes_eq]
    rfl
  fair := h.fair

/-- The last write got on. -/
theorem advance {r r' : Option (Except WriteError Nat)}
    (h : Books (attempts ++ [⟨body, n, r⟩]) s) (hg : s.Gives s' (body.extract n m)) (hle : n ≤ m)
    (hfair : Attempt.Fair ⟨body, m, r'⟩) : Books (attempts ++ [⟨body, m, r'⟩]) s' where
  body_eq := by
    have hbody := h.body_eq
    simp only [List.map_append, List.map_cons, List.map_nil, joined_concat, Attempt.taken] at *
    rw [hg.body_eq, hbody, ByteArray.append_assoc,
      extract_append_extract_of_le body (Nat.zero_le n) hle]
  bytes_eq := by
    rw [hg.bytes_eq, hg.body_eq, ByteArray.size_append, h.bytes_eq]
  fair a ha := by
    rcases List.mem_append.1 ha with ha | ha
    · exact h.fair a (List.mem_append_left _ ha)
    · obtain rfl := List.mem_singleton.1 ha
      exact hfair

/-- The last write failed, and got no further. -/
theorem fail {e : WriteError} (h : Books (attempts ++ [⟨body, n, none⟩]) s)
    (hg : s.Gives s' .empty) (hn : n ≤ body.size) :
    Books (attempts ++ [⟨body, n, some (.error e)⟩]) s' := by
  have hg' : s.Gives s' (body.extract n n) := by simpa using hg
  exact h.advance hg' (Nat.le_refl n) (.of_le hn nofun)

/-- A write is asked for. -/
theorem begin (h : Books attempts s) (body : ByteArray) :
    Books (attempts ++ [⟨body, 0, none⟩]) s where
  body_eq := by simp [h.body_eq]
  bytes_eq := h.bytes_eq
  fair a ha := by
    rcases List.mem_append.1 ha with ha | ha
    · exact h.fair a ha
    · obtain rfl := List.mem_singleton.1 ha
      exact .of_le (Nat.zero_le _) nofun

end Books

/-- What holds of a course at every moment. -/
structure Sound (handle : HandleId) (c : Course τ) : Prop where
  handle_eq : c.session.writer.handle = handle
  chunk_pos : 0 < c.session.writer.settings.chunkSize
  books : Books c.attempts c.session
  /-- A write waits only after the header section went out, and for some of its bytes. -/
  waits : ∀ p, c.current = some p → c.session.writer.sent ≠ none ∧ p.written < p.body.size

theorem sound_start (handle : HandleId) (board : BoardName) (settings : WriterSettings)
    (recorder : Option Recorder) (link : Link τ) (h : 0 < settings.chunkSize) :
    Sound handle (start handle board settings recorder link) :=
  ⟨rfl, h, ⟨rfl, rfl, nofun⟩, nofun⟩

namespace Sound

variable {c : Course τ}

/-- A session that gave nothing keeps a course sound that has no write waiting. -/
theorem gives {s' : Session τ} (h : Sound handle c) (hcurrent : c.current = none)
    (hg : c.session.Gives s' .empty) : Sound handle { c with session := s' } where
  handle_eq := hg.handle_eq.trans h.handle_eq
  chunk_pos := by
    show 0 < s'.writer.settings.chunkSize
    rw [hg.settings_eq]
    exact h.chunk_pos
  books := h.books.gives hg
  waits p hp := by
    rw [show c.current = some p from hp] at hcurrent
    cases hcurrent

theorem elsewhere (h : Sound handle c) (e : Elsewhere τ handle) :
    Sound handle { c with session.link := e.change c.session.link } := by
  have hkeeps : Transport.Faithful.received (e.change c.session.link).transport
      c.session.writer.handle = c.session.received := by
    rw [h.handle_eq, e.keeps, Session.received, h.handle_eq]
  exact ⟨h.handle_eq, h.chunk_pos, h.books.gives (.of_link hkeeps), h.waits⟩

theorem drop {p : PendingWrite} (h : Sound handle c) (hcurrent : c.current = some p) :
    Sound handle { c with ended := c.ended ++ [.ofPending p], current := none } := by
  refine ⟨h.handle_eq, h.chunk_pos, ?_, nofun⟩
  rw [attempts_of_none rfl, ← attempts_of_some hcurrent]
  exact h.books

/-- A run of the loop of which the book knows the beginning. -/
theorem pours {now : Instant} {body : ByteArray} {n : Nat} {s s' : Session τ} {p : Progress}
    (hbooks : Books (c.ended ++ [⟨body, n, none⟩]) s) (hhandle : s.writer.handle = handle)
    (hchunk : 0 < s.writer.settings.chunkSize) (hsent : s.writer.sent ≠ none)
    (hn : n ≤ body.size) (hpours : s.Pours now body n s' p) :
    Sound handle (c.settle body n (s', p)) := by
  obtain ⟨s₁, m, haccepts, hends⟩ := hpours.accepts hn
  have hsettings := haccepts.alike.settings_eq
  -- whatever the end, the bytes up to `m` were given
  have hgives (hm : m ≤ body.size) : s.Gives s' (body.extract n m) :=
    (haccepts.gives hm hsent).before hends.gives
  cases hends with
  | finished =>
    have hg := hgives (Nat.le_refl _)
    refine ⟨hg.handle_eq.trans hhandle, ?_, ?_, nofun⟩
    · simp only [settle]
      rwa [hg.settings_eq]
    · rw [attempts_of_none rfl]
      exact hbooks.advance hg haccepts.le (.whole body)
  | @suspended write hbody hlt =>
    have hg := hgives (Nat.le_of_lt hlt)
    refine ⟨hg.handle_eq.trans hhandle, ?_, ?_, ?_⟩
    · simp only [settle]
      rwa [hg.settings_eq]
    · have hfair : Attempt.Fair ⟨body, write.written, none⟩ := .of_le (Nat.le_of_lt hlt) nofun
      rw [attempts_of_some rfl, Attempt.ofPending, hbody]
      exact hbooks.advance hg haccepts.le hfair
    · intro p hp
      cases hp
      exact ⟨hg.sent hsent, hbody ▸ hlt⟩
  | endless hzero =>
    rw [hsettings] at hzero
    exact absurd hzero (Nat.ne_of_gt hchunk)

theorem write {now : Instant} {body : ByteArray} {s' : Session τ} {p : Progress}
    (h : Sound handle c) (hcurrent : c.current = none)
    (hwrites : c.session.Writes now body s' p) : Sound handle (c.settle body 0 (s', p)) := by
  have hbooks : Books (c.ended ++ [⟨body, 0, none⟩]) c.session := by
    rw [← attempts_of_none hcurrent]
    exact h.books.begin body
  cases hwrites with
  | failed hflush =>
    have hg := hflush.gives
    refine ⟨hg.handle_eq.trans h.handle_eq, ?_, ?_, nofun⟩
    · simp only [settle]
      rw [hg.settings_eq]
      exact h.chunk_pos
    · rw [attempts_of_none rfl]
      exact hbooks.fail hg (Nat.zero_le _)
  | @pours s₁ _ _ hflush hpours =>
    have hg := hflush.gives
    refine Sound.pours (hbooks.gives hg) (hg.handle_eq.trans h.handle_eq) ?_ hflush.sent_ne_none
      (Nat.zero_le _) hpours
    rw [hg.settings_eq]
    exact h.chunk_pos

theorem resume {p : PendingWrite} {now : Instant} {s' : Session τ} {progress : Progress}
    (h : Sound handle c) (hcurrent : c.current = some p)
    (hresumes : c.session.Resumes now p s' progress) :
    Sound handle (c.settle p.body p.written (s', progress)) := by
  obtain ⟨hsent, hlt⟩ := h.waits p hcurrent
  have hbooks : Books (c.ended ++ [.ofPending p]) c.session := by
    rw [← attempts_of_some hcurrent]
    exact h.books
  cases hresumes with
  | waits =>
    refine ⟨h.handle_eq, h.chunk_pos, by rwa [attempts_of_some rfl], ?_⟩
    intro q hq
    cases hq
    exact ⟨hsent, hlt⟩
  | @gaveUp board e _ =>
    -- what was accepted before the time was up stays in the book
    have hg := c.session.gives_giveUp board p e
    refine ⟨hg.handle_eq.trans h.handle_eq, h.chunk_pos, ?_, nofun⟩
    rw [attempts_of_none rfl]
    exact hbooks.fail hg (Nat.le_of_lt hlt)
  | @pours board ready _ _ _ hpours =>
    have hg : c.session.Gives (({ c.session with
        link := c.session.link.setBoard c.session.writer.board board } : Session τ).report
        (.ackReceived c.session.writer.handle ready)) .empty :=
      .of_same rfl rfl rfl rfl (by simp [Session.received, Session.report])
    exact Sound.pours (hbooks.gives hg) h.handle_eq h.chunk_pos hsent (Nat.le_of_lt hlt) hpours

/-- No deed does away with what holds. -/
theorem follows {d : Deed} {c' : Course τ} (h : Sound handle c) (hfollows : c.Follows d c') :
    Sound handle c' := by
  cases hfollows with
  | edits hcurrent => exact h.gives hcurrent (.of_same rfl rfl rfl rfl rfl)
  | heads hcurrent hheads => exact h.gives hcurrent hheads.gives
  | flushes hcurrent hflush => exact h.gives hcurrent hflush.gives
  | writes hcurrent hwrites => exact h.write hcurrent hwrites
  | resumes hcurrent hresumes => exact h.resume hcurrent hresumes
  | drops hcurrent => exact h.drop hcurrent
  | idles => exact h
  | busy => exact h

theorem act (h : Sound handle c) (call : Call τ handle) : Sound handle (c.act call) := by
  cases call with
  | does d => exact h.follows (c.follows_does d)
  | elsewhere e => exact h.elsewhere e

theorem run (h : Sound handle c) (calls : List (Call τ handle)) : Sound handle (c.run calls) := by
  induction calls generalizing c with
  | nil => exact h
  | cons call rest ih => exact ih (h.act call)

end Sound

/-! ## The book is complete -/

/-- A call adds to the book the write that it begins. -/
theorem bodies_act (c : Course τ) (call : Call τ handle) :
    (c.act call).attempts.map Attempt.body = c.attempts.map Attempt.body ++ c.begins call := by
  rcases call with d | e
  · cases hcurrent : c.current with
    | none =>
      cases d with
      | write now body =>
        simp only [act, does, begins, hcurrent]
        rw [attempts_of_none hcurrent]
        exact c.bodies_settle fun write hwrite =>
          (c.session.writes_write now body).body_eq hwrite
      | _ => simp [act, does, begins, hcurrent, attempts]
    | some p =>
      cases d with
      | resume now =>
        simp only [act, does, begins, hcurrent]
        rw [attempts_of_some hcurrent]
        have hbodies := c.bodies_settle (n := p.written) (s := (c.session.resume now p).1)
          fun write hwrite => (c.session.resumes_resume now p).body_eq hwrite
        simpa [Attempt.ofPending] using hbodies
      | _ => simp [act, does, begins, hcurrent, attempts]
  · simp [act, begins, attempts]

theorem bodies_run (c : Course τ) (calls : List (Call τ handle)) :
    (c.run calls).attempts.map Attempt.body = c.attempts.map Attempt.body ++ c.begun calls := by
  induction calls generalizing c with
  | nil => simp [run, begun]
  | cons call rest ih =>
    show ((c.act call).run rest).attempts.map Attempt.body = _
    rw [ih, bodies_act, begun, List.append_assoc]

/-- No byte is lost, doubled or moved. Whatever is called, and whatever others do meanwhile, once
the header section is out the body that the transport holds is what was accepted of each write, in
the order of the calls: all of one that succeeded, a prefix of any other. The writer's byte count is
the length of that body. -/
theorem received_body_eq_joined (handle : HandleId) (board : BoardName) (settings : WriterSettings)
    (recorder : Option Recorder) (link : Link τ) (calls : List (Call τ handle))
    (hchunk : 0 < settings.chunkSize) :
    let c := start handle board settings recorder link
    let c' := c.run calls
    c'.attempts.map Attempt.body = c.begun calls ∧
      (∀ a ∈ c'.attempts, a.accepted ≤ a.body.size ∧
        ∀ n, a.result = some (.ok n) → n = a.body.size ∧ a.taken = a.body) ∧
      (c'.session.writer.sent ≠ none →
        c'.session.received.body = joined (c'.attempts.map Attempt.taken) ∧
          c'.session.writer.stats.bytes = c'.session.received.body.size) := by
  intro c c'
  have hsound : Sound handle c' :=
    (sound_start handle board settings recorder link hchunk).run calls
  refine ⟨c.bodies_run calls, fun a ha => ?_, fun hsent => ?_⟩
  · have hfair := hsound.books.fair a ha
    exact ⟨hfair.le, fun n hn => ⟨(hfair.ok n hn).1, hfair.taken_of_ok hn⟩⟩
  · rw [← Session.sentBody_of_sent hsent]
    exact ⟨hsound.books.body_eq, hsound.books.bytes_eq⟩

/-- A buffer of four bytes. -/
def shortLink : Link Loopback := { transport := { capacity := some 4, routing := some .perHandle } }

/-- A course over a short buffer: a write that succeeds after a drain, one that is dropped, one that
runs out of time after a stale acknowledgment, and one that still waits. -/
def crowded : List (Call Loopback ⟨1⟩) :=
  [.does (.write ⟨0⟩ "abcdef".toUTF8), .elsewhere (.drain ⟨1⟩ ⟨1⟩), .does (.resume ⟨0⟩),
    .does (.write ⟨0⟩ "ghij".toUTF8), .does .drop, .elsewhere (.raise ⟨1⟩ (.ackAll 1)),
    .does (.write ⟨0⟩ "kl".toUTF8), .does (.resume ⟨0⟩), .does (.resume ⟨5000000⟩),
    .elsewhere (.drain ⟨1⟩ ⟨1⟩), .does (.write ⟨5000000⟩ "mnopq".toUTF8)]

theorem received_body_crowded :
    let settings : WriterSettings := { chunkSize := 3, ackTimeoutMs := some 5 }
    let c := (start ⟨1⟩ .shared settings none shortLink).run crowded
    c.session.received.body = joined (c.attempts.map Attempt.taken) ∧
      joined (c.attempts.map Attempt.taken) = "abcdefghmnop".toUTF8 := by
  intro settings c
  have hsent : c.session.writer.sent ≠ none := by decide +kernel
  have hbody := (received_body_eq_joined ⟨1⟩ .shared settings none shortLink crowded
    (by decide)).2.2 hsent
  have htaken : joined (c.attempts.map Attempt.taken) = "abcdefghmnop".toUTF8 := by decide +kernel
  exact ⟨hbody.1, htaken⟩

end Course

end Sluice
