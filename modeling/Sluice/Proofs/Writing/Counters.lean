import Mathlib.Algebra.Ring.Nat
import Sluice.Proofs.Sending.Sections
import Sluice.Proofs.Writing.TracedWrite

/-!
# What a writer's counters count

A writer is told to do one thing after the other while others do with the link what they like, and
notes are taken of the offers it makes and of the waits it begins. Its counters are what the notes
say, with two reservations. What is left of a chunk that was cut short is offered once more, and
that second offer is never counted as a short one. A wait is counted when it begins, also if a count
that was there already ends it at once.
-/
namespace Sluice

namespace TransportCall

/-- How many bytes of the chunk count as accepted: all of them if the answer goes beyond. -/
def taken : TransportCall → Nat
  | .offer _ chunk answer => min answer chunk.size
  | _ => 0

/-- Part of the chunk was left behind. -/
def isShort : TransportCall → Bool
  | .offer _ chunk answer => answer < chunk.size
  | _ => false

/-- The second offers: after one that is cut short the next is made of what it left. -/
def seconds : List TransportCall → List TransportCall
  | x :: y :: rest => if x.isShort then y :: seconds rest else seconds (y :: rest)
  | _ => []

/-- Every offer that was cut short is followed by its second, of the rest of the chunk. -/
inductive Paired : List TransportCall → Prop where
  | none : Paired []
  | whole {x xs} : x.isShort = false → Paired xs → Paired (x :: xs)
  | again {handle chunk a b xs} : a < chunk.size → Paired xs →
      Paired (.offer handle chunk a :: .offer handle (chunk.extract a chunk.size) b :: xs)

theorem seconds_cons_of_whole {x : TransportCall} (h : x.isShort = false)
    (xs : List TransportCall) : seconds (x :: xs) = seconds xs := by
  cases xs with
  | nil => rfl
  | cons y rest => exact if_neg (ne_true_of_eq_false h)

theorem seconds_cons_of_short {x : TransportCall} (h : x.isShort = true) (y : TransportCall)
    (xs : List TransportCall) : seconds (x :: y :: xs) = y :: seconds xs :=
  if_pos h

variable {xs ys : List TransportCall}

theorem Paired.append (h : Paired xs) (h' : Paired ys) : Paired (xs ++ ys) := by
  induction h with
  | none => exact h'
  | whole hwhole _ ih => exact .whole hwhole ih
  | again hcut _ ih => exact .again hcut ih

theorem Paired.seconds_append (h : Paired xs) (ys : List TransportCall) :
    seconds (xs ++ ys) = seconds xs ++ seconds ys := by
  induction h with
  | none => rfl
  | whole hwhole _ ih =>
    rw [List.cons_append, seconds_cons_of_whole hwhole, seconds_cons_of_whole hwhole, ih]
  | @again handle chunk a _ _ hcut _ ih =>
    have hshort : isShort (.offer handle chunk a) = true := decide_eq_true hcut
    rw [List.cons_append, List.cons_append, seconds_cons_of_short hshort,
      seconds_cons_of_short hshort, ih, List.cons_append]

end TransportCall

open TransportCall

/-- The counters have grown by these offers and by so many waits. -/
structure WriteStats.Grows (st : WriteStats) (xs : List TransportCall) (waits : Nat)
    (st' : WriteStats) : Prop where
  paired : Paired xs
  offers_eq : st'.offers = st.offers + xs.length
  partialOffers_add :
    st'.partialOffers + (seconds xs).countP isShort = st.partialOffers + xs.countP isShort
  waits_eq : st'.waits = st.waits + waits
  bytes_eq : st'.bytes = st.bytes + (xs.map taken).sum

namespace WriteStats.Grows

variable {st st₁ st₂ : WriteStats} {xs ys : List TransportCall} {n m : Nat}

theorem refl (st : WriteStats) : st.Grows [] 0 st := ⟨.none, rfl, rfl, rfl, rfl⟩

theorem trans (h : st.Grows xs n st₁) (h' : st₁.Grows ys m st₂) :
    st.Grows (xs ++ ys) (n + m) st₂ := by
  obtain ⟨hpaired, hoffers, hpartial, hwaits, hbytes⟩ := h
  obtain ⟨hpaired', hoffers', hpartial', hwaits', hbytes'⟩ := h'
  refine ⟨hpaired.append hpaired', ?_, ?_, ?_, ?_⟩
  · rw [hoffers', hoffers, List.length_append, Nat.add_assoc]
  · rw [hpaired.seconds_append, List.countP_append, List.countP_append]
    omega
  · rw [hwaits', hwaits, Nat.add_assoc]
  · rw [hbytes', hbytes, List.map_append, List.sum_append, Nat.add_assoc]

end WriteStats.Grows

/-- A write has to wait at the end: one wait was begun. -/
def Progress.waits : Progress → Nat
  | .suspended _ => 1
  | _ => 0

namespace Session

variable {τ : Type}

/-- From the first session to the second these offers were made and so many waits begun, and the
counters say so. Calls that offer nothing may have been made besides. -/
structure Counts (s : Session (Tapped τ)) (xs : List TransportCall) (waits : Nat)
    (s' : Session (Tapped τ)) : Prop where
  grows : s.writer.stats.Grows xs waits s'.writer.stats
  calls : ∃ calls, s'.link.transport.calls = s.link.transport.calls ++ calls ∧
    calls.filter isOffer = xs

variable {s s₁ s₂ s₃ s' : Session (Tapped τ)} {xs ys : List TransportCall} {n m : Nat}
  {body chunk rest : ByteArray}

namespace Counts

theorem trans (h : Counts s xs n s₁) (h' : Counts s₁ ys m s₂) :
    Counts s (xs ++ ys) (n + m) s₂ := by
  obtain ⟨calls, hcalls, rfl⟩ := h.calls
  obtain ⟨more, hmore, rfl⟩ := h'.calls
  refine ⟨h.grows.trans h'.grows, calls ++ more, ?_, List.filter_append ..⟩
  rw [hmore, hcalls, List.append_assoc]

/-- First this, then neither an offer nor a wait. -/
theorem before (h : Counts s xs n s₁) (h' : Counts s₁ [] 0 s₂) : Counts s xs n s₂ := by
  simpa using h.trans h'

/-- First neither an offer nor a wait, then this. -/
theorem after (h : Counts s [] 0 s₁) (h' : Counts s₁ xs n s₂) : Counts s xs n s₂ := by
  simpa using h.trans h'

/-- Nothing was counted, and no call heard. -/
theorem of_same (hstats : s₁.writer.stats = s.writer.stats)
    (hcalls : s₁.link.transport.calls = s.link.transport.calls) : Counts s [] 0 s₁ :=
  ⟨by rw [hstats]; exact .refl _, [], by rw [hcalls, List.append_nil], rfl⟩

/-- Nothing was counted, and no offer heard. -/
theorem of_offers (h : s.Offers body [] s₁) (hstats : s₁.writer.stats = s.writer.stats) :
    Counts s [] 0 s₁ :=
  ⟨by rw [hstats]; exact .refl _, h.calls⟩

end Counts

variable [Transport τ]

/-- What is heard of an offer, and counted. -/
theorem heard_offer {a : Nat} (h : s.offer chunk = (s₁, a)) :
    ∃ answer, min answer chunk.size = a ∧
      s₁.link.transport.calls =
        s.link.transport.calls ++ [.offer s.writer.handle chunk answer] ∧
      s₁.writer = { s.writer with stats := { s.writer.stats with
        offers := s.writer.stats.offers + 1
        bytes := s.writer.stats.bytes + a } } := by
  obtain rfl : (s.offer chunk).1 = s₁ := congrArg Prod.fst h
  obtain rfl : (s.offer chunk).2 = a := congrArg Prod.snd h
  refine ⟨(Transport.offer s.link.transport.inner s.writer.handle chunk).2.1, rfl, ?_, rfl⟩
  rw [transport_offer]
  rfl

/-- A chunk that is accepted whole. -/
theorem counts_whole {a : Nat} (h : s.offer chunk = (s₁, a)) (hfull : a = chunk.size) :
    ∃ x, Counts s [x] 0 s₁ := by
  obtain ⟨answer, ha, hcalls, hwriter⟩ := heard_offer h
  let x : TransportCall := .offer s.writer.handle chunk answer
  have hwhole : x.isShort = false := decide_eq_false (by omega)
  refine ⟨x, ⟨.whole hwhole .none, ?_, ?_, ?_, ?_⟩, [x], hcalls, rfl⟩
  · rw [hwriter]
    rfl
  · rw [hwriter, List.countP_cons_of_neg (ne_true_of_eq_false hwhole)]
    rfl
  · rw [hwriter]
    rfl
  · rw [hwriter, ← ha]
    rfl

/-- A chunk that is cut short, the registration, and the second offer. -/
theorem counts_again {a r : Nat} {waiter : WaiterId} (h : s.offer chunk = (s₁, a))
    (hcut : a < chunk.size) (hregister : s₁.countShort.register = (s₂, waiter))
    (hagain : s₂.offer (chunk.extract a chunk.size) = (s₃, r)) :
    ∃ x y, Counts s [x, y] 0 s₃ := by
  obtain ⟨answer, ha, hcalls, hwriter⟩ := heard_offer h
  obtain ⟨answer', hr, hcalls', hwriter'⟩ := heard_offer hagain
  obtain rfl : answer = a := by omega
  have hregistered := s₁.countShort.writer_register
  have htransport := s₁.countShort.transport_register
  rw [hregister] at hregistered htransport
  have hhandle : s₂.writer.handle = s.writer.handle := by
    rw [hregistered]
    show s₁.writer.handle = _
    rw [hwriter]
  have hstats : s₂.writer.stats =
      { s₁.writer.stats with partialOffers := s₁.writer.stats.partialOffers + 1 } := by
    rw [hregistered]
    rfl
  let x : TransportCall := .offer s.writer.handle chunk answer
  let y : TransportCall := .offer s.writer.handle (chunk.extract answer chunk.size) answer'
  have hshort : x.isShort = true := decide_eq_true hcut
  refine ⟨x, y, ⟨.again hcut .none, ?_, ?_, ?_, ?_⟩, [x, y], ?_, rfl⟩
  · rw [hwriter', hstats, hwriter]
    rfl
  · rw [hwriter', hstats, hwriter, seconds_cons_of_short hshort, List.countP_cons_of_pos hshort]
    simp only [seconds]
    omega
  · rw [hwriter', hstats, hwriter]
    rfl
  · rw [hwriter', hstats, hwriter, ← hr]
    simp [x, y, taken, ha, Nat.add_assoc]
  · have hkept : s₂.link.transport.calls = s₁.link.transport.calls :=
      congrArg Tapped.calls htransport
    rw [hcalls', hkept, hcalls, hhandle, List.append_assoc]
    rfl

omit [Transport τ] in
theorem counts_beginWait (s : Session (Tapped τ)) (now : Instant) (waiter : WaiterId)
    (body : ByteArray) (written : Nat) :
    Counts s [] 1 (s.beginWait now waiter body written).1 :=
  ⟨⟨.none, rfl, rfl, rfl, rfl⟩, [], (List.append_nil _).symm, rfl⟩

omit [Transport τ] in
/-- The chunk that a round of the loop begins with. -/
theorem size_chunk (s : Session (Tapped τ)) (body : ByteArray) (k : Nat) :
    (body.extract k (s.chunkEnd body k)).size = s.chunkEnd body k - k := by
  have hstop : s.chunkEnd body k ≤ body.size := Nat.min_le_left _ _
  rw [ByteArray.size_extract, Nat.min_eq_left hstop]

omit [Transport τ] in
/-- What is left of it. -/
theorem rest_chunk (s : Session (Tapped τ)) (body : ByteArray) {k a : Nat}
    (hshort : k + a < s.chunkEnd body k) :
    body.extract (k + a) (s.chunkEnd body k) =
      (body.extract k (s.chunkEnd body k)).extract a
        (body.extract k (s.chunkEnd body k)).size := by
  rw [size_chunk, ByteArray.extract_extract, Nat.min_eq_right (by omega)]

theorem Pours.counts {now : Instant} {k : Nat} {p : Progress} (h : Pours now body s k s' p) :
    ∃ xs, Counts s xs p.waits s' := by
  induction h with
  | @done s =>
    have hwriter := s.writer_finishBody body
    exact ⟨[], .of_same (by rw [hwriter]) (congrArg Tapped.calls (s.transport_finishBody body))⟩
  | endless => exact ⟨[], .of_same rfl rfl⟩
  | @whole s s₁ s' k a p hlt _ hoffer hfull _ ih =>
    obtain ⟨x, hx⟩ := counts_whole hoffer (by rw [size_chunk]; omega)
    obtain ⟨xs, hxs⟩ := ih
    have hall := hx.trans hxs
    rw [Nat.zero_add] at hall
    exact ⟨x :: xs, hall⟩
  | @retried s s₁ s₂ s₃ s' k a r waiter p _ _ hoffer hshort hregister hagain _ _ ih =>
    rw [rest_chunk s body hshort] at hagain
    obtain ⟨x, y, hpair⟩ := counts_again hoffer (by rw [size_chunk]; omega) hregister hagain
    obtain ⟨xs, hxs⟩ := ih
    have hdown : Counts s₃ [] 0 s₃.unregister :=
      .of_same rfl (congrArg Tapped.calls s₃.transport_unregister)
    have hall := (hpair.before hdown).trans hxs
    rw [Nat.zero_add] at hall
    exact ⟨x :: y :: xs, hall⟩
  | @blocked s s₁ s₂ s₃ k a waiter _ _ hoffer hshort hregister hagain =>
    rw [rest_chunk s body hshort] at hagain
    obtain ⟨x, y, hpair⟩ := counts_again hoffer (by rw [size_chunk]; omega) hregister hagain
    have hall := hpair.trans (s₃.counts_beginWait now waiter body (k + a))
    rw [Nat.zero_add] at hall
    exact ⟨[x, y], hall⟩

theorem Heads.counts {status : Http.Status} {result : Except WriteError Unit}
    (h : Heads status s s' result) : Counts s [] 0 s' := by
  have hoffers : s.Offers .empty [] s' := h.offers_nil
  cases h <;> exact .of_offers hoffers rfl

theorem Flushes.counts {result : Except WriteError Unit} (h : Flushes s s' result) :
    Counts s [] 0 s' := by
  cases h with
  | already => exact .of_same rfl rfl
  | heads _ hheads => exact hheads.counts

theorem Writes.counts {now : Instant} {p : Progress} (h : Writes now body s s' p) :
    ∃ xs, Counts s xs p.waits s' := by
  cases h with
  | failed hflush => exact ⟨[], hflush.counts⟩
  | pours hflush hpours =>
    obtain ⟨xs, hxs⟩ := hpours.counts
    exact ⟨xs, hflush.counts.after hxs⟩

/-- A write that is carried on begins a wait only if the one before has ended. -/
theorem Resumes.counts {now : Instant} {write : PendingWrite} {p : Progress}
    (h : Resumes now write s s' p) :
    ∃ xs, Counts s xs (if (s.waitEnds? now write).isSome then p.waits else 0) s' := by
  cases h with
  | waits hends =>
    rw [hends]
    exact ⟨[], .of_same rfl rfl⟩
  | @gaveUp board e hends =>
    rw [hends]
    refine ⟨[], .of_same rfl ?_⟩
    simp [giveUp, report, unregister]
  | @pours board ready _ _ hends hpours =>
    obtain ⟨xs, hxs⟩ := hpours.counts
    have hnone : Counts s [] 0
        (({ s with link := s.link.setBoard s.writer.board board } : Session (Tapped τ)).report
          (.ackReceived s.writer.handle ready)) :=
      .of_same rfl (by simp [report])
    rw [hends]
    exact ⟨xs, hnone.after hxs⟩

end Session

/-! ## Whole runs -/

namespace Course

variable {τ : Type}

/-- The wait that a deed begins on the way to another course, and when. One that goes on is not
begun anew. -/
def newWait? (c : Course τ) (d : Deed) (c' : Course τ) : Option (Instant × PendingWrite) :=
  match d, c.current with
  | .write now _, none => c'.current.map fun write => (now, write)
  | .resume now, some write =>
    if (c.session.waitEnds? now write).isSome then c'.current.map fun next => (now, next) else none
  | _, _ => none

/-- The wait that a session was left in is the one that is booked. -/
theorem length_wait_settle (c : Course τ) (body : ByteArray) (n : Nat) (now : Instant)
    (out : Session τ × Progress) :
    ((c.settle body n out).current.map fun write => (now, write)).toList.length = out.2.waits := by
  rcases out with ⟨s, (e | m) | write | _⟩ <;> rfl

/-- A deed counts the offers it makes and the wait it begins. -/
theorem Follows.counts [Transport τ] {c c' : Course (Tapped τ)} {d : Deed}
    (h : c.Follows d c') :
    ∃ xs, c.session.Counts xs (c.newWait? d c').toList.length c'.session := by
  have hidle {d : Deed} {c' : Course (Tapped τ)} (hnone : c.newWait? d c' = none)
      (hcounts : c.session.Counts [] 0 c'.session) :
      ∃ xs, c.session.Counts xs (c.newWait? d c').toList.length c'.session := by
    rw [hnone]
    exact ⟨[], hcounts⟩
  cases h with
  | edits hcurrent => exact hidle (by simp [newWait?]) (.of_same rfl rfl)
  | heads hcurrent hheads => exact hidle (by simp [newWait?]) hheads.counts
  | flushes hcurrent hflush => exact hidle (by simp [newWait?]) hflush.counts
  | @writes now body session p hcurrent hwrites =>
    obtain ⟨xs, hxs⟩ := hwrites.counts
    refine ⟨xs, ?_⟩
    simp only [newWait?, hcurrent]
    rwa [session_settle, length_wait_settle]
  | @resumes now write session p hcurrent hresumes =>
    obtain ⟨xs, hxs⟩ := hresumes.counts
    refine ⟨xs, ?_⟩
    simp only [newWait?, hcurrent]
    rw [session_settle]
    split
    · rename_i hends
      rw [if_pos hends] at hxs
      rwa [length_wait_settle]
    · rename_i hends
      rwa [if_neg hends] at hxs
  | drops hcurrent => exact hidle (by simp [newWait?]) (.of_same rfl rfl)
  | idles hcurrent hd =>
    rcases hd with ⟨now, rfl⟩ | rfl <;>
      exact hidle (by simp [newWait?, hcurrent]) (.of_same rfl rfl)
  | busy hcurrent hresume =>
    refine hidle ?_ (.of_same rfl rfl)
    cases d with
    | resume now => exact absurd rfl (hresume now)
    | _ => simp [newWait?, hcurrent]

end Course

/-- A writer at its link, and notes of what its counters are about. -/
structure CountedWriter (τ : Type) where
  course : Course (Tapped τ)
  /-- The offers it made, in order. -/
  offers : List TransportCall := []
  /-- For each wait it began, whether it was suspended: no count was there yet, and its time was not
  up. -/
  waits : List Bool := []

namespace CountedWriter

variable {τ : Type}

/-- A new writer. -/
def start (handle : HandleId) (board : BoardName) (settings : WriterSettings)
    (recorder : Option Recorder) (link : Link (Tapped τ)) : CountedWriter τ where
  course := .start handle board settings recorder link

variable [Transport τ]

def act (v : CountedWriter τ) : Prompt τ → CountedWriter τ
  | .does d =>
    let course := v.course.does d
    let before := v.course.session.link.transport.calls
    { course
      offers := v.offers ++
        (course.session.link.transport.calls.drop before.length).filter isOffer
      waits := v.waits ++ (v.course.newWait? d course).toList.map fun wait =>
        (course.session.waitEnds? wait.1 wait.2).isNone }
  | .others change => { v with course.session.link := change v.course.session.link }

def run (v : CountedWriter τ) (prompts : List (Prompt τ)) : CountedWriter τ := prompts.foldl act v

/-- The counters of the writer. -/
def stats (v : CountedWriter τ) : WriteStats := v.course.session.writer.stats

/-- The counters have grown from nothing by what was noted down. -/
def Sound (v : CountedWriter τ) : Prop := WriteStats.Grows {} v.offers v.waits.length v.stats

variable {v : CountedWriter τ}

theorem Sound.act (h : v.Sound) (p : Prompt τ) : (v.act p).Sound := by
  cases p with
  | others change => exact h
  | does d =>
    obtain ⟨xs, hgrows, calls, hcalls, hxs⟩ := (v.course.follows_does d).counts
    have hoffers : (v.act (.does d)).offers = v.offers ++ xs := by
      simp only [CountedWriter.act]
      rw [hcalls, List.drop_left, hxs]
    rw [Sound, hoffers, CountedWriter.act, List.length_append, List.length_map]
    exact h.trans hgrows

theorem Sound.run (h : v.Sound) (prompts : List (Prompt τ)) : (v.run prompts).Sound := by
  induction prompts generalizing v with
  | nil => exact h
  | cons p rest ih => exact ih (h.act p)

/-- Whatever a writer is told to do at any transport, and whatever others do meanwhile, it counts
every offer, every byte that was accepted, an answer beyond the chunk as the whole of it, and every
wait that it begins. What an offer left of its chunk is offered once more; of the offers that left
something behind all are counted but these second ones. So their count is right exactly if every
second offer took all that there was, and the count of the waits is that of the suspensions exactly
if no wait ended as it began. -/
theorem stats_run (handle : HandleId) (board : BoardName) (settings : WriterSettings)
    (recorder : Option Recorder) (link : Link (Tapped τ)) (prompts : List (Prompt τ)) :
    let v := (start handle board settings recorder link).run prompts
    v.stats.offers = v.offers.length ∧
      v.stats.bytes = (v.offers.map taken).sum ∧
      Paired v.offers ∧
      v.stats.partialOffers + (seconds v.offers).countP isShort = v.offers.countP isShort ∧
      (v.stats.partialOffers = v.offers.countP isShort ↔
        ∀ x ∈ seconds v.offers, x.isShort = false) ∧
      v.stats.waits = v.waits.length ∧
      (v.stats.waits = v.waits.count true ↔ ∀ suspended ∈ v.waits, suspended = true) := by
  intro v
  have hnone : (start handle board settings recorder link).Sound := WriteStats.Grows.refl {}
  have hsound : v.Sound := hnone.run prompts
  obtain ⟨hpaired, hoffers, hpartial, hwaits, hbytes⟩ := hsound
  simp only [Nat.zero_add] at hoffers hpartial hwaits hbytes
  refine ⟨hoffers, hbytes, hpaired, hpartial, ?_, hwaits, ?_⟩
  · have hzero : v.stats.partialOffers = v.offers.countP isShort ↔
        (seconds v.offers).countP isShort = 0 := by omega
    rw [hzero, List.countP_eq_zero]
    simp
  · rw [hwaits, eq_comm, List.count_eq_length]
    simp [eq_comm]

/-- A transport that takes four bytes of the first offer and two of the third, nothing of the
fourth, and acknowledges space during the second. -/
def grudging : Link (Tapped Faulty) :=
  { transport := ⟨{ plan := { offer :=
      [(1, .limit 4), (2, .disturb (.ack 1)), (3, .limit 2), (4, .limit 0)] } }, []⟩ }

/-- Two writes in a row, the second woken by what the first left in the mailbox. -/
def both : List (Prompt Faulty) :=
  [.does (.write ⟨0⟩ "abcdef".toUTF8), .does (.write ⟨0⟩ "ghijkl".toUTF8), .does (.resume ⟨0⟩)]

/-- Three offers are cut short and two are counted so, and the one wait that is counted was over
when it began. -/
theorem stats_grudging :
    let v := (start ⟨1⟩ .shared {} none grudging).run both
    v.stats = ⟨5, 2, 1, 12⟩ ∧ v.offers.countP isShort = 3 ∧ v.waits = [false] := by
  decide +kernel

end CountedWriter

end Sluice
