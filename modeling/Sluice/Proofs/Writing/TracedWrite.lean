import Sluice.Proofs.Writing.Checked
import Sluice.Proofs.Writing.Slices
import Sluice.Transport.Faulty

/-!
# A write from its call to its end

One write is followed with the calls that were made for it. It is carried on whenever somebody looks
at it; in between everybody else does with the link what they like: buffers are drained, counts are
passed on, other writers make their offers. The transport is any at all.
-/
namespace Sluice

namespace Session

variable {τ : Type} [Transport τ] {body : ByteArray} {s s' : Session (Tapped τ)}

/-- The sending of a header section offers nothing. -/
theorem Heads.offers_nil {status : Http.Status} {result : Except WriteError Unit}
    (h : Heads status s s' result) : Offers body s [] s' := by
  cases h with
  | repeated => exact .of_same rfl rfl rfl rfl
  | unfit => exact .of_same rfl rfl rfl rfl
  | refused _ hmeasure hsend =>
    obtain ⟨calls, hcalls, hcarries⟩ := hears_sendSection hmeasure hsend
    exact ⟨rfl, rfl, rfl, calls, hcalls, hcarries.filter_isOffer⟩
  | sent _ hmeasure hsend =>
    obtain ⟨calls, hcalls, hcarries⟩ := hears_sendSection hmeasure hsend
    exact ⟨rfl, rfl, rfl, calls, hcalls, hcarries.filter_isOffer⟩

theorem Flushes.offers_nil {result : Except WriteError Unit} (h : Flushes s s' result) :
    Offers body s [] s' := by
  cases h with
  | already => exact .of_same rfl rfl rfl rfl
  | heads _ hheads => exact hheads.offers_nil

/-- A write begins with the first bytes of its body. -/
theorem Writes.slices {now : Instant} {p : Progress} (h : Writes now body s s' p)
    (hchunk : s.writer.settings.chunkSize ≠ 0) :
    ∃ xs, Offers body s xs s' ∧ Slice.InTurn body.size s.writer.settings.chunkSize 0 xs ∧
      Stops body (Slice.total xs) p := by
  cases h with
  | failed hflush => exact ⟨[], hflush.offers_nil, .none, .failed⟩
  | pours hflush hpours =>
    have hnone : Offers body _ [] _ := hflush.offers_nil
    obtain ⟨xs, hxs, hturn, hstops⟩ := hpours.slices (Nat.zero_le _) (hnone.settings_eq ▸ hchunk)
    rw [hnone.settings_eq] at hturn
    rw [Nat.zero_add] at hstops
    exact ⟨xs, hnone.after hxs, hturn, hstops⟩

/-- A write that is carried on goes on where it stopped. -/
theorem Resumes.slices {now : Instant} {write : PendingWrite} {p : Progress}
    (h : Resumes now write s s' p) (hwritten : write.written < write.body.size)
    (hchunk : s.writer.settings.chunkSize ≠ 0) :
    ∃ xs, Offers write.body s xs s' ∧
      Slice.InTurn write.body.size s.writer.settings.chunkSize write.written xs ∧
      Stops write.body (write.written + Slice.total xs) p := by
  cases h with
  | waits => exact ⟨[], .of_same rfl rfl rfl rfl, .none, .suspended rfl rfl hwritten⟩
  | @gaveUp board e =>
    refine ⟨[], .of_same rfl rfl rfl ?_, .none, .failed⟩
    simp [giveUp, report, unregister]
  | @pours board ready _ _ _ hpours =>
    have hnone : Offers write.body s []
        (({ s with link := s.link.setBoard s.writer.board board } : Session (Tapped τ)).report
          (.ackReceived s.writer.handle ready)) :=
      .of_link (by simp)
    obtain ⟨xs, hxs, hturn, hstops⟩ := hpours.slices (Nat.le_of_lt hwritten) hchunk
    exact ⟨xs, hnone.after hxs, hturn, hstops⟩

end Session

/-- One write, and the calls that were made for it. -/
structure TracedWrite (τ : Type) where
  session : Session (Tapped τ)
  progress : Progress
  calls : List TransportCall

namespace TracedWrite

variable {τ : Type}

/-- What can happen next. -/
inductive Move (τ : Type) where
  /-- The write is looked at, and goes on if it can. -/
  | resume (now : Instant)
  /-- Others have the link. -/
  | others (change : Link (Tapped τ) → Link (Tapped τ))

/-- The calls that were heard from one session to the next. -/
def heard (s s' : Session (Tapped τ)) : List TransportCall :=
  s'.link.transport.calls.drop s.link.transport.calls.length

/-- What is made of the answer of a call on this session. -/
def of (s : Session (Tapped τ)) (calls : List TransportCall)
    (answer : Session (Tapped τ) × Progress) : TracedWrite τ :=
  ⟨answer.1, answer.2, calls ++ heard s answer.1⟩

/-- What the write returned. -/
def result? (h : TracedWrite τ) : Option (Except WriteError Nat) :=
  match h.progress with
  | .finished result => some result
  | _ => none

/-- The offers that were made. -/
def offers (h : TracedWrite τ) : List TransportCall := h.calls.filter TransportCall.isOffer

variable [Transport τ]

/-- The write is called. -/
def start (s : Session (Tapped τ)) (now : Instant) (body : ByteArray) : TracedWrite τ :=
  of s [] (s.write now body)

def act (h : TracedWrite τ) : Move τ → TracedWrite τ
  | .resume now =>
    match h.progress with
    | .suspended write => of h.session h.calls (h.session.resume now write)
    | _ => h
  | .others change => { h with session.link := change h.session.link }

def run (h : TracedWrite τ) (moves : List (Move τ)) : TracedWrite τ := moves.foldl act h

/-- `start` with numbers up to `top`. -/
def start? (top : Nat) (s : Session (Tapped τ)) (now : Instant) (body : ByteArray) :
    Option (TracedWrite τ) :=
  (s.write? top now body).map (of s [])

/-- `act` with numbers up to `top`. -/
def act? (top : Nat) (h : TracedWrite τ) : Move τ → Option (TracedWrite τ)
  | .resume now =>
    match h.progress with
    | .suspended write => (h.session.resume? top now write).map (of h.session h.calls)
    | _ => some h
  | .others change => some { h with session.link := change h.session.link }

/-- `run` with numbers up to `top`. -/
def run? (top : Nat) (h : TracedWrite τ) (moves : List (Move τ)) : Option (TracedWrite τ) :=
  moves.foldlM (act? top) h

/-- The write of this body that the session was called for has come so far with these slices. -/
structure Sound (s : Session (Tapped τ)) (body : ByteArray) (xs : List Slice) (h : TracedWrite τ) :
    Prop where
  handle_eq : h.session.writer.handle = s.writer.handle
  settings_eq : h.session.writer.settings = s.writer.settings
  bytes_eq : h.session.writer.stats.bytes = s.writer.stats.bytes + Slice.total xs
  offers_eq : h.offers = xs.map (Slice.call s.writer.handle body)
  in_turn : Slice.InTurn body.size s.writer.settings.chunkSize 0 xs
  stops : Session.Stops body (Slice.total xs) h.progress

variable {s : Session (Tapped τ)} {body : ByteArray} {xs : List Slice} {h : TracedWrite τ}
  {top : Nat}

omit [Transport τ] in
theorem offers_of {s s' : Session (Tapped τ)} {ys : List Slice} (hys : s.Offers body ys s')
    (calls : List TransportCall) (p : Progress) :
    (of s calls (s', p)).offers =
      calls.filter TransportCall.isOffer ++ ys.map (Slice.call s.writer.handle body) := by
  obtain ⟨more, hmore, hfilter⟩ := hys.calls
  rw [offers, of, heard, hmore, List.drop_left, List.filter_append, hfilter]

theorem sound_start (now : Instant) (body : ByteArray) (hchunk : s.writer.settings.chunkSize ≠ 0) :
    ∃ xs, Sound s body xs (start s now body) := by
  obtain ⟨xs, hxs, hturn, hstops⟩ := (s.writes_write now body).slices hchunk
  exact ⟨xs, hxs.handle_eq, hxs.settings_eq, hxs.bytes_eq, offers_of hxs [] _, hturn, hstops⟩

/-- A move makes only further offers. -/
theorem Sound.act (hsound : Sound s body xs h) (hchunk : s.writer.settings.chunkSize ≠ 0)
    (move : Move τ) : ∃ xs, Sound s body xs (h.act move) := by
  cases move with
  | others change => exact ⟨xs, { hsound with }⟩
  | resume now =>
    cases hprogress : h.progress with
    | finished result =>
      simp only [TracedWrite.act, hprogress]
      exact ⟨xs, hsound⟩
    | endless =>
      simp only [TracedWrite.act, hprogress]
      exact ⟨xs, hsound⟩
    | suspended write =>
      simp only [TracedWrite.act, hprogress]
      have hstops := hsound.stops
      rw [hprogress] at hstops
      cases hstops with
      | suspended hbody hwritten hlt =>
        subst hbody
        obtain ⟨ys, hys, hturn, hstops⟩ := (h.session.resumes_resume now write).slices
          (hwritten ▸ hlt) (hsound.settings_eq ▸ hchunk)
        rw [hsound.settings_eq, hwritten] at hturn
        rw [hwritten, ← Slice.total_append] at hstops
        refine ⟨xs ++ ys, hys.handle_eq.trans hsound.handle_eq,
          hys.settings_eq.trans hsound.settings_eq, ?_, ?_, ?_, hstops⟩
        · show (h.session.resume now write).1.writer.stats.bytes = _
          rw [hys.bytes_eq, hsound.bytes_eq, Slice.total_append, Nat.add_assoc]
        · rw [offers_of hys, List.map_append, hsound.handle_eq]
          exact congrArg (· ++ _) hsound.offers_eq
        · exact hsound.in_turn.append (by rwa [Nat.zero_add])

theorem Sound.run (hsound : Sound s body xs h) (hchunk : s.writer.settings.chunkSize ≠ 0)
    (moves : List (Move τ)) : ∃ xs, Sound s body xs (h.run moves) := by
  induction moves generalizing xs h with
  | nil => exact ⟨xs, hsound⟩
  | cons move rest ih =>
    obtain ⟨ys, hact⟩ := hsound.act hchunk move
    exact ih hact

theorem start?_eq_some (now : Instant) (htop : body.size ≤ top) :
    start? top s now body = some (start s now body) := by
  rw [start?, s.write?_eq_some now htop]
  rfl

/-- No check fails in a move of a sound write. -/
theorem Sound.act?_eq_some (hsound : Sound s body xs h) (htop : body.size ≤ top) (move : Move τ) :
    h.act? top move = some (h.act move) := by
  cases move with
  | others change => rfl
  | resume now =>
    cases hprogress : h.progress with
    | finished result => simp only [TracedWrite.act?, TracedWrite.act, hprogress]
    | endless => simp only [TracedWrite.act?, TracedWrite.act, hprogress]
    | suspended write =>
      have hstops := hsound.stops
      rw [hprogress] at hstops
      cases hstops with
      | suspended hbody hwritten hlt =>
        subst hbody
        simp only [TracedWrite.act?, TracedWrite.act, hprogress]
        rw [h.session.resume?_eq_some now htop (by omega)]
        rfl

theorem Sound.run?_eq_some (hsound : Sound s body xs h) (hchunk : s.writer.settings.chunkSize ≠ 0)
    (htop : body.size ≤ top) (moves : List (Move τ)) : h.run? top moves = some (h.run moves) := by
  induction moves generalizing xs h with
  | nil => rfl
  | cons move rest ih =>
    obtain ⟨ys, hact⟩ := hsound.act hchunk move
    have hrest := ih hact
    rw [run?, List.foldlM_cons, hsound.act?_eq_some htop move]
    exact hrest

omit [Transport τ] in
/-- A write that returned a number is through. -/
theorem eq_of_result? {n m : Nat} (hstops : Session.Stops body n h.progress)
    (hresult : h.result? = some (.ok m)) : m = n ∧ n = body.size := by
  unfold result? at hresult
  cases hprogress : h.progress with
  | finished result =>
    rw [hprogress] at hresult hstops
    cases hresult
    cases hstops with
    | finished hall => exact ⟨rfl, hall⟩
  | suspended write =>
    rw [hprogress] at hresult
    cases hresult
  | endless =>
    rw [hprogress] at hresult
    cases hresult

/-! ## What holds of every write -/

/-- A write with chunks of at least one byte is safe at any transport, however it is carried on and
whatever others do in between. With numbers up to the largest that the size of a body can be, no
part of the body, no sum and no difference is out of range. The slices it offers are in turn: each
begins where what was accepted before it ends, and fits the body and the chunks. The writer counts
what was accepted of them. The write waits only before the end of its body, and if it returns a
number then that is the size of the body, by which the count has grown. -/
theorem offers_in_turn (s : Session (Tapped τ)) (now : Instant) (body : ByteArray)
    (moves : List (Move τ)) {top : Nat} (htop : body.size ≤ top)
    (hchunk : 0 < s.writer.settings.chunkSize) :
    let h := (start s now body).run moves
    (start? top s now body).bind (·.run? top moves) = some h ∧
      ∃ xs : List Slice, h.offers = xs.map (Slice.call s.writer.handle body) ∧
        Slice.InTurn body.size s.writer.settings.chunkSize 0 xs ∧
        (∀ before x after, xs = before ++ x :: after → x.start = Slice.total before ∧
          x.Fits body.size s.writer.settings.chunkSize) ∧
        h.session.writer.stats.bytes = s.writer.stats.bytes + Slice.total xs ∧
        Session.Stops body (Slice.total xs) h.progress ∧
        ∀ n, h.result? = some (.ok n) → n = body.size ∧
          h.session.writer.stats.bytes = s.writer.stats.bytes + n := by
  intro h
  have hpositive : s.writer.settings.chunkSize ≠ 0 := Nat.ne_of_gt hchunk
  obtain ⟨xs₀, hstart⟩ := sound_start now body hpositive
  obtain ⟨xs, hsound⟩ := hstart.run hpositive moves
  refine ⟨?_, xs, hsound.offers_eq, hsound.in_turn, ?_, hsound.bytes_eq, hsound.stops, ?_⟩
  · rw [start?_eq_some now htop]
    exact hstart.run?_eq_some hpositive htop moves
  · intro before x after hsplit
    obtain ⟨hx, hfits⟩ := hsound.in_turn.at_split hsplit
    rw [Nat.zero_add] at hx
    exact ⟨hx, hfits⟩
  · intro n hn
    obtain ⟨rfl, hall⟩ := eq_of_result? hsound.stops hn
    exact ⟨hall, hsound.bytes_eq⟩

/-- The largest number of 64 bits. -/
def maxSize : Nat := 18446744073709551615

/-- A writer with the longest chunks there are, at a transport that takes one byte of the first
offer, then tells of three where it took none, then refuses twice, and in the end tells of a hundred
more than it took. -/
def misled : Session (Tapped Faulty) :=
  ⟨{ handle := ⟨1⟩, settings := { chunkSize := maxSize } },
    { transport := ⟨{ plan := { offer := [(1, .limit 1), (2, .limit 0), (2, .disturb (.extra 3)),
        (3, .limit 0), (4, .limit 0), (5, .disturb (.extra 100))] } }, []⟩ }⟩

theorem offers_in_turn_misled :
    let body := "abcdef".toUTF8
    let h := (start misled .start body).run [.others fun l => l.raise (.ack ⟨1⟩ 1), .resume .start]
    h.offers = [.offer ⟨1⟩ "abcdef".toUTF8 1, .offer ⟨1⟩ "bcdef".toUTF8 3, .offer ⟨1⟩ "ef".toUTF8 0,
        .offer ⟨1⟩ "ef".toUTF8 0, .offer ⟨1⟩ "ef".toUTF8 102] ∧
      h.session.writer.stats.bytes = 6 := by
  intro body h
  have htop : body.size ≤ maxSize := by decide
  have hchunk : 0 < misled.writer.settings.chunkSize := by decide
  have hdone : h.result? = some (.ok 6) := by decide +kernel
  obtain ⟨-, xs, -, -, -, -, -, hreturned⟩ := offers_in_turn misled .start body _ htop hchunk
  exact ⟨by decide +kernel, (hreturned 6 hdone).2⟩

end TracedWrite

end Sluice
