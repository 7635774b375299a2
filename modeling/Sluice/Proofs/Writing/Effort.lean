import Sluice.Proofs.Waking.Mail
import Sluice.Proofs.Writing.TracedWrite

/-!
# How often a write may ask

A write may go round and get nothing accepted: an acknowledgment that is stale, or meant for
another, wakes it to two more offers that are refused. So the bytes that are left do not bound its
offers. But a round that brings no byte uses an acknowledgment up, and those are counted: a write
makes two offers at most for each byte of its body and for each acknowledgment it took, and two for
its first wait.
-/
namespace Sluice

namespace Session

variable {τ : Type} [Transport τ] {body : ByteArray} {s s' : Session (Tapped τ)}

/-- A run of the loop makes two offers at most for each byte that is accepted, and two before it has
to wait. -/
theorem Pours.offersPaid {now : Instant} {n : Nat} {p : Progress} (h : Pours now body s n s' p)
    (hn : n ≤ body.size) :
    ∃ xs, Offers body s xs s' ∧ xs.length ≤ 2 * (Slice.total xs + 1) ∧
      n + Slice.total xs ≤ body.size ∧
      ∀ write, p = .suspended write → write.written = n + Slice.total xs := by
  induction h with
  | done => exact ⟨[], .finishBody _, Nat.zero_le _, hn, nofun⟩
  | endless => exact ⟨[], .of_same rfl rfl rfl rfl, Nat.zero_le _, hn, nofun⟩
  | @whole s s₁ s' n a p hlt hchunk hoffer hfull _ ih =>
    have hstop : s.chunkEnd body n ≤ body.size := Nat.min_le_left _ _
    have hsome : n < s.chunkEnd body n := by
      unfold chunkEnd
      omega
    obtain ⟨x, -, -, rfl, hx⟩ := Offers.offer hstop hoffer
    obtain ⟨xs, hxs, hlength, hle, hwrite⟩ := ih hstop
    refine ⟨x :: xs, hx.trans hxs, ?_, ?_, fun write hp => ?_⟩
    · rw [List.length_cons, Slice.total_cons]
      omega
    · rw [Slice.total_cons]
      omega
    · rw [hwrite write hp, Slice.total_cons]
      omega
  | @retried s s₁ s₂ s₃ s' n a r waiter p _ _ hoffer hshort hregister hagain _ _ ih =>
    have hstop : s.chunkEnd body n ≤ body.size := Nat.min_le_left _ _
    have hend := add_le_of_offer (Nat.le_of_lt hshort) hagain
    obtain ⟨x, y, -, -, rfl, -, -, rfl, hxy⟩ := Offers.retry hstop hoffer hregister hagain
    have hpair : Offers body s [x, y] s₃.unregister := hxy.before (.unregister s₃)
    obtain ⟨xs, hxs, hlength, hle, hwrite⟩ := ih (by omega)
    refine ⟨x :: y :: xs, hpair.trans hxs, ?_, ?_, fun write hp => ?_⟩
    · rw [List.length_cons, List.length_cons, Slice.total_cons, Slice.total_cons]
      omega
    · rw [Slice.total_cons, Slice.total_cons]
      omega
    · rw [hwrite write hp, Slice.total_cons, Slice.total_cons]
      omega
  | @blocked s s₁ s₂ s₃ n a waiter _ _ hoffer hshort hregister hagain =>
    have hstop : s.chunkEnd body n ≤ body.size := Nat.min_le_left _ _
    obtain ⟨x, y, -, -, rfl, -, -, hnone, hxy⟩ := Offers.retry hstop hoffer hregister hagain
    have hpair : Offers body s [x, y] (s₃.beginWait now waiter body (n + x.accepted)).1 :=
      hxy.before (.of_same rfl rfl rfl rfl)
    have htotal : Slice.total [x, y] = x.accepted := by simp [hnone]
    refine ⟨[x, y], hpair, ?_, by omega, fun write hp => ?_⟩
    · rw [htotal]
      show 2 ≤ _
      omega
    · cases hp
      rw [htotal]
      rfl

theorem Writes.offersPaid {now : Instant} {p : Progress} (h : Writes now body s s' p) :
    ∃ xs, Offers body s xs s' ∧ xs.length ≤ 2 * (Slice.total xs + 1) ∧
      Slice.total xs ≤ body.size ∧
      ∀ write, p = .suspended write → write.written = Slice.total xs := by
  cases h with
  | failed hflush => exact ⟨[], hflush.offers_nil, Nat.zero_le _, Nat.zero_le _, nofun⟩
  | pours hflush hpours =>
    obtain ⟨xs, hxs, hlength, hle, hwrite⟩ := hpours.offersPaid (Nat.zero_le _)
    rw [Nat.zero_add] at hle
    refine ⟨xs, hflush.offers_nil.after hxs, hlength, hle, fun write hp => ?_⟩
    rw [hwrite write hp, Nat.zero_add]

section

variable {now : Instant} {write : PendingWrite} {board : AckBoard}

omit [Transport τ] in
/-- A wait that ends with a count took it from the writer's mailbox. -/
theorem mail_of_told {ready : Nat} (hwaiter : s.writer.waiter = some write.wait.waiter)
    (h : s.waitEnds? now write = some (board, .ok ready)) :
    s.mail = ready :: board.counts write.wait.waiter := by
  rw [mail_of_waiter hwaiter]
  cases ends_of_waitEnds? h with
  | told htake => exact AckBoard.counts_of_take? htake

omit [Transport τ] in
/-- A wait runs out of time at an empty mailbox only. -/
theorem mail_of_late {e : WriteError} (hwaiter : s.writer.waiter = some write.wait.waiter)
    (h : s.waitEnds? now write = some (board, .error e)) :
    s.mail = [] ∧ board = s.ackBoard := by
  rw [mail_of_waiter hwaiter]
  cases ends_of_waitEnds? h with
  | late hnone => exact ⟨AckBoard.take?_eq_none_iff_counts.1 hnone, rfl⟩

/-- A write that is carried on pays for its next offers with a count. -/
theorem Resumes.offersPaid {p : Progress} (h : Resumes now write s s' p)
    (hwaiter : s.writer.waiter = some write.wait.waiter)
    (hle : write.written ≤ write.body.size) :
    ∃ xs, Offers write.body s xs s' ∧ xs.length ≤ 2 * (Slice.total xs + min 1 s.mail.length) ∧
      write.written + Slice.total xs ≤ write.body.size ∧
      ∀ w, p = .suspended w → w.written = write.written + Slice.total xs := by
  cases h with
  | waits =>
    refine ⟨[], .of_same rfl rfl rfl rfl, Nat.zero_le _, hle, fun w hp => ?_⟩
    cases hp
    rfl
  | @gaveUp board e =>
    refine ⟨[], .of_same rfl rfl rfl ?_, Nat.zero_le _, hle, nofun⟩
    simp [giveUp, report, unregister]
  | @pours board ready _ _ hends hpours =>
    have hnone : Offers write.body s []
        (({ s with link := s.link.setBoard s.writer.board board } : Session (Tapped τ)).report
          (.ackReceived s.writer.handle ready)) :=
      .of_link (by simp)
    obtain ⟨xs, hxs, hlength, hle', hwrite⟩ := hpours.offersPaid hle
    have hmail : min 1 s.mail.length = 1 := by
      rw [mail_of_told hwaiter hends, List.length_cons]
      omega
    exact ⟨xs, hnone.after hxs, by rwa [hmail], hle', hwrite⟩

end

end Session

namespace TracedWrite

variable {τ : Type}

/-- The acknowledgments in the mailbox of the write. -/
def mail (h : TracedWrite τ) : List Nat := h.session.mail

/-- How many of them a move takes: one, if the write waits and there is one. -/
def takes (h : TracedWrite τ) : Move τ → Nat
  | .others _ => 0
  | .resume _ =>
    match h.progress with
    | .suspended _ => min 1 h.mail.length
    | _ => 0

/-- The write has nothing to do until it is told something: it returned, or it waits at an empty
mailbox. -/
def Rests (h : TracedWrite τ) : Prop :=
  h.result? ≠ none ∨ (∃ write, h.progress = .suspended write) ∧ h.mail = []

/-- The write is carried on again and again, and others have the link in between. -/
def rounds (moments : Nat → Instant) (changes : Nat → Link (Tapped τ) → Link (Tapped τ))
    (k : Nat) : List (Move τ) :=
  (List.range k).flatMap fun i => [.resume (moments i), .others (changes i)]

theorem rounds_succ (moments : Nat → Instant)
    (changes : Nat → Link (Tapped τ) → Link (Tapped τ)) (k : Nat) :
    rounds moments changes (k + 1) =
      rounds moments changes k ++ [.resume (moments k), .others (changes k)] := by
  rw [rounds, List.range_succ, List.flatMap_append, List.flatMap_singleton]
  rfl

variable [Transport τ]

/-- How many acknowledgments the moves take. -/
def taken (h : TracedWrite τ) : List (Move τ) → Nat
  | [] => 0
  | move :: rest => h.takes move + (h.act move).taken rest

/-- How many come in during a move: those that lie there after it and those it took, but for those
that lay there before. -/
def comes (h : TracedWrite τ) (move : Move τ) : Nat :=
  (h.act move).mail.length + h.takes move - h.mail.length

/-- How many come in during the moves. -/
def came (h : TracedWrite τ) : List (Move τ) → Nat
  | [] => 0
  | move :: rest => h.comes move + (h.act move).came rest

theorem run_append (h : TracedWrite τ) (moves more : List (Move τ)) :
    h.run (moves ++ more) = (h.run moves).run more :=
  List.foldl_append

theorem taken_append (h : TracedWrite τ) (moves more : List (Move τ)) :
    h.taken (moves ++ more) = h.taken moves + (h.run moves).taken more := by
  induction moves generalizing h with
  | nil => exact (Nat.zero_add _).symm
  | cons move rest ih =>
    rw [List.cons_append, taken, taken, ih, Nat.add_assoc]
    rfl

theorem came_append (h : TracedWrite τ) (moves more : List (Move τ)) :
    h.came (moves ++ more) = h.came moves + (h.run moves).came more := by
  induction moves generalizing h with
  | nil => exact (Nat.zero_add _).symm
  | cons move rest ih =>
    rw [List.cons_append, came, came, ih, Nat.add_assoc]
    rfl

/-- No acknowledgment is taken that was not there and did not come in. -/
theorem taken_le_came (h : TracedWrite τ) (moves : List (Move τ)) :
    (h.run moves).mail.length + h.taken moves ≤ h.mail.length + h.came moves := by
  induction moves generalizing h with
  | nil => exact Nat.le_refl _
  | cons move rest ih =>
    have hrest := ih (h.act move)
    rw [taken, came, comes]
    show ((h.act move).run rest).mail.length + _ ≤ _
    omega

/-! ## What pays for the offers -/

/-- The write of this body has made its offers for the bytes that went through and for the
acknowledgments that it took. -/
structure OffersPaid (body : ByteArray) (taken : Nat) (h : TracedWrite τ) : Prop where
  paid : ∃ written, written ≤ body.size ∧ h.offers.length ≤ 2 * (written + taken + 1) ∧
    ∀ write, h.progress = .suspended write → write.body = body ∧ write.written = written
  waits : ∀ write, h.progress = .suspended write →
    h.session.writer.waiter = some write.wait.waiter

variable {s : Session (Tapped τ)} {body : ByteArray} {h : TracedWrite τ} {n : Nat}

theorem offersPaid_start (s : Session (Tapped τ)) (now : Instant) (body : ByteArray) :
    OffersPaid body 0 (start s now body) := by
  have hwrites := s.writes_write now body
  obtain ⟨xs, hxs, hlength, hle, hwrite⟩ := hwrites.offersPaid
  refine ⟨⟨Slice.total xs, hle, ?_, fun write hp => ⟨hwrites.body_eq hp, hwrite write hp⟩⟩,
    fun write hp => hwrites.waiter_eq hp⟩
  have hoffers : (start s now body).offers = _ := offers_of hxs [] (s.write now body).2
  rw [hoffers, List.filter_nil, List.nil_append, List.length_map, Nat.add_zero]
  exact hlength

theorem OffersPaid.act (hpaid : OffersPaid body n h) (move : Move τ) :
    OffersPaid body (n + h.takes move) (h.act move) := by
  have hidle (hsame : h.act move = h) (hnone : h.takes move = 0) :
      OffersPaid body (n + h.takes move) (h.act move) := by
    rwa [hsame, hnone, Nat.add_zero]
  cases move with
  | others change => exact { hpaid with }
  | resume now =>
    cases hprogress : h.progress with
    | finished result =>
      exact hidle (by simp only [TracedWrite.act, hprogress]) (by simp only [takes, hprogress])
    | endless =>
      exact hidle (by simp only [TracedWrite.act, hprogress]) (by simp only [takes, hprogress])
    | suspended write =>
      obtain ⟨written, hle, hoffers, hwrite⟩ := hpaid.paid
      obtain ⟨rfl, rfl⟩ := hwrite write hprogress
      have hwaiter := hpaid.waits write hprogress
      have hresumes := h.session.resumes_resume now write
      obtain ⟨xs, hxs, hlength, hle', hwrite'⟩ := hresumes.offersPaid hwaiter hle
      simp only [TracedWrite.act, takes, hprogress]
      refine ⟨⟨write.written + Slice.total xs, hle', ?_,
        fun w hp => ⟨hresumes.body_eq hp, hwrite' w hp⟩⟩, fun w hp => hresumes.waiter_eq hwaiter hp⟩
      rw [offers_of hxs, List.length_append, List.length_map]
      have hbefore : (h.calls.filter TransportCall.isOffer).length ≤ 2 * (write.written + n + 1) :=
        hoffers
      have hmail : h.mail.length = h.session.mail.length := rfl
      omega

theorem OffersPaid.run (hpaid : OffersPaid body n h) (moves : List (Move τ)) :
    OffersPaid body (n + h.taken moves) (h.run moves) := by
  induction moves generalizing n h with
  | nil => exact hpaid
  | cons move rest ih =>
    have hrest := ih (hpaid.act move)
    rw [Nat.add_assoc] at hrest
    exact hrest

/-! ## When a write rests -/

omit [Transport τ] in
/-- A write that is not at rest takes an acknowledgment when it is carried on. -/
theorem takes_of_not_rests {now : Instant} (hstops : Session.Stops body n h.progress)
    (hrests : ¬ h.Rests) : h.takes (.resume now) = 1 := by
  obtain ⟨hresult, hmail⟩ := not_or.1 hrests
  cases hprogress : h.progress with
  | finished result => exact absurd (by simp [result?, hprogress]) hresult
  | endless =>
    rw [hprogress] at hstops
    cases hstops
  | suspended write =>
    have hsome : h.mail ≠ [] := fun hnil => hmail ⟨⟨write, hprogress⟩, hnil⟩
    have hlength := List.length_pos_iff.2 hsome
    simp only [takes, hprogress]
    omega

/-- As long as a write does not rest, each round takes one acknowledgment. -/
theorem taken_rounds {xs : List Slice} (hsound : Sound s body xs h)
    (hchunk : s.writer.settings.chunkSize ≠ 0) (moments : Nat → Instant)
    (changes : Nat → Link (Tapped τ) → Link (Tapped τ)) {k : Nat}
    (hrests : ∀ j < k, ¬ (h.run (rounds moments changes j)).Rests) :
    h.taken (rounds moments changes k) = k := by
  induction k with
  | zero => rfl
  | succ k ih =>
    obtain ⟨ys, hsound'⟩ := hsound.run hchunk (rounds moments changes k)
    have htakes : (h.run (rounds moments changes k)).takes (.resume (moments k)) = 1 :=
      takes_of_not_rests hsound'.stops (hrests k (Nat.lt_succ_self k))
    rw [rounds_succ, taken_append, ih fun j hj => hrests j (Nat.lt_succ_of_lt hj), taken, taken,
      taken, htakes]
    rfl

/-- A write rests after as many rounds as there are acknowledgments for it, at the latest. -/
theorem Sound.rests {xs : List Slice} (hsound : Sound s body xs h)
    (hchunk : s.writer.settings.chunkSize ≠ 0) (moments : Nat → Instant)
    (changes : Nat → Link (Tapped τ) → Link (Tapped τ)) {d : Nat}
    (hcame : ∀ k, h.came (rounds moments changes k) ≤ d) :
    ∃ k ≤ h.mail.length + d, (h.run (rounds moments changes k)).Rests := by
  refine Classical.byContradiction fun hnever => ?_
  have hrests : ∀ j < h.mail.length + d + 1, ¬ (h.run (rounds moments changes j)).Rests :=
    fun j hj hrest => hnever ⟨j, Nat.le_of_lt_succ hj, hrest⟩
  have htaken := taken_rounds hsound hchunk moments changes hrests
  have hle := h.taken_le_came (rounds moments changes (h.mail.length + d + 1))
  have hbound := hcame (h.mail.length + d + 1)
  omega

/-- A write never spins, whatever the transport answers and whatever others do. With chunks of at
least one byte, a write of `n` bytes that takes `a` acknowledgments makes `2 * (n + a + 1)` offers
at most in its whole life. It takes none but the two that its mailbox can hold and those that come
in later. So if only so many come in while it is carried on again and again, then after as many
rounds, and the two, it has returned or it waits at an empty mailbox. -/
theorem offers_length_le (s : Session (Tapped τ)) (now : Instant) (body : ByteArray)
    (moves : List (Move τ)) (hchunk : 0 < s.writer.settings.chunkSize) :
    let h₀ := start s now body
    let h := h₀.run moves
    h.offers.length ≤ 2 * (body.size + h₀.taken moves + 1) ∧
      h₀.taken moves ≤ 2 + h₀.came moves ∧
      ∀ (moments : Nat → Instant) (changes : Nat → Link (Tapped τ) → Link (Tapped τ)) (d : Nat),
        (∀ k, h.came (rounds moments changes k) ≤ d) →
          ∃ k ≤ 2 + d, (h.run (rounds moments changes k)).Rests := by
  intro h₀ h
  have hpositive : s.writer.settings.chunkSize ≠ 0 := Nat.ne_of_gt hchunk
  refine ⟨?_, ?_, fun moments changes d hcame => ?_⟩
  · have hpaid := (offersPaid_start s now body).run moves
    rw [Nat.zero_add] at hpaid
    obtain ⟨written, hle, hoffers, -⟩ := hpaid.paid
    refine Nat.le_trans hoffers (Nat.mul_le_mul_left 2 ?_)
    exact Nat.succ_le_succ (Nat.add_le_add_right hle _)
  · have htaken := h₀.taken_le_came moves
    have hfirst : h₀.mail.length ≤ 2 := h₀.session.length_mail_le
    omega
  · obtain ⟨xs₀, hstart⟩ := sound_start now body hpositive
    obtain ⟨xs, hsound⟩ := hstart.run hpositive moves
    obtain ⟨k, hk, hrest⟩ := hsound.rests hpositive moments changes hcame
    exact ⟨k, Nat.le_trans hk (Nat.add_le_add_right h.session.length_mail_le d), hrest⟩

/-- A writer at a buffer that is full, with a time limit for its acknowledgments. -/
def stuck : Session (Tapped Loopback) :=
  ⟨{ handle := ⟨1⟩, sent := some .ok, settings := { ackTimeoutMs := some 5 } },
    { transport := ⟨{ capacity := some 0 }, []⟩ }⟩

/-- An acknowledgment that frees nothing wakes a write of one byte to two more offers. In the end it
runs out of time, and is at rest. -/
theorem offers_length_stuck :
    let h₀ := start stuck .start "a".toUTF8
    let moves : List (Move Loopback) :=
      [.others fun l => l.raise (.ack ⟨1⟩ 1), .resume .start, .resume ⟨5000000⟩]
    let h := h₀.run moves
    h.offers.length = 4 ∧ 4 ≤ 2 * (1 + h₀.taken moves + 1) ∧ h₀.taken moves = 1 ∧
      ∃ k ≤ 2, (h.run (rounds (fun _ => .start) (fun _ => id) k)).Rests := by
  intro h₀ moves h
  have hchunk : 0 < stuck.writer.settings.chunkSize := by decide
  obtain ⟨hle, -, hrests⟩ := offers_length_le stuck .start "a".toUTF8 moves hchunk
  have hoffers : h.offers.length = 4 := by decide +kernel
  rw [hoffers] at hle
  -- a write that returned stays as it is, so nothing comes in any more
  have hidle (k : Nat) : h.came (rounds (fun _ => .start) (fun _ => id) k) = 0 ∧
      h.run (rounds (fun _ => .start) (fun _ => id) k) = h := by
    have hdone : h.result?.isSome = true := by decide +kernel
    have hsame : h.act (.resume .start) = h := by
      cases hprogress : h.progress with
      | finished result => simp only [act, hprogress]
      | _ => simp [result?, hprogress] at hdone
    induction k with
    | zero => exact ⟨rfl, rfl⟩
    | succ k ih =>
      rw [rounds_succ, came_append, run_append, ih.1, ih.2]
      have hstays : h.run [.resume .start, .others id] = h := by
        simp only [run, List.foldl_cons, List.foldl_nil, hsame]
        rfl
      exact ⟨by decide +kernel, hstays⟩
  exact ⟨hoffers, hle, by decide +kernel,
    hrests (fun _ => .start) (fun _ => id) 0 fun k => Nat.le_of_eq (hidle k).1⟩

end TracedWrite

end Sluice
