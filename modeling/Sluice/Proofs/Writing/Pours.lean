import Sluice.Writer.Body
import Sluice.Transport.Faithful

/-!
# How a body is poured

`Session.pour` is a loop with two offers, a registration and three ways on. `Pours` says once what
a run of the loop can look like; whatever holds of every run is proved by induction on it, and
nothing else opens the loop.
-/
namespace Sluice

/-- Two parts of a body that meet. -/
theorem extract_append_extract_of_le (body : ByteArray) {i j k : Nat} (hij : i ≤ j) (hjk : j ≤ k) :
    body.extract i j ++ body.extract j k = body.extract i k := by
  rw [ByteArray.extract_append_extract, Nat.min_eq_left hij, Nat.max_eq_right hjk]

/-- The second writer is the first but for its waiter and its counts. -/
def Writer.Alike (w w' : Writer) : Prop := w' = { w with waiter := w'.waiter, stats := w'.stats }

namespace Writer.Alike

variable {w w' w'' : Writer}

theorem refl (w : Writer) : Alike w w := rfl

theorem trans (h : Alike w w') (h' : Alike w' w'') : Alike w w'' := by
  unfold Alike at *
  rw [h'] at *
  rw [h]

theorem handle_eq (h : Alike w w') : w'.handle = w.handle := by rw [h]

theorem board_eq (h : Alike w w') : w'.board = w.board := by rw [h]

theorem settings_eq (h : Alike w w') : w'.settings = w.settings := by rw [h]

theorem sent_eq (h : Alike w w') : w'.sent = w.sent := by rw [h]

theorem recorder_eq (h : Alike w w') : w'.recorder = w.recorder := by rw [h]

end Writer.Alike

namespace Session

variable {τ : Type}

/-- Where the chunk ends that begins after the first `n` bytes. -/
def chunkEnd (s : Session τ) (body : ByteArray) (n : Nat) : Nat :=
  min body.size (n + s.writer.settings.chunkSize)

/-! ## What the small steps change -/

theorem register_of_some {s : Session τ} {waiter : WaiterId} (h : s.writer.waiter = some waiter) :
    s.register =
      ({ s with link := s.link.attach s.writer.board s.writer.handle waiter }, waiter) := by
  simp only [register, h]

theorem register_of_none {s : Session τ} (h : s.writer.waiter = none) :
    s.register =
      (⟨{ s.writer with waiter := some (s.link.openMailbox s.writer.board).2 },
        (s.link.openMailbox s.writer.board).1.attach s.writer.board s.writer.handle
          (s.link.openMailbox s.writer.board).2⟩, (s.link.openMailbox s.writer.board).2) := by
  simp only [register, h]

theorem writer_register (s : Session τ) :
    s.register.1.writer = { s.writer with waiter := some s.register.2 } := by
  cases h : s.writer.waiter with
  | none => rw [register_of_none h]
  | some waiter =>
    rw [register_of_some h, ← h]

@[simp] theorem transport_register (s : Session τ) :
    s.register.1.link.transport = s.link.transport := by
  cases h : s.writer.waiter with
  | none => simp [register_of_none h]
  | some waiter => simp [register_of_some h]

@[simp] theorem transport_unregister (s : Session τ) :
    s.unregister.link.transport = s.link.transport := by
  simp [unregister]

@[simp] theorem transport_close (s : Session τ) : s.close.transport = s.link.transport := by
  unfold close
  split
  · rfl
  · simp

/-- The events of a recorder go to the log. -/
theorem link_finishBody [Transport τ] (s : Session τ) (body : ByteArray) :
    ∃ events, (s.finishBody body).link = s.link.reportAll events := by
  unfold finishBody
  split
  · exact ⟨[], by simp [Link.reportAll]⟩
  · exact ⟨_, rfl⟩

theorem writer_finishBody [Transport τ] (s : Session τ) (body : ByteArray) :
    (s.finishBody body).writer =
      { s.writer with recorder := s.writer.recorder.map fun r => (r.recordBody body).1 } := by
  unfold finishBody
  split
  · rename_i h
    obtain ⟨w, l⟩ := s
    cases w
    cases h
    rfl
  · rename_i r h
    simp [h]

variable [Transport τ]

@[simp] theorem transport_finishBody (s : Session τ) (body : ByteArray) :
    (s.finishBody body).link.transport = s.link.transport := by
  obtain ⟨events, h⟩ := s.link_finishBody body
  rw [h, Link.transport_reportAll]

@[simp] theorem transport_offer (s : Session τ) (chunk : ByteArray) :
    (s.offer chunk).1.link.transport =
      (Transport.offer s.link.transport s.writer.handle chunk).1 :=
  Link.transport_offer ..

/-- A run of the loop that pours `body`, from the session in which `n` bytes are through. -/
inductive Pours (now : Instant) (body : ByteArray) :
    Session τ → Nat → Session τ → Progress → Prop where
  | done {s n} : body.size ≤ n → Pours now body s n (s.finishBody body) (.finished (.ok n))
  | endless {s n} : n < body.size → s.writer.settings.chunkSize = 0 →
      Pours now body s n s .endless
  /-- The whole chunk is accepted. -/
  | whole {s s₁ s' : Session τ} {n a : Nat} {p} : n < body.size →
      s.writer.settings.chunkSize ≠ 0 →
      s.offer (body.extract n (s.chunkEnd body n)) = (s₁, a) →
      n + a = s.chunkEnd body n →
      Pours now body s₁ (s.chunkEnd body n) s' p → Pours now body s n s' p
  /-- The chunk is cut short, but more of it is accepted after the registration. -/
  | retried {s s₁ s₂ s₃ s' : Session τ} {n a r : Nat} {waiter p} : n < body.size →
      s.writer.settings.chunkSize ≠ 0 →
      s.offer (body.extract n (s.chunkEnd body n)) = (s₁, a) →
      n + a < s.chunkEnd body n →
      s₁.countShort.register = (s₂, waiter) →
      s₂.offer (body.extract (n + a) (s.chunkEnd body n)) = (s₃, r) → 0 < r →
      Pours now body s₃.unregister (n + a + r) s' p → Pours now body s n s' p
  /-- Nothing more is accepted, and the write has to wait. -/
  | blocked {s s₁ s₂ s₃ : Session τ} {n a : Nat} {waiter} : n < body.size →
      s.writer.settings.chunkSize ≠ 0 →
      s.offer (body.extract n (s.chunkEnd body n)) = (s₁, a) →
      n + a < s.chunkEnd body n →
      s₁.countShort.register = (s₂, waiter) →
      s₂.offer (body.extract (n + a) (s.chunkEnd body n)) = (s₃, 0) →
      Pours now body s n (s₃.beginWait now waiter body (n + a)).1
        (.suspended (s₃.beginWait now waiter body (n + a)).2)

/-- An offer does not get past the end of what is offered. -/
theorem add_le_of_offer {s s₁ : Session τ} {body : ByteArray} {n stop a : Nat} (hn : n ≤ stop)
    (h : s.offer (body.extract n stop) = (s₁, a)) : n + a ≤ stop := by
  have hle := s.offer_le_size (body.extract n stop)
  rw [h, ByteArray.size_extract] at hle
  dsimp only at hle
  omega

/-- An offer does not get past the end of its chunk. -/
theorem add_le_chunkEnd {s s₁ : Session τ} {body : ByteArray} {n a : Nat} (hn : n < body.size)
    (h : s.offer (body.extract n (s.chunkEnd body n)) = (s₁, a)) :
    n + a ≤ s.chunkEnd body n := by
  refine add_le_of_offer ?_ h
  unfold chunkEnd
  omega

/-- The loop is described by its runs. -/
theorem pours_pour (now : Instant) (s : Session τ) (body : ByteArray) (n : Nat) :
    Pours now body s n (s.pour now body n).1 (s.pour now body n).2 := by
  -- the cases are those of the loop; an offer that is not the whole chunk is less than it
  fun_induction pour now s body n with
  | case1 s n hn hchunk => exact .endless hn hchunk
  | case2 s n hn hchunk stop s₁ a hoffer hfull ih => exact .whole hn hchunk hoffer hfull ih
  | case3 s n hn hchunk stop s₁ a hoffer hshort s₂ waiter hregister s₃ r hagain hr ih =>
    have hle := add_le_chunkEnd hn hoffer
    exact .retried hn hchunk hoffer (Nat.lt_of_le_of_ne hle hshort) hregister hagain hr ih
  | case4 s n hn hchunk stop s₁ a hoffer hshort s₂ waiter hregister s₃ r hagain hr s₄ write hwait =>
    have hle := add_le_chunkEnd hn hoffer
    obtain rfl : r = 0 := Nat.eq_zero_of_not_pos hr
    have hblocked : Pours now body s n _ _ :=
      .blocked hn hchunk hoffer (Nat.lt_of_le_of_ne hle hshort) hregister hagain
    rwa [hwait] at hblocked
  | case5 s n hn => exact .done (Nat.le_of_not_lt hn)

/-- A write that has to wait is still one of the same body. -/
theorem Pours.body_eq {now : Instant} {body : ByteArray} {s s' : Session τ} {n : Nat}
    {p : Progress} (h : Pours now body s n s' p) {write : PendingWrite}
    (hp : p = .suspended write) : write.body = body := by
  induction h with
  | done => cases hp
  | endless => cases hp
  | whole _ _ _ _ _ ih => exact ih hp
  | retried _ _ _ _ _ _ _ _ ih => exact ih hp
  | blocked =>
    cases hp
    rfl

/-- A wait begins now, and may last as long as its writer was set to. -/
theorem Pours.wait_eq {now : Instant} {body : ByteArray} {s s' : Session τ} {n : Nat}
    {p : Progress} (h : Pours now body s n s' p) {write : PendingWrite}
    (hp : p = .suspended write) :
    write.wait.since = now ∧ write.wait.limit = s'.writer.settings.ackTimeout := by
  induction h with
  | done => cases hp
  | endless => cases hp
  | whole _ _ _ _ _ ih => exact ih hp
  | retried _ _ _ _ _ _ _ _ ih => exact ih hp
  | blocked =>
    cases hp
    exact ⟨rfl, rfl⟩

/-- A body that is poured does not fail. -/
theorem Pours.ne_error {now : Instant} {body : ByteArray} {s s' : Session τ} {n : Nat}
    {p : Progress} (h : Pours now body s n s' p) (e : WriteError) : p ≠ .finished (.error e) := by
  induction h with
  | done => nofun
  | endless => nofun
  | whole _ _ _ _ _ ih => exact ih
  | retried _ _ _ _ _ _ _ _ ih => exact ih
  | blocked => nofun

/-! ## What a run of the loop changes -/

/-- How a run of the loop ends that got through `n` bytes and left the session `s₁`. -/
inductive Ends (body : ByteArray) (s₁ : Session τ) : Nat → Session τ → Progress → Prop where
  | finished : Ends body s₁ body.size (s₁.finishBody body) (.finished (.ok body.size))
  | suspended {write} : write.body = body → write.written < body.size →
      Ends body s₁ write.written s₁ (.suspended write)
  | endless {n} : s₁.writer.settings.chunkSize = 0 → Ends body s₁ n s₁ .endless

section Faithful

variable [Transport.Faithful τ]

/-- What the transport holds of the response of the session's writer. -/
def received (s : Session τ) : Received :=
  Transport.Faithful.received s.link.transport s.writer.handle

/-- From the first session to the second, where `n` and where `m` bytes of the body were through,
the transport was given the bytes between and the writer counted them. -/
structure Accepts (body : ByteArray) (s : Session τ) (n : Nat) (s' : Session τ) (m : Nat) :
    Prop where
  le : n ≤ m
  alike : s.writer.Alike s'.writer
  received : s'.received = s.received.append (body.extract n m)
  bytes : s'.writer.stats.bytes = s.writer.stats.bytes + (m - n)

namespace Accepts

variable {body : ByteArray} {s s₁ s₂ : Session τ} {n m k : Nat}

theorem refl (s : Session τ) (n : Nat) : Accepts body s n s n :=
  ⟨Nat.le_refl _, .refl _, by simp, by simp⟩

theorem trans (h : Accepts body s n s₁ m) (h' : Accepts body s₁ m s₂ k) :
    Accepts body s n s₂ k where
  le := Nat.le_trans h.le h'.le
  alike := h.alike.trans h'.alike
  received := by
    rw [h'.received, h.received, Received.append_append,
      extract_append_extract_of_le body h.le h'.le]
  bytes := by
    have := h.le
    have := h'.le
    rw [h'.bytes, h.bytes]
    omega

/-- Changes of the link that leave the transport alone. -/
theorem of_transport {l : Link τ} (h : l.transport = s.link.transport) (n : Nat) :
    Accepts body s n { s with link := l } n :=
  ⟨Nat.le_refl _, .refl _, by simp [Session.received, h], by simp⟩

/-- An offer of a part of the body. -/
theorem offer {stop a : Nat} (h : s.offer (body.extract n stop) = (s₁, a))
    (hle : n + a ≤ stop) : Accepts body s n s₁ (n + a) := by
  have hsize :=
    Transport.Faithful.offer_le_size s.link.transport s.writer.handle (body.extract n stop)
  have hreceived :=
    Transport.Faithful.received_offer s.link.transport s.writer.handle (body.extract n stop)
  have hextract : (body.extract n stop).extract 0 a = body.extract n (n + a) := by
    rw [ByteArray.extract_extract, Nat.add_zero, Nat.min_eq_left hle]
  obtain rfl : (s.offer (body.extract n stop)).1 = s₁ := congrArg Prod.fst h
  have ha : (s.offer (body.extract n stop)).2 = a := congrArg Prod.snd h
  have ha' : (Transport.offer s.link.transport s.writer.handle (body.extract n stop)).2.1 = a :=
    (Nat.min_eq_left hsize).symm.trans ha
  rw [ha', hextract] at hreceived
  refine ⟨Nat.le_add_right _ _, rfl, ?_, ?_⟩
  · rw [Session.received, transport_offer]
    exact hreceived
  · rw [Nat.add_sub_cancel_left, ← ha]
    rfl

/-- A registration. -/
theorem register {waiter : WaiterId} (h : s.countShort.register = (s₁, waiter)) (n : Nat) :
    Accepts body s n s₁ n := by
  have hwriter : s₁.writer = { s.countShort.writer with waiter := some waiter } := by
    simpa [h] using s.countShort.writer_register
  have htransport : s₁.link.transport = s.link.transport := by
    have := s.countShort.transport_register
    rwa [h] at this
  refine ⟨Nat.le_refl _, ?_, ?_, ?_⟩
  · rw [Writer.Alike, hwriter]
    rfl
  · simp [Session.received, htransport, hwriter, countShort]
  · simp [hwriter, countShort]

/-- The second offer of a chunk, with the registration before it. -/
theorem retry {s₃ : Session τ} {stop a r : Nat} {waiter : WaiterId}
    (hoffer : s.offer (body.extract n stop) = (s₁, a)) (hshort : n + a < stop)
    (hregister : s₁.countShort.register = (s₂, waiter))
    (hagain : s₂.offer (body.extract (n + a) stop) = (s₃, r)) (hle : n + a + r ≤ stop) :
    Accepts body s n s₃ (n + a + r) := by
  have hfirst : Accepts body s n s₁ (n + a) := offer hoffer (Nat.le_of_lt hshort)
  exact (hfirst.trans (register hregister _)).trans (offer hagain hle)

end Accepts

/-- A run of the loop gives the transport what it says. -/
theorem Pours.accepts {now : Instant} {body : ByteArray} {s s' : Session τ} {n : Nat}
    {p : Progress} (h : Pours now body s n s' p) (hn : n ≤ body.size) :
    ∃ s₁ m, Accepts body s n s₁ m ∧ Ends body s₁ m s' p := by
  induction h with
  | @done s n hdone =>
    obtain rfl : n = body.size := Nat.le_antisymm hn hdone
    exact ⟨s, body.size, .refl _ _, .finished⟩
  | @endless s n _ hchunk => exact ⟨s, n, .refl _ _, .endless hchunk⟩
  | whole _ _ hoffer hfull _ ih =>
    obtain ⟨s₂, m, hrest, hends⟩ := ih (Nat.min_le_left _ _)
    rw [← hfull] at hrest
    exact ⟨s₂, m, (Accepts.offer hoffer (Nat.le_of_eq hfull)).trans hrest, hends⟩
  | @retried s s₁ s₂ s₃ s' n a r waiter p _ _ hoffer hshort hregister hagain _ _ ih =>
    have hstop : s.chunkEnd body n ≤ body.size := Nat.min_le_left _ _
    have hle := add_le_of_offer (Nat.le_of_lt hshort) hagain
    obtain ⟨s₄, m, hrest, hends⟩ := ih (by omega)
    have hretry := Accepts.retry hoffer hshort hregister hagain hle
    exact ⟨s₄, m, (hretry.trans (.of_transport (by simp) _)).trans hrest, hends⟩
  | @blocked s s₁ s₂ s₃ n a waiter hlt _ hoffer hshort hregister hagain =>
    have hstop : s.chunkEnd body n ≤ body.size := Nat.min_le_left _ _
    have hretry := Accepts.retry hoffer hshort hregister hagain (Nat.le_of_lt hshort)
    refine ⟨_, n + a, hretry.trans ?_, @Ends.suspended _ _ _ ⟨body, n + a, _⟩ rfl ?_⟩
    · exact ⟨Nat.le_refl _, rfl, by simp [received, beginWait, report],
        by simp [beginWait, report]⟩
    · exact Nat.lt_of_lt_of_le hshort hstop

/-- The end of a run gives the transport nothing. -/
theorem Ends.received_eq {body : ByteArray} {s s' : Session τ} {n : Nat} {p : Progress}
    (h : Ends body s n s' p) : s'.received = s.received := by
  cases h with
  | finished => simp [received, s.writer_finishBody body]
  | suspended => rfl
  | endless => rfl

/-- Nothing is taken back. -/
theorem Accepts.size_le {body : ByteArray} {s s' : Session τ} {n m : Nat}
    (h : Accepts body s n s' m) : s.received.body.size ≤ s'.received.body.size := by
  rw [h.received, Received.body_append, ByteArray.size_append]
  exact Nat.le_add_right _ _

theorem Pours.size_le {now : Instant} {body : ByteArray} {s s' : Session τ} {n : Nat}
    {p : Progress} (h : Pours now body s n s' p) (hn : n ≤ body.size) :
    s.received.body.size ≤ s'.received.body.size := by
  obtain ⟨s₁, m, haccepts, hends⟩ := h.accepts hn
  rw [hends.received_eq]
  exact haccepts.size_le

/-- A run that has something to pour begins with an offer, and what that offer adds stays. -/
theorem Pours.offers {now : Instant} {body : ByteArray} {s s' : Session τ} {n : Nat}
    {p : Progress} (h : Pours now body s n s' p) (hn : n < body.size)
    (hchunk : s.writer.settings.chunkSize ≠ 0) :
    ∃ s₁ a, s.offer (body.extract n (s.chunkEnd body n)) = (s₁, a) ∧
      n + a ≤ s.chunkEnd body n ∧ s₁.received.body.size ≤ s'.received.body.size := by
  cases h with
  | done hdone => exact absurd hdone (Nat.not_le_of_lt hn)
  | endless _ hzero => exact absurd hzero hchunk
  | @whole _ s₁ _ _ a _ _ _ hoffer hfull hrest =>
    exact ⟨s₁, a, hoffer, Nat.le_of_eq hfull, hrest.size_le (Nat.min_le_left _ _)⟩
  | @retried _ s₁ _ s₃ _ _ a r _ _ _ _ hoffer hshort hregister hagain _ hrest =>
    have hstop : s.chunkEnd body n ≤ body.size := Nat.min_le_left _ _
    have hle := add_le_of_offer (Nat.le_of_lt hshort) hagain
    have hretry := (Accepts.register hregister (n + a)).trans (.offer hagain hle)
    have hgone : s₃.unregister.received = s₃.received := by simp [received, unregister]
    have hsize := hrest.size_le (by omega)
    rw [hgone] at hsize
    exact ⟨s₁, a, hoffer, Nat.le_of_lt hshort, Nat.le_trans hretry.size_le hsize⟩
  | @blocked _ s₁ _ _ _ a _ _ _ hoffer hshort hregister hagain =>
    have hretry := (Accepts.register hregister (n + a)).trans (.offer hagain (Nat.le_of_lt hshort))
    exact ⟨s₁, a, hoffer, Nat.le_of_lt hshort, hretry.size_le⟩

end Faithful

end Session

end Sluice
