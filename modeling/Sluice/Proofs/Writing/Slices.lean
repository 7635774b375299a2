import Sluice.Proofs.Sending.Dialogue

/-!
# What a write offers

The slices of a body that a write offers stand in a row, whatever the transport answers: each begins
where the accepted part of the one before ends, is not empty, lies within the body and is no longer
than a chunk. What is left of a slice that was cut short is offered again, to the same end.
-/
namespace Sluice

/-- The call offers bytes of a body. -/
def TransportCall.isOffer : TransportCall → Bool
  | .offer .. => true
  | _ => false

/-- The steps of a header section offer nothing. -/
theorem TransportCall.Carries.filter_isOffer {handle : HandleId} {steps : List HeaderStep}
    {answer : Except TransportError Unit} {calls : List TransportCall}
    (h : Carries handle steps answer calls) : calls.filter isOffer = [] := by
  have hsteps (done : List HeaderStep) (answer : Except TransportError Unit) :
      (done.map fun step => header handle step answer).filter isOffer = [] := by
    rw [List.filter_map, List.map_eq_nil_iff, List.filter_eq_nil_iff]
    exact fun _ _ => Bool.false_ne_true
  cases h with
  | all => exact hsteps _ _
  | refused =>
    rw [List.filter_append, hsteps]
    rfl

/-- A slice of a body that was offered, and the answer. -/
structure Slice where
  start : Nat
  stop : Nat
  answer : Nat
deriving DecidableEq

namespace Slice

/-- What counts as accepted of the slice: all of it if the answer goes beyond. -/
def accepted (x : Slice) : Nat := min x.answer (x.stop - x.start)

/-- Where the accepted part ends. -/
def next (x : Slice) : Nat := x.start + x.accepted

/-- The call that offered it. -/
def call (handle : HandleId) (body : ByteArray) (x : Slice) : TransportCall :=
  .offer handle (body.extract x.start x.stop) x.answer

/-- The slice is one of a body of this size, offered in chunks of this size. -/
structure Fits (size chunk : Nat) (x : Slice) : Prop where
  nonempty : x.start < x.stop
  inside : x.stop ≤ size
  short : x.stop - x.start ≤ chunk

/-- The bytes accepted of all the slices. -/
def total : List Slice → Nat
  | [] => 0
  | x :: xs => x.accepted + total xs

@[simp] theorem total_nil : total [] = 0 := rfl

@[simp] theorem total_cons (x : Slice) (xs : List Slice) :
    total (x :: xs) = x.accepted + total xs := rfl

@[simp] theorem total_append (xs ys : List Slice) : total (xs ++ ys) = total xs + total ys := by
  induction xs with
  | nil => simp
  | cons x xs ih => simp [ih, Nat.add_assoc]

/-- The slices were offered in turn, when `n` bytes of the body were through. -/
inductive InTurn (size chunk : Nat) : Nat → List Slice → Prop where
  | none {n} : InTurn size chunk n []
  /-- A chunk that is accepted whole. -/
  | whole {x xs} : x.Fits size chunk → x.next = x.stop → InTurn size chunk x.stop xs →
      InTurn size chunk x.start (x :: xs)
  /-- A chunk that is cut short, and what is left of it, which is offered again. -/
  | again {x y xs} : x.Fits size chunk → x.next < x.stop → y.start = x.next → y.stop = x.stop →
      InTurn size chunk y.next xs → InTurn size chunk x.start (x :: y :: xs)

variable {size chunk n : Nat} {x y : Slice} {xs ys : List Slice}

/-- What is left of a slice that fits does so too. -/
theorem Fits.rest (h : x.Fits size chunk) (hshort : x.next < x.stop) (hstart : y.start = x.next)
    (hstop : y.stop = x.stop) : y.Fits size chunk := by
  have hshort' := h.short
  refine ⟨by omega, hstop ▸ h.inside, ?_⟩
  unfold next at hstart
  omega

namespace InTurn

theorem one (h : x.Fits size chunk) (hfull : x.next = x.stop) : InTurn size chunk x.start [x] :=
  .whole h hfull .none

theorem two (h : x.Fits size chunk) (hshort : x.next < x.stop) (hstart : y.start = x.next)
    (hstop : y.stop = x.stop) : InTurn size chunk x.start [x, y] :=
  .again h hshort hstart hstop .none

/-- After the slices come others, from where the accepted parts of the first ones end. -/
theorem append (h : InTurn size chunk n xs) (h' : InTurn size chunk (n + total xs) ys) :
    InTurn size chunk n (xs ++ ys) := by
  induction h with
  | none => exact h'
  | @whole x xs hfits hfull _ ih =>
    refine .whole hfits hfull (ih ?_)
    rwa [total_cons, ← Nat.add_assoc, show x.start + x.accepted = x.stop from hfull] at h'
  | @again x y xs hfits hshort hstart hstop _ ih =>
    refine .again hfits hshort hstart hstop (ih ?_)
    rwa [total_cons, total_cons, ← Nat.add_assoc, ← Nat.add_assoc,
      show x.start + x.accepted = y.start from hstart.symm] at h'

/-- Every slice begins where the accepted parts of those before it end, and fits. -/
theorem at_split (h : InTurn size chunk n xs) {before after : List Slice}
    (hxs : xs = before ++ x :: after) :
    x.start = n + total before ∧ x.Fits size chunk := by
  induction h generalizing before with
  | none => simp at hxs
  | @whole first xs hfits hfull _ ih =>
    cases before with
    | nil =>
      obtain ⟨rfl, -⟩ := List.cons.inj hxs
      exact ⟨rfl, hfits⟩
    | cons b before =>
      obtain ⟨rfl, hrest⟩ := List.cons.inj hxs
      obtain ⟨hstart, hx⟩ := ih hrest
      refine ⟨?_, hx⟩
      rw [hstart, ← hfull, next, total_cons, Nat.add_assoc]
  | @again first second xs hfits hshort hstart hstop _ ih =>
    have hsecond := hfits.rest hshort hstart hstop
    rcases before with _ | ⟨b, _ | ⟨c, before⟩⟩
    · obtain ⟨rfl, -⟩ := List.cons.inj hxs
      exact ⟨rfl, hfits⟩
    · obtain ⟨rfl, hxs'⟩ := List.cons.inj hxs
      obtain ⟨rfl, -⟩ := List.cons.inj hxs'
      exact ⟨hstart, hsecond⟩
    · obtain ⟨rfl, hxs'⟩ := List.cons.inj hxs
      obtain ⟨rfl, hrest⟩ := List.cons.inj hxs'
      obtain ⟨hx, hfitsx⟩ := ih hrest
      refine ⟨?_, hfitsx⟩
      rw [hx, next, hstart, next, total_cons, total_cons, Nat.add_assoc, Nat.add_assoc]

end InTurn

end Slice

namespace Session

variable {τ : Type}

/-- From the first session to the second these slices of the body were offered, and what was
accepted of them was counted. Calls that offer nothing may have been made besides. -/
structure Offers (body : ByteArray) (s : Session (Tapped τ)) (xs : List Slice)
    (s' : Session (Tapped τ)) : Prop where
  handle_eq : s'.writer.handle = s.writer.handle
  settings_eq : s'.writer.settings = s.writer.settings
  bytes_eq : s'.writer.stats.bytes = s.writer.stats.bytes + Slice.total xs
  calls : ∃ calls, s'.link.transport.calls = s.link.transport.calls ++ calls ∧
    calls.filter TransportCall.isOffer = xs.map (Slice.call s.writer.handle body)

/-- What a write may have come to when `n` bytes of its body are through. -/
inductive Stops (body : ByteArray) (n : Nat) : Progress → Prop where
  | finished : n = body.size → Stops body n (.finished (.ok n))
  | failed {e} : Stops body n (.finished (.error e))
  | suspended {write} : write.body = body → write.written = n → n < body.size →
      Stops body n (.suspended write)

variable {body : ByteArray} {s s₁ s₂ s' : Session (Tapped τ)} {xs ys : List Slice}

namespace Offers

theorem trans (h : Offers body s xs s₁) (h' : Offers body s₁ ys s₂) :
    Offers body s (xs ++ ys) s₂ := by
  obtain ⟨calls, hcalls, hfilter⟩ := h.calls
  obtain ⟨more, hmore, hfilter'⟩ := h'.calls
  refine ⟨h'.handle_eq.trans h.handle_eq, h'.settings_eq.trans h.settings_eq, ?_, calls ++ more,
    ?_, ?_⟩
  · rw [h'.bytes_eq, h.bytes_eq, Slice.total_append, Nat.add_assoc]
  · rw [hmore, hcalls, List.append_assoc]
  · rw [List.filter_append, hfilter, hfilter', h.handle_eq, List.map_append]

/-- Nothing was offered, and nothing else asked. -/
theorem of_same (hhandle : s₁.writer.handle = s.writer.handle)
    (hsettings : s₁.writer.settings = s.writer.settings)
    (hbytes : s₁.writer.stats.bytes = s.writer.stats.bytes)
    (hcalls : s₁.link.transport.calls = s.link.transport.calls) : Offers body s [] s₁ :=
  ⟨hhandle, hsettings, hbytes, [], by rw [hcalls, List.append_nil], rfl⟩

/-- First nothing, then this. -/
theorem after (h : Offers body s [] s₁) (h' : Offers body s₁ ys s₂) : Offers body s ys s₂ :=
  h.trans h'

/-- First this, then nothing. -/
theorem before (h : Offers body s xs s₁) (h' : Offers body s₁ [] s₂) : Offers body s xs s₂ := by
  simpa using h.trans h'

/-- A change of the boards or the log. -/
theorem of_link {l : Link (Tapped τ)} (h : l.transport = s.link.transport) :
    Offers body s [] { s with link := l } :=
  of_same rfl rfl rfl (congrArg Tapped.calls h)

theorem register {waiter : WaiterId} (h : s.countShort.register = (s₁, waiter)) :
    Offers body s [] s₁ := by
  have hwriter := s.countShort.writer_register
  have htransport := s.countShort.transport_register
  rw [h] at hwriter htransport
  refine of_same ?_ ?_ ?_ (congrArg Tapped.calls htransport) <;>
    · rw [hwriter]
      rfl

theorem unregister (s : Session (Tapped τ)) : Offers body s [] s.unregister :=
  of_link (by simp)

variable [Transport τ]

theorem finishBody (s : Session (Tapped τ)) : Offers body s [] (s.finishBody body) := by
  have hwriter := s.writer_finishBody body
  refine of_same ?_ ?_ ?_ (congrArg Tapped.calls (s.transport_finishBody body)) <;>
    rw [hwriter]

theorem offer {n stop a : Nat} (hstop : stop ≤ body.size)
    (h : s.offer (body.extract n stop) = (s₁, a)) :
    ∃ x : Slice, x.start = n ∧ x.stop = stop ∧ x.accepted = a ∧ Offers body s [x] s₁ := by
  let answer := (Transport.offer s.link.transport.inner s.writer.handle (body.extract n stop)).2.1
  obtain rfl : (s.offer (body.extract n stop)).1 = s₁ := congrArg Prod.fst h
  have ha : (s.offer (body.extract n stop)).2 = a := congrArg Prod.snd h
  have hsize : (body.extract n stop).size = stop - n := by
    rw [ByteArray.size_extract, Nat.min_eq_left hstop]
  have haccepted : (⟨n, stop, answer⟩ : Slice).accepted = a := by
    show min answer (stop - n) = a
    rw [← hsize]
    exact ha
  refine ⟨⟨n, stop, answer⟩, rfl, rfl, haccepted, rfl, rfl, ?_,
    [.offer s.writer.handle (body.extract n stop) answer], ?_, rfl⟩
  · rw [Slice.total_cons, haccepted, ← ha]
    rfl
  · rw [transport_offer]
    rfl

/-- The rest of a slice that was cut short is offered once more, after the registration. -/
theorem retry {s₃ : Session (Tapped τ)} {n stop a r : Nat} {waiter : WaiterId}
    (hstop : stop ≤ body.size) (hoffer : s.offer (body.extract n stop) = (s₁, a))
    (hregister : s₁.countShort.register = (s₂, waiter))
    (hagain : s₂.offer (body.extract (n + a) stop) = (s₃, r)) :
    ∃ x y : Slice, x.start = n ∧ x.stop = stop ∧ x.accepted = a ∧
      y.start = n + a ∧ y.stop = stop ∧ y.accepted = r ∧ Offers body s [x, y] s₃ := by
  obtain ⟨x, hxstart, hxstop, hxaccepted, hx⟩ := offer hstop hoffer
  obtain ⟨y, hystart, hystop, hyaccepted, hy⟩ := offer hstop hagain
  exact ⟨x, y, hxstart, hxstop, hxaccepted, hystart, hystop, hyaccepted,
    hx.trans (.after (.register hregister) hy)⟩

end Offers

/-! ## The loop -/

/-- The chunk with which a round of the loop begins. -/
theorem fits_chunk {x : Slice} (hn : x.start < body.size) (hchunk : s.writer.settings.chunkSize ≠ 0)
    (hstop : x.stop = s.chunkEnd body x.start) :
    x.Fits body.size s.writer.settings.chunkSize := by
  unfold chunkEnd at hstop
  constructor <;> omega

variable [Transport τ]

/-- A run of the loop offers slices in turn, and gets as far as they were accepted. -/
theorem Pours.slices {now : Instant} {n : Nat} {p : Progress} (h : Pours now body s n s' p)
    (hn : n ≤ body.size) (hchunk : s.writer.settings.chunkSize ≠ 0) :
    ∃ xs, Offers body s xs s' ∧ Slice.InTurn body.size s.writer.settings.chunkSize n xs ∧
      Stops body (n + Slice.total xs) p := by
  induction h with
  | @done s n hdone =>
    obtain rfl : n = body.size := Nat.le_antisymm hn hdone
    exact ⟨[], .finishBody s, .none, .finished rfl⟩
  | endless _ hzero => exact absurd hzero hchunk
  | @whole s s₁ s' n a p hlt _ hoffer hfull _ ih =>
    have hstop : s.chunkEnd body n ≤ body.size := Nat.min_le_left _ _
    obtain ⟨x, rfl, hxstop, rfl, hx⟩ := Offers.offer hstop hoffer
    obtain ⟨xs, hxs, hturn, hstops⟩ := ih hstop (hx.settings_eq ▸ hchunk)
    rw [hx.settings_eq, ← hfull] at hturn
    rw [← hfull, Nat.add_assoc] at hstops
    have hfirst := Slice.InTurn.one (fits_chunk hlt hchunk hxstop) (hfull.trans hxstop.symm)
    exact ⟨x :: xs, hx.trans hxs, hfirst.append hturn, hstops⟩
  | @retried s s₁ s₂ s₃ s' n a r waiter p hlt _ hoffer hshort hregister hagain _ _ ih =>
    have hstop : s.chunkEnd body n ≤ body.size := Nat.min_le_left _ _
    have hle := add_le_of_offer (Nat.le_of_lt hshort) hagain
    obtain ⟨x, y, rfl, hxstop, rfl, hystart, hystop, rfl, hxy⟩ :=
      Offers.retry hstop hoffer hregister hagain
    have hpair : Offers body s [x, y] s₃.unregister := hxy.before (.unregister s₃)
    obtain ⟨xs, hxs, hturn, hstops⟩ := ih (by omega) (hpair.settings_eq ▸ hchunk)
    rw [hpair.settings_eq, Nat.add_assoc] at hturn
    rw [Nat.add_assoc, Nat.add_assoc] at hstops
    have hfirst := Slice.InTurn.two (fits_chunk hlt hchunk hxstop) (hxstop ▸ hshort) hystart
      (hystop.trans hxstop.symm)
    exact ⟨x :: y :: xs, hpair.trans hxs, hfirst.append hturn, hstops⟩
  | @blocked s s₁ s₂ s₃ n a waiter hlt _ hoffer hshort hregister hagain =>
    have hstop : s.chunkEnd body n ≤ body.size := Nat.min_le_left _ _
    obtain ⟨x, y, rfl, hxstop, rfl, hystart, hystop, hnone, hxy⟩ :=
      Offers.retry hstop hoffer hregister hagain
    have hpair : Offers body s [x, y] (s₃.beginWait now waiter body (x.start + x.accepted)).1 :=
      hxy.before (.of_same rfl rfl rfl rfl)
    have hfirst := Slice.InTurn.two (fits_chunk hlt hchunk hxstop) (hxstop ▸ hshort) hystart
      (hystop.trans hxstop.symm)
    have htotal : Slice.total [x, y] = x.accepted := by simp [hnone]
    rw [← htotal] at hshort hpair ⊢
    exact ⟨[x, y], hpair, hfirst, .suspended rfl rfl (Nat.lt_of_lt_of_le hshort hstop)⟩

end Session

end Sluice
