import Sluice.Proofs.Writing.Pours

/-!
# Writing with machine numbers

The machine has no numbers beyond some largest one. An addition that is said to saturate stops
there, another one fails, and so do a part of a body whose bounds are out of order and a subtraction
that would go below zero. Here the loop that pours a body is carried out with all these checks,
without an answer once one of them fails. No check ever fails, whatever the transport answers.
-/
namespace Sluice

namespace Session

variable {τ : Type} [Transport τ]

/-- `pour` with numbers up to `top`, which the size of a body is. -/
def pour? (top : Nat) (now : Instant) (s : Session τ) (body : ByteArray) (written : Nat) :
    Option (Session τ × Progress) :=
  if top < body.size then none
  else if written < body.size then
    if s.writer.settings.chunkSize = 0 then some (s, .endless)
    else
      let stop := min body.size (min top (written + s.writer.settings.chunkSize))
      -- the chunk, and then what was accepted of it
      if stop < written ∨ body.size < stop then none
      else
        let (s, accepted) := s.offer (body.extract written stop)
        if top < written + accepted then none
        else if written + accepted = stop then pour? top now s body stop
        else
          let (s, waiter) := s.countShort.register
          -- the rest of the chunk, and then what was accepted of that
          if stop < written + accepted then none
          else
            let (s, retried) := s.offer (body.extract (written + accepted) stop)
            if 0 < retried then
              if top < written + accepted + retried then none
              else pour? top now s.unregister body (written + accepted + retried)
            -- how much of the body remains
            else if body.size < written + accepted then none
            else
              let (s, write) := s.beginWait now waiter body (written + accepted)
              some (s, .suspended write)
  else
    some (s.finishBody body, .finished (.ok written))
termination_by body.size - written
decreasing_by all_goals omega

/-- `write` with numbers up to `top`. -/
def write? (top : Nat) (s : Session τ) (now : Instant) (body : ByteArray) :
    Option (Session τ × Progress) :=
  match s.flush with
  | (s, .error e) => some (s, .finished (.error e))
  | (s, .ok ()) => s.pour? top now body 0

/-- `resume` with numbers up to `top`. A write that is given up tells how much of its body
remains. -/
def resume? (top : Nat) (s : Session τ) (now : Instant) (write : PendingWrite) :
    Option (Session τ × Progress) :=
  match s.waitEnds? now write with
  | none => some (s, .suspended write)
  | some (board, outcome) =>
    let s := { s with link := s.link.setBoard s.writer.board board }
    match outcome with
    | .ok ready =>
      (s.report (.ackReceived s.writer.handle ready)).pour? top now write.body write.written
    | .error e =>
      if write.body.size < write.written then none
      else some (s.giveUp write e, .finished (.error e))

variable {top : Nat} {body : ByteArray}

omit [Transport τ] in
/-- The end of a chunk is within the body, so the addition that finds it may as well saturate. -/
theorem saturated_eq_chunkEnd (s : Session τ) (htop : body.size ≤ top) (n : Nat) :
    min body.size (min top (n + s.writer.settings.chunkSize)) = s.chunkEnd body n := by
  unfold chunkEnd
  omega

/-- No check of the loop fails. -/
theorem pour?_eq_some (now : Instant) (s : Session τ) (htop : body.size ≤ top) (n : Nat) :
    s.pour? top now body n = some (s.pour now body n) := by
  have hbody : ¬ top < body.size := Nat.not_lt.2 htop
  -- the cases are those of the loop without checks
  fun_induction pour now s body n with
  | case1 s n hn hchunk =>
    rw [pour?, if_neg hbody, if_pos hn, if_pos hchunk]
  | case2 s n hn hchunk stop s₁ a hoffer hfull ih =>
    have hstop : min body.size (min top (n + s.writer.settings.chunkSize)) = stop :=
      s.saturated_eq_chunkEnd htop n
    have hle : stop ≤ body.size := Nat.min_le_left _ _
    rw [pour?, if_neg hbody, if_pos hn, if_neg hchunk]
    dsimp only
    rw [hstop, hoffer, if_neg (by omega), if_neg (by omega), if_pos hfull]
    exact ih
  | case3 s n hn hchunk stop s₁ a hoffer hshort s₂ waiter hregister s₃ r hagain hr ih =>
    have hstop : min body.size (min top (n + s.writer.settings.chunkSize)) = stop :=
      s.saturated_eq_chunkEnd htop n
    have hle : stop ≤ body.size := Nat.min_le_left _ _
    have hfirst : n + a ≤ stop := add_le_chunkEnd hn hoffer
    have hsecond : n + a + r ≤ stop := add_le_of_offer hfirst hagain
    rw [pour?, if_neg hbody, if_pos hn, if_neg hchunk]
    dsimp only
    rw [hstop, hoffer, if_neg (by omega), if_neg (by omega), if_neg hshort]
    dsimp only
    rw [hregister, if_neg (by omega)]
    dsimp only
    rw [hagain, if_pos hr, if_neg (by omega)]
    exact ih
  | case4 s n hn hchunk stop s₁ a hoffer hshort s₂ waiter hregister s₃ r hagain hr s₄ write hwait =>
    have hstop : min body.size (min top (n + s.writer.settings.chunkSize)) = stop :=
      s.saturated_eq_chunkEnd htop n
    have hle : stop ≤ body.size := Nat.min_le_left _ _
    have hfirst : n + a ≤ stop := add_le_chunkEnd hn hoffer
    rw [pour?, if_neg hbody, if_pos hn, if_neg hchunk]
    dsimp only
    rw [hstop, hoffer, if_neg (by omega), if_neg (by omega), if_neg hshort]
    dsimp only
    rw [hregister, if_neg (by omega)]
    dsimp only
    rw [hagain, if_neg hr, if_neg (by omega), hwait]
  | case5 s n hn =>
    rw [pour?, if_neg hbody, if_neg hn]

theorem write?_eq_some (s : Session τ) (now : Instant) (htop : body.size ≤ top) :
    s.write? top now body = some (s.write now body) := by
  rcases hcall : s.flush with ⟨s₁, e | ⟨⟨⟩⟩⟩
  · simp only [write?, write, hcall]
  · simp only [write?, write, hcall]
    exact pour?_eq_some now s₁ htop 0

/-- Nor does one when a write is carried on that got no further than its body. -/
theorem resume?_eq_some (s : Session τ) (now : Instant) {write : PendingWrite}
    (htop : write.body.size ≤ top) (hwritten : write.written ≤ write.body.size) :
    s.resume? top now write = some (s.resume now write) := by
  rcases hends : s.waitEnds? now write with _ | ⟨board, e | ready⟩
  · simp only [resume?, resume, hends]
  · simp only [resume?, resume, hends]
    rw [if_neg (Nat.not_lt.2 hwritten)]
  · simp only [resume?, resume, hends]
    exact pour?_eq_some now _ htop _

end Session

end Sluice
