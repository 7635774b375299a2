import Sluice.Proofs.Waking.Notices

/-!
# What becomes of every notification

A board is followed from the first waiter on, with books about it: who made each registration, what
each notification posted and on which registration, and what each waiter received. The books balance
after every move. What was posted to a waiter that exists was received, in order and once, or lies
in its mailbox, or found two counts lying there.
-/
namespace Sluice

/-- A count that a notification posted to a waiter. -/
structure Letter where
  /-- The notification, by its number. -/
  notice : Nat
  /-- The registration that it used up, by its number. -/
  slip : Nat
  waiter : WaiterId
  count : Nat
  /-- What lay in the mailbox when it came, if the waiter still existed. -/
  lying : Option (List Nat)
  /-- How many counts the waiter had received by then. -/
  heard : Nat
deriving DecidableEq

namespace Letter

/-- There was a place for it in the mailbox. -/
def isKept (d : Letter) : Bool := d.lying.any fun counts => decide (counts.length < 2)

/-- How many counts the waiter has then, those that it has received included. -/
def due (d : Letter) : Nat :=
  d.lying.elim 0 fun counts => d.heard + min (counts.length + 1) 2

/-- It was kept for this waiter. -/
def reaches (waiter : WaiterId) (d : Letter) : Bool := decide (d.waiter = waiter) && d.isKept

theorem reaches_iff {waiter : WaiterId} {d : Letter} :
    d.reaches waiter = true ↔ d.waiter = waiter ∧ d.isKept = true := by
  rw [reaches, Bool.and_eq_true, decide_eq_true_iff]

/-- Of letters to different waiters one at most reaches a waiter. -/
theorem filter_reaches {l : List Letter} (hdistinct : l.Pairwise fun d d' => d.waiter ≠ d'.waiter)
    {d : Letter} (hd : d ∈ l) :
    l.filter (reaches d.waiter) = if d.isKept then [d] else [] := by
  induction l with
  | nil => cases hd
  | cons first rest ih =>
    obtain ⟨hfirst, hrest⟩ := List.pairwise_cons.1 hdistinct
    rcases List.mem_cons.1 hd with rfl | hd
    · have hnone : rest.filter (reaches d.waiter) = [] :=
        List.filter_eq_nil_iff.2 fun d' hd' hreaches =>
          hfirst d' hd' (reaches_iff.1 hreaches).1.symm
      cases hkept : d.isKept <;> simp [reaches, hkept, hnone]
    · have hnot : ¬ first.reaches d.waiter = true := fun hreaches =>
        hfirst d hd (reaches_iff.1 hreaches).1
      rw [List.filter_cons_of_neg hnot, ih hrest hd]

end Letter

/-- A board, and the books about it. -/
structure Accounts where
  board : AckBoard := {}
  /-- The waits that go on. -/
  waits : Table WaiterId Wait := .empty
  /-- Who made the registrations so far, in order. -/
  slips : List WaiterId := []
  /-- The number of the last registration under a handle. -/
  last : HandleId → Nat := fun _ => 0
  /-- The notifications so far, in order: of which handle, if of one, and how much. -/
  notices : List (Option HandleId × Nat) := []
  /-- What they posted, in order. -/
  posted : List Letter := []
  /-- What was received, in order. -/
  receipts : List (WaiterId × Nat) := []

namespace Accounts

/-- What can happen next. -/
inductive Move where
  /-- A waiter is made. -/
  | make
  /-- A waiter registers for the next notification of its handle. -/
  | attach (waiter : WaiterId)
  | detach (handle : HandleId)
  /-- A handle is notified, or all are. -/
  | notify (target : Option HandleId) (count : Nat)
  /-- A waiter begins to wait. -/
  | wait (waiter : WaiterId) (now : Instant) (limit : Option Duration)
  /-- A wait that goes on is looked at again. -/
  | poll (waiter : WaiterId) (now : Instant)
  /-- A wait is given up from outside. -/
  | cancel (waiter : WaiterId)
  /-- A waiter goes, and so does its wait. -/
  | drop (waiter : WaiterId)

/-- What a waiter has received, in order. -/
def received (s : Accounts) (waiter : WaiterId) : List Nat :=
  (s.receipts.filter fun r => decide (r.1 = waiter)).map Prod.snd

/-- What was posted to a waiter and kept, in order. -/
def kept (s : Accounts) (waiter : WaiterId) : List Letter := s.posted.filter (Letter.reaches waiter)

/-- What the next notification posts on a registration that it finds. -/
def letter (s : Accounts) (count : Nat) (e : HandleId × WaiterId) : Letter where
  notice := s.notices.length
  slip := s.last e.1
  waiter := e.2
  count := count
  lying := (s.board.mailboxes.find? e.2).map Mailbox.counts
  heard := (s.received e.2).length

/-- Looks whether a wait can end. -/
def look (s : Accounts) (now : Instant) (wait : Wait) : Accounts :=
  match wait.poll? now s.board with
  | some (board, .ok count) =>
    { s with
      board
      waits := s.waits.erase wait.waiter
      receipts := s.receipts ++ [(wait.waiter, count)] }
  | some (board, .error _) => { s with board, waits := s.waits.erase wait.waiter }
  | none => { s with waits := s.waits.insert wait.waiter wait }

/-- Each waiter has its handle, and several may have the same. Nobody registers or waits who does
not exist, and no waiter waits twice at a time. -/
def step (handleOf : WaiterId → HandleId) (s : Accounts) : Move → Accounts
  | .make => { s with board := s.board.openMailbox.1 }
  | .attach waiter =>
    if s.board.mailboxes.contains waiter then
      { s with
        board := (s.board.attach (handleOf waiter) waiter).1
        slips := s.slips ++ [waiter]
        last := fun handle => if handle = handleOf waiter then s.slips.length else s.last handle }
    else s
  | .detach handle => { s with board := (s.board.detach handle).1 }
  | .notify target count =>
    { s with
      board := s.board.notify target count
      notices := s.notices ++ [(target, count)]
      posted := s.posted ++ (s.board.facing target).map (s.letter count) }
  | .wait waiter now limit =>
    if s.board.mailboxes.contains waiter && !s.waits.contains waiter then
      s.look now ⟨waiter, now, limit⟩
    else s
  | .poll waiter now =>
    match s.waits.find? waiter with
    | some wait => s.look now wait
    | none => s
  | .cancel waiter => { s with waits := s.waits.erase waiter }
  | .drop waiter =>
    { s with board := s.board.closeMailbox waiter, waits := s.waits.erase waiter }

def run (handleOf : WaiterId → HandleId) (moves : List Move) : Accounts :=
  moves.foldl (step handleOf) {}

/-! ## Registrations and letters -/

/-- Where the registrations and the letters come from. -/
structure Filed (handleOf : WaiterId → HandleId) (s : Accounts) : Prop where
  made : ∀ waiter ∈ s.slips, waiter.number < s.board.opened
  /-- A registration that stands is the last one under its handle, and not used up yet. -/
  standing : ∀ handle waiter, s.board.registrations.find? handle = some waiter →
    handle = handleOf waiter ∧ s.slips[s.last handle]? = some waiter ∧
      ∀ d ∈ s.posted, d.slip ≠ s.last handle
  /-- A letter used up a registration of the waiter that it went to. -/
  slip : ∀ d ∈ s.posted, s.slips[d.slip]? = some d.waiter
  notice : ∀ d ∈ s.posted, ∃ target, s.notices[d.notice]? = some (target, d.count) ∧
    (target = none ∨ target = some (handleOf d.waiter))
  ordered : s.posted.Pairwise fun d d' => d.waiter = d'.waiter → d.notice < d'.notice
  /-- No registration was used up twice. -/
  once : (s.posted.map Letter.slip).Nodup

section

variable {handleOf : WaiterId → HandleId} {s : Accounts}

theorem filed_empty : Filed handleOf {} where
  made := nofun
  standing := nofun
  slip := nofun
  notice := nofun
  ordered := .nil
  once := List.nodup_nil

/-- The board only lost registrations. -/
theorem Filed.keep (h : s.Filed handleOf) {board : AckBoard} {waits : Table WaiterId Wait}
    {receipts : List (WaiterId × Nat)} (hopened : s.board.opened ≤ board.opened)
    (hregistered : ∀ handle waiter, board.registrations.find? handle = some waiter →
      s.board.registrations.find? handle = some waiter) :
    { s with board, waits, receipts }.Filed handleOf where
  made waiter hw := Nat.lt_of_lt_of_le (h.made waiter hw) hopened
  standing handle waiter hw := h.standing handle waiter (hregistered handle waiter hw)
  slip := h.slip
  notice := h.notice
  ordered := h.ordered
  once := h.once

theorem Filed.lt_slips (h : s.Filed handleOf) {d : Letter} (hd : d ∈ s.posted) :
    d.slip < s.slips.length :=
  (List.getElem?_eq_some_iff.1 (h.slip d hd)).1

theorem Filed.lt_notices (h : s.Filed handleOf) {d : Letter} (hd : d ∈ s.posted) :
    d.notice < s.notices.length := by
  obtain ⟨target, hnotice, -⟩ := h.notice d hd
  exact (List.getElem?_eq_some_iff.1 hnotice).1

/-- A waiter registers. -/
theorem Filed.attach (h : s.Filed handleOf) {waiter : WaiterId}
    (hlt : waiter.number < s.board.opened) :
    { s with
      board := (s.board.attach (handleOf waiter) waiter).1
      slips := s.slips ++ [waiter]
      last := fun handle =>
        if handle = handleOf waiter then s.slips.length else s.last handle }.Filed handleOf where
  made other hother := by
    rcases List.mem_append.1 hother with hold | hnew
    · exact h.made other hold
    · rw [List.mem_singleton.1 hnew]
      exact hlt
  standing handle other hother := by
    dsimp only
    rw [AckBoard.find?_attach] at hother
    split at hother
    · -- the new registration has a number of its own
      rename_i heq
      obtain rfl := Option.some.inj hother
      subst heq
      rw [if_pos rfl]
      exact ⟨rfl, by simp, fun d hd => Nat.ne_of_lt (h.lt_slips hd)⟩
    · rename_i hne
      obtain ⟨hhandle, hslip, hunused⟩ := h.standing handle other hother
      rw [if_neg (Ne.symm hne)]
      refine ⟨hhandle, ?_, hunused⟩
      rw [List.getElem?_append_left (List.getElem?_eq_some_iff.1 hslip).1]
      exact hslip
  slip d hd := by
    rw [List.getElem?_append_left (h.lt_slips hd)]
    exact h.slip d hd
  notice := h.notice
  ordered := h.ordered
  once := h.once

/-- Each registration has a number of its own. -/
theorem Filed.eq_of_last_eq (h : s.Filed handleOf) {handle other : HandleId}
    {waiter receiver : WaiterId} (hw : s.board.registrations.find? handle = some waiter)
    (hr : s.board.registrations.find? other = some receiver) (heq : s.last handle = s.last other) :
    handle = other ∧ waiter = receiver := by
  obtain ⟨hhandle, hslip, -⟩ := h.standing handle waiter hw
  obtain ⟨hother, hslip', -⟩ := h.standing other receiver hr
  rw [← heq, hslip] at hslip'
  obtain rfl := Option.some.inj hslip'
  exact ⟨hhandle.trans hother.symm, rfl⟩

/-- What a notification posts goes to different waiters, on different registrations. -/
theorem Filed.pairwise_letters (h : s.Filed handleOf) (target : Option HandleId) (count : Nat) :
    ((s.board.facing target).map (s.letter count)).Pairwise fun d d' =>
      d.waiter ≠ d'.waiter ∧ d.slip ≠ d'.slip := by
  rw [List.pairwise_map]
  refine (s.board.pairwise_facing target).imp_of_mem fun {e e'} he he' hne => ?_
  have hfound := (AckBoard.find?_of_mem_facing he).1
  have hfound' := (AckBoard.find?_of_mem_facing he').1
  have hwaiter : e.2 ≠ e'.2 := by
    -- a waiter registers under its own handle only
    intro heq
    apply hne
    rw [(h.standing e.1 e.2 hfound).1, (h.standing e'.1 e'.2 hfound').1, heq]
  exact ⟨hwaiter, fun heq => hwaiter (h.eq_of_last_eq hfound hfound' heq).2⟩

/-- A notification uses up what it finds. -/
theorem Filed.notify (h : s.Filed handleOf) (target : Option HandleId) (count : Nat) :
    (s.step handleOf (.notify target count)).Filed handleOf := by
  have hpair := h.pairwise_letters target count
  have hletter {d : Letter} (hd : d ∈ (s.board.facing target).map (s.letter count)) :
      ∃ e ∈ s.board.facing target, s.letter count e = d := List.mem_map.1 hd
  refine ⟨fun waiter hw => ?_, fun handle waiter hw => ?_, fun d hd => ?_, fun d hd => ?_, ?_, ?_⟩
  · show waiter.number < (s.board.notify target count).opened
    rw [AckBoard.opened_notify]
    exact h.made waiter hw
  · obtain ⟨hfound, hnot⟩ := AckBoard.of_find?_notify hw
    obtain ⟨hhandle, hslip, hunused⟩ := h.standing handle waiter hfound
    refine ⟨hhandle, hslip, fun d hd => ?_⟩
    rcases List.mem_append.1 hd with hold | hnew
    · exact hunused d hold
    · -- what was found is gone
      obtain ⟨e, he, rfl⟩ := hletter hnew
      intro heq
      obtain ⟨rfl, rfl⟩ := h.eq_of_last_eq (AckBoard.find?_of_mem_facing he).1 hfound heq
      exact hnot he
  · rcases List.mem_append.1 hd with hold | hnew
    · exact h.slip d hold
    · obtain ⟨e, he, rfl⟩ := hletter hnew
      exact (h.standing e.1 e.2 (AckBoard.find?_of_mem_facing he).1).2.1
  · show ∃ found, (s.notices ++ [(target, count)])[d.notice]? = _ ∧ _
    rcases List.mem_append.1 hd with hold | hnew
    · rw [List.getElem?_append_left (h.lt_notices hold)]
      exact h.notice d hold
    · obtain ⟨e, he, rfl⟩ := hletter hnew
      obtain ⟨hfound, htarget⟩ := AckBoard.find?_of_mem_facing he
      rw [(h.standing e.1 e.2 hfound).1] at htarget
      exact ⟨target, by simp [letter], htarget⟩
  · refine List.pairwise_append.2 ⟨h.ordered, ?_, fun d hd d' hd' _ => ?_⟩
    · exact hpair.imp fun hne heq => absurd heq hne.1
    · obtain ⟨e, he, rfl⟩ := hletter hd'
      exact h.lt_notices hd
  · show ((s.posted ++ (s.board.facing target).map (s.letter count)).map Letter.slip).Nodup
    rw [List.map_append, List.nodup_append]
    refine ⟨h.once, List.pairwise_map.2 (hpair.imp And.right), ?_⟩
    rintro slip hslip other hother rfl
    obtain ⟨d, hd, rfl⟩ := List.mem_map.1 hslip
    obtain ⟨d', hd', heq⟩ := List.mem_map.1 hother
    obtain ⟨e, he, rfl⟩ := hletter hd'
    exact (h.standing e.1 e.2 (AckBoard.find?_of_mem_facing he).1).2.2 d hd heq.symm

end

/-! ## What was posted and what was received -/

/-- What was kept was received or lies in the mailbox. -/
structure Balanced (s : Accounts) : Prop where
  number_lt : ∀ waiter, (s.board.mailboxes.find? waiter).isSome → waiter.number < s.board.opened
  received : ∀ waiter, s.received waiter <+: (s.kept waiter).map Letter.count
  lying : ∀ waiter, (s.board.mailboxes.find? waiter).isSome →
    (s.kept waiter).map Letter.count = s.received waiter ++ s.board.counts waiter
  /-- A letter that was kept is the last of those that were due then. -/
  placed : ∀ d ∈ s.posted, d.isKept = true → (s.kept d.waiter)[d.due - 1]? = some d
  due_le : ∀ d ∈ s.posted, d.due ≤ (s.kept d.waiter).length
  full : ∀ d ∈ s.posted, ∀ counts, d.lying = some counts → counts.length ≤ 2

section

variable {handleOf : WaiterId → HandleId} {s : Accounts}

theorem balanced_empty : Balanced {} where
  number_lt := nofun
  received _ := List.prefix_rfl
  lying := nofun
  placed := nofun
  due_le := nofun
  full := nofun

/-- The mailboxes that are there now were there before, with the same counts. -/
theorem Balanced.keep (h : s.Balanced) {board : AckBoard} {waits : Table WaiterId Wait}
    {slips : List WaiterId} {last : HandleId → Nat} (hopened : s.board.opened ≤ board.opened)
    (hmailboxes : ∀ waiter, (board.mailboxes.find? waiter).isSome →
      board.mailboxes.find? waiter = s.board.mailboxes.find? waiter) :
    { s with board, waits, slips, last }.Balanced where
  number_lt waiter hw :=
    Nat.lt_of_lt_of_le (h.number_lt waiter (hmailboxes waiter hw ▸ hw)) hopened
  received := h.received
  lying waiter hw := by
    have heq := hmailboxes waiter hw
    show (s.kept waiter).map Letter.count = s.received waiter ++ board.counts waiter
    rw [AckBoard.counts_congr heq]
    exact h.lying waiter (heq ▸ hw)
  placed := h.placed
  due_le := h.due_le
  full := h.full

theorem Balanced.length_kept (h : s.Balanced) {waiter : WaiterId}
    (hw : (s.board.mailboxes.find? waiter).isSome) :
    (s.kept waiter).length = (s.received waiter).length + (s.board.counts waiter).length := by
  have hlength := congrArg List.length (h.lying waiter hw)
  rwa [List.length_map, List.length_append] at hlength

/-- A waiter that was just made has received nothing, and nothing was posted to it. -/
theorem Balanced.make (h : s.Balanced) (hfiled : s.Filed handleOf) :
    { s with board := s.board.openMailbox.1 }.Balanced := by
  have hnew : s.kept ⟨s.board.opened⟩ = [] := by
    refine List.filter_eq_nil_iff.2 fun d hd hreaches => ?_
    have hwaiter := (Letter.reaches_iff.1 hreaches).1
    have hmade := hfiled.made d.waiter (List.mem_of_getElem? (hfiled.slip d hd))
    rw [hwaiter] at hmade
    exact Nat.lt_irrefl _ hmade
  have hfind (waiter : WaiterId) : s.board.openMailbox.1.mailboxes.find? waiter =
      if ⟨s.board.opened⟩ = waiter then some .empty else s.board.mailboxes.find? waiter :=
    Table.find?_insert ..
  refine ⟨fun waiter hw => ?_, h.received, fun waiter hw => ?_, h.placed, h.due_le, h.full⟩
  · dsimp only at hw
    rw [hfind] at hw
    split at hw
    · rename_i heq
      rw [← heq]
      exact Nat.lt_succ_self _
    · exact Nat.lt_succ_of_lt (h.number_lt waiter hw)
  · show (s.kept waiter).map Letter.count =
      s.received waiter ++ s.board.openMailbox.1.counts waiter
    dsimp only at hw
    by_cases heq : (⟨s.board.opened⟩ : WaiterId) = waiter
    · subst heq
      have hprefix := h.received ⟨s.board.opened⟩
      rw [hnew, List.map_nil, List.prefix_nil] at hprefix
      rw [hnew, hprefix, AckBoard.counts, hfind, if_pos rfl]
      rfl
    · have hsame := hfind waiter
      rw [if_neg heq] at hsame
      rw [AckBoard.counts_congr hsame]
      exact h.lying waiter (hsame ▸ hw)

/-- A waiter receives the oldest of the counts that lie in its mailbox. -/
theorem Balanced.receive (h : s.Balanced) {board : AckBoard} {waits : Table WaiterId Wait}
    {waiter : WaiterId} {count : Nat} (htake : s.board.take? waiter = some (count, board)) :
    { s with board, waits, receipts := s.receipts ++ [(waiter, count)] }.Balanced := by
  obtain ⟨hexists, hopened, hsome⟩ := AckBoard.isSome_of_take? htake
  have hkept := h.lying waiter hexists
  rw [AckBoard.counts_of_take? htake] at hkept
  let s' := { s with board, waits, receipts := s.receipts ++ [(waiter, count)] }
  have hreceived (other : WaiterId) :
      s'.received other = s.received other ++ if waiter = other then [count] else [] := by
    simp only [s', Accounts.received, List.filter_append, List.map_append]
    by_cases heq : waiter = other <;> simp [heq]
  refine ⟨fun other hother => ?_, fun other => ?_, fun other hother => ?_, h.placed, h.due_le,
    h.full⟩
  · show other.number < board.opened
    rw [hopened]
    exact h.number_lt other (hsome other ▸ hother)
  · show s'.received other <+: (s.kept other).map Letter.count
    rw [hreceived]
    split
    · rename_i heq
      rw [← heq, hkept]
      exact ⟨board.counts waiter, List.append_assoc ..⟩
    · rw [List.append_nil]
      exact h.received other
  · show (s.kept other).map Letter.count = s'.received other ++ board.counts other
    rw [hreceived]
    split
    · rename_i heq
      rw [← heq, hkept, List.append_assoc]
      rfl
    · rename_i hne
      rw [List.append_nil, AckBoard.counts_of_take?_ne htake hne]
      exact h.lying other (hsome other ▸ hother)

/-- Whether a wait can end. -/
theorem Balanced.look (h : s.Balanced) (now : Instant) (wait : Wait) :
    (s.look now wait).Balanced := by
  unfold Accounts.look Wait.poll?
  cases htake : s.board.take? wait.waiter with
  | some got => exact h.receive htake
  | none =>
    cases hexpired : wait.expired now with
    | none => exact h.keep (Nat.le_refl _) fun _ _ => rfl
    | some waited => exact h.keep (Nat.le_refl _) fun _ _ => rfl

/-- How far a waiter is with a letter that it gets now. -/
theorem Balanced.due_letter (h : s.Balanced) (count : Nat) (e : HandleId × WaiterId) :
    if (s.letter count e).isKept then (s.letter count e).due = (s.kept e.2).length + 1
    else (s.letter count e).due ≤ (s.kept e.2).length := by
  cases hfind : s.board.mailboxes.find? e.2 with
  | none => simp [letter, Letter.isKept, Letter.due, hfind]
  | some m =>
    have hlength := h.length_kept (by rw [hfind]; rfl)
    rw [AckBoard.counts_of_find? hfind] at hlength
    have hbounded := m.bounded
    simp only [letter, Letter.isKept, Letter.due, hfind, Option.map_some, Option.any_some,
      Option.elim_some, decide_eq_true_eq]
    split <;> omega

/-- What a notification puts into the mailboxes. -/
theorem Filed.find?_mailboxes (h : s.Filed handleOf) (target : Option HandleId) (count : Nat)
    (waiter : WaiterId) : (s.board.notify target count).mailboxes.find? waiter =
      if waiter ∈ (s.board.facing target).map Prod.snd then
        (s.board.mailboxes.find? waiter).map (·.post count)
      else s.board.mailboxes.find? waiter := by
  have hpair := List.pairwise_map.1 (h.pairwise_letters target count)
  exact AckBoard.find?_mailboxes_notify (List.pairwise_map.2 (hpair.imp And.left)) count waiter

theorem Filed.isSome_mailboxes (h : s.Filed handleOf) (target : Option HandleId) (count : Nat)
    (waiter : WaiterId) : ((s.board.notify target count).mailboxes.find? waiter).isSome =
      (s.board.mailboxes.find? waiter).isSome := by
  rw [h.find?_mailboxes]
  split
  · exact Option.isSome_map
  · rfl

/-- A waiter that is found gets the count, if it has a place for it. -/
theorem Filed.counts_notify (h : s.Filed handleOf) {target : Option HandleId}
    {e : HandleId × WaiterId} (he : e ∈ s.board.facing target)
    (hexists : (s.board.mailboxes.find? e.2).isSome) (count : Nat) :
    (s.board.notify target count).counts e.2 =
      s.board.counts e.2 ++ if (s.letter count e).isKept then [count] else [] := by
  obtain ⟨m, hm⟩ := Option.isSome_iff_exists.1 hexists
  have hpost := h.find?_mailboxes target count e.2
  rw [if_pos (List.mem_map_of_mem he), hm] at hpost
  rw [AckBoard.counts_of_find? hpost, AckBoard.counts_of_find? hm, Mailbox.counts_post]
  simp only [letter, Letter.isKept, hm, Option.map_some, Option.any_some, decide_eq_true_eq]
  split
  · rfl
  · rw [List.append_nil]

/-- The letters of a notification come last. -/
theorem kept_notify (s : Accounts) (target : Option HandleId) (count : Nat) (waiter : WaiterId) :
    (s.step handleOf (.notify target count)).kept waiter = s.kept waiter ++
      ((s.board.facing target).map (s.letter count)).filter (Letter.reaches waiter) :=
  List.filter_append ..

/-- A waiter that is found has one letter more, if it is kept. -/
theorem Filed.kept_notify_of_mem (h : s.Filed handleOf) {target : Option HandleId}
    {e : HandleId × WaiterId} (he : e ∈ s.board.facing target) (count : Nat) :
    (s.step handleOf (.notify target count)).kept e.2 =
      s.kept e.2 ++ if (s.letter count e).isKept then [s.letter count e] else [] := by
  rw [kept_notify]
  exact congrArg _ (Letter.filter_reaches ((h.pairwise_letters target count).imp And.left)
    (List.mem_map_of_mem he))

/-- No other waiter has a letter more. -/
theorem kept_notify_of_notMem {target : Option HandleId} {waiter : WaiterId}
    (hmem : waiter ∉ (s.board.facing target).map Prod.snd) (count : Nat) :
    (s.step handleOf (.notify target count)).kept waiter = s.kept waiter := by
  have hnone : ((s.board.facing target).map (s.letter count)).filter (Letter.reaches waiter) =
      [] := by
    refine List.filter_eq_nil_iff.2 fun d hd hreaches => hmem ?_
    obtain ⟨e, he, rfl⟩ := List.mem_map.1 hd
    rw [← (Letter.reaches_iff.1 hreaches).1]
    exact List.mem_map_of_mem he
  rw [kept_notify, hnone, List.append_nil]

/-- What is kept of the letters lies in the mailboxes. -/
theorem Balanced.lying_notify (h : s.Balanced) (hfiled : s.Filed handleOf)
    (target : Option HandleId) (count : Nat) {waiter : WaiterId}
    (hexists : (s.board.mailboxes.find? waiter).isSome) :
    ((s.step handleOf (.notify target count)).kept waiter).map Letter.count =
      s.received waiter ++ (s.board.notify target count).counts waiter := by
  by_cases hmem : waiter ∈ (s.board.facing target).map Prod.snd
  · obtain ⟨e, he, rfl⟩ := List.mem_map.1 hmem
    rw [hfiled.kept_notify_of_mem he, hfiled.counts_notify he hexists, List.map_append,
      h.lying e.2 hexists, List.append_assoc]
    split <;> rfl
  · have hsame := hfiled.find?_mailboxes target count waiter
    rw [if_neg hmem] at hsame
    rw [kept_notify_of_notMem hmem, AckBoard.counts_congr hsame]
    exact h.lying waiter hexists

/-- A letter that is kept has its place among those for its waiter. -/
theorem Balanced.placed_notify (h : s.Balanced) (hfiled : s.Filed handleOf)
    {target : Option HandleId} {count : Nat} {d : Letter}
    (hd : d ∈ (s.step handleOf (.notify target count)).posted) (hkept : d.isKept = true) :
    ((s.step handleOf (.notify target count)).kept d.waiter)[d.due - 1]? = some d := by
  rcases List.mem_append.1 hd with hold | hnew
  · have hplaced := h.placed d hold hkept
    rw [kept_notify, List.getElem?_append_left (List.getElem?_eq_some_iff.1 hplaced).1]
    exact hplaced
  · obtain ⟨e, he, rfl⟩ := List.mem_map.1 hnew
    have hdue := h.due_letter count e
    have hwaiter : (s.letter count e).waiter = e.2 := rfl
    rw [if_pos hkept] at hdue
    rw [hdue, hwaiter, hfiled.kept_notify_of_mem he, if_pos hkept]
    simp

/-- As many letters as were due with one are kept. -/
theorem Balanced.due_le_notify (h : s.Balanced) (hfiled : s.Filed handleOf)
    {target : Option HandleId} {count : Nat} {d : Letter}
    (hd : d ∈ (s.step handleOf (.notify target count)).posted) :
    d.due ≤ ((s.step handleOf (.notify target count)).kept d.waiter).length := by
  rcases List.mem_append.1 hd with hold | hnew
  · rw [kept_notify, List.length_append]
    exact Nat.le_add_right_of_le (h.due_le d hold)
  · obtain ⟨e, he, rfl⟩ := List.mem_map.1 hnew
    have hdue := h.due_letter count e
    have hwaiter : (s.letter count e).waiter = e.2 := rfl
    rw [hwaiter, hfiled.kept_notify_of_mem he, List.length_append]
    split at hdue
    · rename_i hyes
      rw [if_pos hyes, hdue]
      exact Nat.le_refl _
    · rename_i hno
      rw [if_neg hno]
      exact hdue

/-- What a notification posts is kept, or two counts lie there, or the waiter is gone. -/
theorem Balanced.notify (h : s.Balanced) (hfiled : s.Filed handleOf) (target : Option HandleId)
    (count : Nat) : (s.step handleOf (.notify target count)).Balanced where
  number_lt waiter hw := by
    show waiter.number < (s.board.notify target count).opened
    rw [AckBoard.opened_notify]
    exact h.number_lt waiter (hfiled.isSome_mailboxes target count waiter ▸ hw)
  received waiter := by
    rw [kept_notify, List.map_append]
    exact (h.received waiter).trans (List.prefix_append ..)
  lying waiter hw :=
    h.lying_notify hfiled target count (hfiled.isSome_mailboxes target count waiter ▸ hw)
  placed _ hd hkept := h.placed_notify hfiled hd hkept
  due_le _ hd := h.due_le_notify hfiled hd
  full d hd counts hcounts := by
    rcases List.mem_append.1 hd with hold | hnew
    · exact h.full d hold counts hcounts
    · obtain ⟨e, he, rfl⟩ := List.mem_map.1 hnew
      obtain ⟨m, -, rfl⟩ := Option.map_eq_some_iff.1 hcounts
      exact m.bounded

end

/-! ## Every run -/

/-- The books are in order. -/
structure Accounted (handleOf : WaiterId → HandleId) (s : Accounts) : Prop
    extends s.Filed handleOf, s.Balanced where
  counts_le : ∀ waiter, (s.board.counts waiter).length ≤ 2
  /-- A letter is not kept only if two counts lie in the mailbox, or the waiter is gone. -/
  discarded : ∀ d ∈ s.posted, d.isKept = false →
    d.lying = none ∨ ∃ counts, d.lying = some counts ∧ counts.length = 2
  /-- A waiter that has not yet received what was due with a letter need not wait for its next
  count, whether the letter was kept or not. -/
  prompt : ∀ d ∈ s.posted, (s.board.mailboxes.find? d.waiter).isSome →
    s.waits.find? d.waiter = none → (s.received d.waiter).length < d.due → ∀ now limit,
      let s' := s.step handleOf (.wait d.waiter now limit)
      s'.waits.find? d.waiter = none ∧
        ∃ count, s'.received d.waiter = s.received d.waiter ++ [count]
  /-- A notification posts on each registration that it finds, or it is absorbed. -/
  charged : ∀ target count,
    let s' := s.step handleOf (.notify target count)
    ∃ letters, s'.posted = s.posted ++ letters ∧ (∀ d ∈ letters, d.notice = s.notices.length) ∧
      (letters ≠ [] ∧ s'.board.absorbed = s.board.absorbed ∨
        letters = [] ∧ s'.board.absorbed = s.board.absorbed + 1)

section

variable {handleOf : WaiterId → HandleId} {s : Accounts}

theorem Filed.look (h : s.Filed handleOf) (now : Instant) (wait : Wait) :
    (s.look now wait).Filed handleOf := by
  unfold Accounts.look Wait.poll?
  cases htake : s.board.take? wait.waiter with
  | some got =>
    have hspends := AckBoard.spends_take? htake
    exact h.keep (Nat.le_of_eq hspends.opened_eq.symm) hspends.registered
  | none =>
    cases hexpired : wait.expired now with
    | none => exact h.keep (Nat.le_refl _) fun _ _ => id
    | some waited => exact h.keep (Nat.le_refl _) fun _ _ => id

/-- Every move keeps the books in order. -/
theorem filed_balanced_step (hf : s.Filed handleOf) (hb : s.Balanced) (move : Move) :
    (s.step handleOf move).Filed handleOf ∧ (s.step handleOf move).Balanced := by
  cases move with
  | make => exact ⟨hf.keep (Nat.le_succ _) fun _ _ => id, hb.make hf⟩
  | attach waiter =>
    simp only [step]
    split
    · rename_i hexists
      exact ⟨hf.attach (hb.number_lt waiter hexists), hb.keep (Nat.le_refl _) fun _ _ => rfl⟩
    · exact ⟨hf, hb⟩
  | detach handle =>
    exact ⟨hf.keep (Nat.le_refl _) fun _ _ hw => (Table.of_find?_erase hw).2,
      hb.keep (Nat.le_refl _) fun _ _ => rfl⟩
  | notify target count => exact ⟨hf.notify target count, hb.notify hf target count⟩
  | wait waiter now limit =>
    simp only [step]
    split
    · exact ⟨hf.look now _, hb.look now _⟩
    · exact ⟨hf, hb⟩
  | poll waiter now =>
    simp only [step]
    split
    · exact ⟨hf.look now _, hb.look now _⟩
    · exact ⟨hf, hb⟩
  | cancel waiter =>
    exact ⟨hf.keep (Nat.le_refl _) fun _ _ => id, hb.keep (Nat.le_refl _) fun _ _ => rfl⟩
  | drop waiter =>
    refine ⟨hf.keep (Nat.le_refl _) fun _ _ => id, hb.keep (Nat.le_refl _) fun other hother => ?_⟩
    obtain ⟨m, hm⟩ := Option.isSome_iff_exists.1 hother
    exact hm.trans (Table.of_find?_erase hm).2.symm

theorem filed_balanced_run (handleOf : WaiterId → HandleId) (moves : List Move) :
    (run handleOf moves).Filed handleOf ∧ (run handleOf moves).Balanced := by
  suffices hrun : ∀ s : Accounts, s.Filed handleOf → s.Balanced →
      (moves.foldl (step handleOf) s).Filed handleOf ∧ (moves.foldl (step handleOf) s).Balanced from
    hrun {} filed_empty balanced_empty
  induction moves with
  | nil => exact fun s hf hb => ⟨hf, hb⟩
  | cons move rest ih =>
    intro s hf hb
    obtain ⟨hf', hb'⟩ := filed_balanced_step hf hb move
    exact ih (s.step handleOf move) hf' hb'

/-- A wait that finds a count does not have to wait. -/
theorem received_wait {waiter : WaiterId} (hexists : (s.board.mailboxes.find? waiter).isSome)
    (hidle : s.waits.find? waiter = none) (hcounts : s.board.counts waiter ≠ [])
    (now : Instant) (limit : Option Duration) :
    let s' := s.step handleOf (.wait waiter now limit)
    s'.waits.find? waiter = none ∧ ∃ count, s'.received waiter = s.received waiter ++ [count] := by
  cases htake : s.board.take? waiter with
  | none => exact absurd (AckBoard.take?_eq_none_iff_counts.1 htake) hcounts
  | some got =>
    obtain ⟨count, board⟩ := got
    simp only [step, Table.contains, hexists, hidle, Option.isSome_none, Bool.not_false,
      Bool.and_self, if_true, Accounts.look, Wait.poll?, htake]
    refine ⟨Table.find?_erase_self .., count, ?_⟩
    simp [Accounts.received]

/-- Every notification is accounted for, on a board with any number of waiters, and whatever they
do. What a waiter receives are the counts of the letters kept for it, in the order of the
notifications and none twice. Each letter used up a registration of its waiter, and no two the same.
What was kept and not yet received lies in the mailbox, and what was not kept found two counts
there, so that no waiter waits while a letter is due to it. A notification uses up a registration or
is absorbed. -/
theorem accounted_run (handleOf : WaiterId → HandleId) (moves : List Move) :
    (run handleOf moves).Accounted handleOf := by
  obtain ⟨hf, hb⟩ := filed_balanced_run handleOf moves
  generalize run handleOf moves = s at hf hb
  refine ⟨hf, hb, s.board.length_counts_le, fun d hd hnot => ?_,
    fun d hd hexists hidle hbefore now limit => ?_, fun target count => ?_⟩
  · cases hlying : d.lying with
    | none => exact .inl rfl
    | some counts =>
      have hle := hb.full d hd counts hlying
      simp only [Letter.isKept, hlying, Option.any_some, decide_eq_false_iff_not] at hnot
      exact .inr ⟨counts, rfl, by omega⟩
  · refine received_wait hexists hidle (fun hnil => ?_) now limit
    -- all that was kept would have been received
    have hlength := hb.length_kept hexists
    rw [hnil, List.length_nil, Nat.add_zero] at hlength
    exact absurd (hb.due_le d hd) (by omega)
  · refine ⟨(s.board.facing target).map (s.letter count), rfl, fun d hd => ?_, ?_⟩
    · obtain ⟨e, -, rfl⟩ := List.mem_map.1 hd
      rfl
    · have habsorbed := s.board.absorbed_notify target count
      by_cases hnil : s.board.facing target = []
      · rw [if_pos hnil] at habsorbed
        exact .inr ⟨by rw [hnil]; rfl, habsorbed⟩
      · rw [if_neg hnil] at habsorbed
        exact .inl ⟨fun heq => hnil (List.map_eq_nil_iff.1 heq), habsorbed⟩

/-- Two waiters of one handle: the second takes the place of the first, and when it is gone its
registration is still used up. The third letter to the first finds two counts and is lost. -/
example :
    let attachAndNotify (count : Nat) : List Move := [.attach ⟨0⟩, .notify none count]
    let s := run (fun _ => ⟨1⟩) <| [.make, .make, .attach ⟨0⟩, .attach ⟨1⟩, .drop ⟨1⟩,
      .notify (some ⟨1⟩) 9, .notify none 9] ++ attachAndNotify 5 ++ attachAndNotify 6 ++
      attachAndNotify 7 ++ [.wait ⟨0⟩ .start none, .wait ⟨0⟩ .start none]
    s.received ⟨0⟩ = [5, 6] ∧ s.posted.map (fun d => (d.waiter.number, d.count, d.isKept)) =
      [(1, 9, false), (0, 5, true), (0, 6, true), (0, 7, false)] ∧ s.board.absorbed = 1 := by
  decide +kernel

end

end Accounts

end Sluice
