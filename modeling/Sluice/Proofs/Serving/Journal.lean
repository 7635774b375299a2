import Sluice.Dispatch.Basic
import Sluice.Proofs.Writing.Recorded

/-!
# The journal of a dispatcher

For every request that was answered the journal says what was asked for, when it was answered and
from where, what the transport received, and under which key the answer was kept, if it was.
-/
namespace Sluice

/-- A request that was taken up. -/
structure Ticket where
  /-- Requests are numbered as they come. -/
  id : Nat
  request : Request
  /-- The cache is asked at this moment. -/
  begun : Instant
  /-- How many answers there had been. -/
  known : Nat

/-- A request that was answered. -/
structure Answered extends Ticket where
  ended : Instant
  served : Served
  /-- What the transport holds of the response when the dispatch returns. -/
  received : Received
  /-- The key under which the answer was kept. -/
  kept : Option String

/-- The answer that was the last to be kept under a key. -/
def lastKept (key : String) (journal : List Answered) : Option Answered :=
  (journal.filter fun a => a.kept = some key).getLast?

theorem lastKept_concat (key : String) (journal : List Answered) (a : Answered) :
    lastKept key (journal ++ [a]) = if a.kept = some key then some a else lastKept key journal := by
  unfold lastKept
  rw [List.filter_append]
  split
  · rename_i hkey
    simp [hkey]
  · rename_i hkey
    simp [hkey]

theorem mem_of_lastKept {key : String} {journal : List Answered} {a : Answered}
    (h : lastKept key journal = some a) : a ∈ journal ∧ a.kept = some key := by
  have hmem := List.mem_of_getLast? h
  simpa using List.mem_filter.1 hmem

/-- The answer is a page that a handler gave under the path, and that was kept. -/
structure Answered.IsPage (e : Answered) (path : String) : Prop where
  handled : e.served.source = .handler
  method_eq : e.request.method = .get
  path_eq : e.request.path = path
  ok : e.served.status = .ok

/-- What was received for the ticket repeats the last page that was kept under its path, which is
not too old. -/
def Ticket.Echoes (ttl : Duration) (journal : List Answered) (t : Ticket) (r : Received) : Prop :=
  t.request.method = .get ∧ ∃ e, lastKept t.request.path (journal.take t.known) = some e ∧
    e.IsPage t.request.path ∧ e.ended ≤ t.begun ∧ t.begun < e.ended.after ttl ∧ r = e.received

/-- Later answers change nothing. -/
theorem Ticket.Echoes.concat {ttl : Duration} {journal : List Answered} {t : Ticket} {r : Received}
    (h : t.Echoes ttl journal r) (hknown : t.known ≤ journal.length) (a : Answered) :
    t.Echoes ttl (journal ++ [a]) r := by
  unfold Echoes
  rw [List.take_append_of_le_length hknown]
  exact h

/-- The ticket is one of a dispatcher at work, and its answer may be kept under the key. -/
structure Ticket.Fits (started : Nat) (journal : List Answered) (t : Ticket)
    (key : Option String) : Prop where
  id_lt : t.id < started
  known_le : t.known ≤ journal.length
  key : ∀ k, key = some k → t.request.method = .get ∧ t.request.path = k

theorem Ticket.Fits.concat {started : Nat} {journal : List Answered} {t : Ticket}
    {key : Option String} (h : t.Fits started journal key) (a : Answered) :
    t.Fits started (journal ++ [a]) key := by
  refine ⟨h.id_lt, ?_, h.key⟩
  rw [List.length_append]
  exact Nat.le_add_right_of_le h.known_le

/-- What holds of an answer once it is noted. -/
structure Answered.Noted (ttl : Duration) (started : Nat) (now : Instant) (journal : List Answered)
    (a : Answered) : Prop where
  id_lt : a.id < started
  known_le : a.known ≤ journal.length
  ended_le : a.ended ≤ now
  page : ∀ path, a.kept = some path → a.IsPage path
  echoes : a.served.source = .cache → a.toTicket.Echoes ttl journal a.received

theorem Answered.Noted.concat {ttl : Duration} {started : Nat} {now : Instant}
    {journal : List Answered} {a : Answered} (h : a.Noted ttl started now journal)
    (b : Answered) : a.Noted ttl started now (journal ++ [b]) := by
  refine ⟨h.id_lt, ?_, h.ended_le, h.page, fun ha => (h.echoes ha).concat h.known_le b⟩
  rw [List.length_append]
  exact Nat.le_add_right_of_le h.known_le

/-- The cache holds the last pages that were kept, as they were received. -/
structure Cache.Stores (ttl : Duration) (journal : List Answered) (c : Cache) : Prop where
  ttl_eq : c.ttl = ttl
  entry : ∀ key entry, c.entries.find? key = some entry →
    ∃ e, lastKept key journal = some e ∧ entry.recording.received = e.received ∧
      entry.expires = e.ended.after ttl ∧
      entry.recording.fields.contains .contentType = true

namespace Cache.Stores

variable {ttl : Duration} {journal : List Answered} {c c' : Cache}

theorem covers (h : c.Stores ttl journal) (hc : c.Covers c') : c'.Stores ttl journal :=
  ⟨hc.ttl_eq.trans h.ttl_eq, fun key entry he => h.entry key entry (hc.find?_eq key entry he)⟩

/-- An answer that was not kept. -/
theorem concat (h : c.Stores ttl journal) {a : Answered} (ha : a.kept = none) :
    c.Stores ttl (journal ++ [a]) := by
  refine ⟨h.ttl_eq, fun key entry he => ?_⟩
  rw [lastKept_concat, if_neg (by rw [ha]; nofun)]
  exact h.entry key entry he

/-- An answer that was kept. -/
theorem store {now : Instant} {key : String} {r : Recording} {events : List Event} {a : Answered}
    (h : c.Stores ttl journal) (hstore : c.store? now key r = some (c', events))
    (hcontains : r.fields.contains .contentType = true) (hkept : a.kept = some key)
    (hended : a.ended = now) (hreceived : a.received = r.received) :
    c'.Stores ttl (journal ++ [a]) := by
  obtain ⟨expires, hexpires, hset⟩ := Option.map_eq_some_iff.1 hstore
  obtain rfl : (c.set now key ⟨r, expires⟩).1 = c' := congrArg Prod.fst hset
  refine ⟨(c.ttl_set now key _).trans h.ttl_eq, fun k entry he => ?_⟩
  rw [lastKept_concat, hkept]
  -- other entries may have been evicted, so nothing is said of a key that is not found
  rcases Cache.find?_set he with ⟨rfl, rfl⟩ | ⟨hne, he⟩
  · obtain ⟨-, rfl⟩ := Instant.after?_eq_some_iff.1 hexpires
    refine ⟨a, if_pos rfl, hreceived.symm, ?_, hcontains⟩
    rw [hended, h.ttl_eq]
  · rw [if_neg fun heq => hne (Option.some.inj heq)]
    exact h.entry k entry he

/-- What is found is the last page that was kept, and not too old. -/
theorem get (h : c.Stores ttl journal) {now : Instant} {key : String} {r : Recording}
    (hget : (c.get now key).2.2 = some r) :
    r.fields.contains .contentType = true ∧ ∃ e, lastKept key journal = some e ∧
      r.received = e.received ∧ now < e.ended.after ttl := by
  obtain ⟨entry, hentry, rfl, hfresh⟩ := Cache.entry_of_get hget
  obtain ⟨e, hlast, hreceived, hexpires, hcontains⟩ := h.entry key entry hentry
  rw [hexpires] at hfresh
  exact ⟨hcontains, e, hlast, hreceived, hfresh⟩

end Cache.Stores

end Sluice
