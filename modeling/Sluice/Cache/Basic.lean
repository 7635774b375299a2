import Sluice.Recording
import Sluice.Settings
import Sluice.Table

/-!
# The response cache

Recordings under the path they answer, each with the moment at which it expires. An expired entry
is never served, but it stays until it is looked up, until room is needed, or until the cache is
purged. The cache holds a bounded number of entries, expired ones included; a new key in a full
cache costs the entry that would have expired first.
-/
namespace Sluice

namespace Cache

structure Entry where
  recording : Recording
  expires : Instant
deriving DecidableEq, Inhabited

def Entry.isFresh (e : Entry) (now : Instant) : Bool := now < e.expires

end Cache

structure Cache where
  ttl : Duration
  /-- The most entries kept. -/
  bound : Nat
  entries : Table String Cache.Entry := .empty
deriving DecidableEq, Inhabited

namespace Cache

/-- An empty cache. It has room for one entry at least. -/
def new (ttl : Duration) (maxEntries : Nat) : Cache := { ttl, bound := max maxEntries 1 }

def ofSettings (s : CacheSettings) : Cache := new s.ttl s.maxEntries

def size (c : Cache) : Nat := c.entries.size

def isEmpty (c : Cache) : Bool := c.entries.isEmpty

/-- The recording under a key while it is fresh. An expired entry is removed. -/
def get (c : Cache) (now : Instant) (key : String) :
    Cache × List Event × Option Recording :=
  match c.entries.find? key with
  | none => (c, [], none)
  | some entry =>
    if entry.isFresh now then (c, [], some entry.recording)
    else ({ c with entries := c.entries.erase key }, [.entryExpired key], none)

/-- Removes the expired entries, and tells how many there were. -/
def purge (c : Cache) (now : Instant) : Cache × List Event × Nat :=
  let kept := c.entries.filter fun _ e => e.isFresh now
  let purged := c.entries.size - kept.size
  ({ c with entries := kept },
    if purged = 0 then [] else [.entriesPurged purged kept.size],
    purged)

/-- The key that expires first; of those that expire together, the first. -/
def firstToExpire : List (String × Entry) → Option (String × Entry)
  | [] => none
  | e :: rest =>
    match firstToExpire rest with
    | none => some e
    | some best => if best.2.expires < e.2.expires then some best else some e

theorem firstToExpire_eq_none_iff {l : List (String × Entry)} :
    firstToExpire l = none ↔ l = [] := by
  cases l with
  | nil => simp [firstToExpire]
  | cons e rest =>
    simp only [firstToExpire]
    split
    · simp
    · split <;> simp

/-- It is one of the entries, and none of them expires before it. -/
theorem firstToExpire_eq_some {l : List (String × Entry)} {e : String × Entry}
    (h : firstToExpire l = some e) : e ∈ l ∧ ∀ x ∈ l, e.2.expires ≤ x.2.expires := by
  induction l generalizing e with
  | nil => cases h
  | cons first rest ih =>
    simp only [firstToExpire] at h
    split at h
    · rename_i hnone
      obtain rfl := firstToExpire_eq_none_iff.1 hnone
      cases h
      simp [Instant.le_def]
    · rename_i best hbest
      obtain ⟨hmem, hmin⟩ := ih hbest
      split at h
      · rename_i hlt
        cases h
        refine ⟨List.mem_cons_of_mem _ hmem, fun x hx => ?_⟩
        rcases List.mem_cons.1 hx with rfl | hx
        · exact Nat.le_of_lt hlt
        · exact hmin x hx
      · rename_i hge
        cases h
        refine ⟨List.mem_cons_self, fun x hx => ?_⟩
        rcases List.mem_cons.1 hx with rfl | hx
        · exact Nat.le_refl _
        · exact Nat.le_trans (Nat.le_of_not_lt hge) (hmin x hx)

/-- Removes the expired entries, and if that frees no place the entry that expires first. -/
def makeRoom (c : Cache) (now : Instant) : Cache × List Event :=
  let (c, events, _) := c.purge now
  if c.size < c.bound then (c, events)
  else match firstToExpire c.entries.entries with
  | none => (c, events)
  | some (key, _) =>
    ({ c with entries := c.entries.erase key }, events ++ [.entryEvicted key c.bound])

/-- Puts an entry under a key, in place of any other. -/
def set (c : Cache) (now : Instant) (key : String) (entry : Entry) : Cache × List Event :=
  let (c, events) :=
    if c.bound ≤ c.size ∧ c.entries.contains key = false then c.makeRoom now else (c, [])
  ({ c with entries := c.entries.insert key entry }, events)

/-- The panic when an entry would expire past the end of the clock. -/
def overflow : String := "overflow when adding duration to instant"

/-- Keeps a recording for as long as entries are served from now. There is no answer when the clock
cannot name the moment at which that would end. -/
def store? (c : Cache) (now : Instant) (key : String) (r : Recording) :
    Option (Cache × List Event) :=
  (now.after? c.ttl).map fun expires => c.set now key ⟨r, expires⟩

def remove (c : Cache) (key : String) : Cache × Bool :=
  ({ c with entries := c.entries.erase key }, c.entries.contains key)

/-! ## What is found afterwards -/

/-- The second cache has no entry that the first does not have. -/
structure Covers (c c' : Cache) : Prop where
  ttl_eq : c'.ttl = c.ttl
  find?_eq : ∀ key entry, c'.entries.find? key = some entry → c.entries.find? key = some entry

theorem Covers.refl (c : Cache) : c.Covers c := ⟨rfl, fun _ _ => id⟩

theorem Covers.trans {c c₁ c₂ : Cache} (h : c.Covers c₁) (h' : c₁.Covers c₂) : c.Covers c₂ :=
  ⟨h'.ttl_eq.trans h.ttl_eq, fun key entry he => h.find?_eq key entry (h'.find?_eq key entry he)⟩

theorem covers_erase (c : Cache) (key : String) :
    c.Covers { c with entries := c.entries.erase key } := by
  refine ⟨rfl, fun k entry he => ?_⟩
  rw [Table.find?_erase] at he
  split at he
  · cases he
  · exact he

theorem covers_get (c : Cache) (now : Instant) (key : String) : c.Covers (c.get now key).1 := by
  unfold get
  split
  · exact .refl c
  · split
    · exact .refl c
    · exact c.covers_erase key

/-- A recording is found in an entry that is not expired. -/
theorem entry_of_get {c : Cache} {now : Instant} {key : String} {r : Recording}
    (h : (c.get now key).2.2 = some r) :
    ∃ entry, c.entries.find? key = some entry ∧ entry.recording = r ∧ now < entry.expires := by
  unfold get at h
  split at h
  · cases h
  · rename_i entry hentry
    split at h
    · rename_i hfresh
      cases h
      exact ⟨entry, hentry, rfl, of_decide_eq_true hfresh⟩
    · cases h

theorem covers_purge (c : Cache) (now : Instant) : c.Covers (c.purge now).1 := by
  refine ⟨rfl, fun key entry he => ?_⟩
  have he' : (c.entries.find? key).filter (fun e => e.isFresh now) = some entry :=
    (Table.find?_filter _ c.entries key).symm.trans he
  exact (Option.filter_eq_some_iff.1 he').1

theorem covers_makeRoom (c : Cache) (now : Instant) : c.Covers (c.makeRoom now).1 := by
  have hpurge := c.covers_purge now
  unfold makeRoom
  dsimp only
  split
  · exact hpurge
  · split
    · exact hpurge
    · exact hpurge.trans (covers_erase _ _)

/-- The cache that an entry is put into. -/
theorem covers_roomFor (c : Cache) (now : Instant) (key : String) :
    c.Covers (if c.bound ≤ c.size ∧ c.entries.contains key = false
      then c.makeRoom now else (c, [])).1 := by
  split
  · exact c.covers_makeRoom now
  · exact .refl c

/-- After an entry was put under a key that key has it, and any other what it had, if anything. -/
theorem find?_set {c : Cache} {now : Instant} {key k : String} {entry e : Entry}
    (h : (c.set now key entry).1.entries.find? k = some e) :
    key = k ∧ e = entry ∨ key ≠ k ∧ c.entries.find? k = some e := by
  have hfind := (Table.find?_insert ..).symm.trans h
  split at hfind
  · rename_i heq
    exact .inl ⟨heq, (Option.some.inj hfind).symm⟩
  · rename_i hne
    exact .inr ⟨hne, (c.covers_roomFor now key).find?_eq k e hfind⟩

theorem ttl_set (c : Cache) (now : Instant) (key : String) (entry : Entry) :
    (c.set now key entry).1.ttl = c.ttl :=
  (c.covers_roomFor now key).ttl_eq

end Cache

end Sluice
