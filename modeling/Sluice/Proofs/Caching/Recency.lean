import Sluice.Proofs.Caching.Eager
import Mathlib.Data.Finset.Card

/-!
# What the cache remembers

Which recording a look-up finds can be told from the stores alone, whatever was purged, evicted or
found expired in between. A key is remembered from its last store on, until its time is over or
until as many other keys have been stored as there are places, whichever comes first.
-/
namespace Sluice

/-! ## The stores so far -/

namespace Cache

/-- One store. -/
structure Stored where
  key : String
  recording : Recording
  time : Instant
deriving DecidableEq

/-- The last store of a key, where the newest come first. -/
def lastStore? (stores : List Stored) (key : String) : Option Stored :=
  stores.find? fun s => s.key = key

/-- The keys stored after the last store of this one. -/
def storedSince (key : String) : List Stored → Finset String
  | [] => ∅
  | s :: rest => if s.key = key then ∅ else insert s.key (storedSince key rest)

/-- The stores so far, the newest first, and the clock they were timed by. -/
structure History where
  now : Instant
  stores : List Stored := []

namespace History

def note (h : History) : Cache.Op → History
  | .store key recording => { h with stores := ⟨key, recording, h.now⟩ :: h.stores }
  | .advance d => { h with now := h.now.after d }
  | _ => h

def noteAll (h : History) (ops : List Cache.Op) : History := ops.foldl note h

/-- The clock has moved on between any two stores. -/
def Spaced (h : History) : Prop := h.stores.Pairwise fun newer older => older.time < newer.time

/-- The clock can name the moment at which the time of each store is over. -/
def Named (h : History) (ttl : Duration) : Prop := ∀ s ∈ h.stores, (s.time.after? ttl).isSome

/-- The entry that the last store of a key has left, while its time is not over and there are places
for all the other keys stored since. -/
def Remembers (h : History) (ttl : Duration) (bound : Nat) (key : String) (entry : Entry) : Prop :=
  ∃ s, lastStore? h.stores key = some s ∧ entry = ⟨s.recording, s.time.after ttl⟩ ∧
    h.now < s.time.after ttl ∧ (storedSince key h.stores).card < bound

end History

/-- An operation that puts in an entry only by a store, and removes none by name. -/
def Op.IsPlain : Op → Prop
  | .set .. | .remove .. => False
  | _ => True

variable {stores : List Stored} {s : Stored} {key other : String}

theorem lastStore?_cons (s : Stored) (rest : List Stored) (key : String) :
    lastStore? (s :: rest) key = if s.key = key then some s else lastStore? rest key := by
  unfold lastStore?
  by_cases hkey : s.key = key <;> simp [hkey]

theorem not_mem_storedSince_self (key : String) (stores : List Stored) :
    key ∉ storedSince key stores := by
  induction stores with
  | nil => exact Finset.notMem_empty key
  | cons first rest ih =>
    unfold storedSince
    split
    · exact Finset.notMem_empty key
    · rename_i hne
      exact fun hmem => (Finset.mem_insert.1 hmem).elim (Ne.symm hne) ih

/-- Of two keys one was stored after the last store of the other. -/
theorem mem_storedSince_or (hne : key ≠ other) (hlast : lastStore? stores key = some s) :
    key ∈ storedSince other stores ∨ other ∈ storedSince key stores := by
  induction stores with
  | nil => cases hlast
  | cons first rest ih =>
    rw [lastStore?_cons] at hlast
    unfold storedSince
    by_cases hkey : first.key = key
    · left
      rw [if_neg (hkey ▸ hne), hkey]
      exact Finset.mem_insert_self ..
    · rw [if_neg hkey] at hlast ⊢
      by_cases hother : first.key = other
      · right
        rw [hother]
        exact Finset.mem_insert_self ..
      · rw [if_neg hother]
        exact (ih hlast).imp (Finset.mem_insert_of_mem ·) (Finset.mem_insert_of_mem ·)

/-- A key that was stored since has its last store later, and fewer keys stored since then. -/
theorem of_mem_storedSince
    (hspaced : stores.Pairwise fun newer older => older.time < newer.time)
    (hlast : lastStore? stores key = some s) (hmem : other ∈ storedSince key stores) :
    ∃ s', lastStore? stores other = some s' ∧ s.time < s'.time ∧
      storedSince other stores ⊆ storedSince key stores := by
  induction stores with
  | nil => cases hlast
  | cons first rest ih =>
    obtain ⟨hfirst, hrest⟩ := List.pairwise_cons.1 hspaced
    rw [lastStore?_cons] at hlast ⊢
    unfold storedSince at hmem ⊢
    by_cases hkey : first.key = key
    · rw [if_pos hkey] at hmem
      exact absurd hmem (Finset.notMem_empty other)
    · rw [if_neg hkey] at hlast hmem ⊢
      by_cases hother : first.key = other
      · rw [if_pos hother, if_pos hother]
        exact ⟨first, rfl, hfirst s (List.mem_of_find?_eq_some hlast), Finset.empty_subset _⟩
      · rw [if_neg hother, if_neg hother]
        have hmem' := (Finset.mem_insert.1 hmem).resolve_left (Ne.symm hother)
        obtain ⟨s', hlast', hlater, hsub⟩ := ih hrest hlast hmem'
        exact ⟨s', hlast', hlater, Finset.insert_subset_insert _ hsub⟩

namespace History

variable {h : History} {ttl : Duration} {bound : Nat} {entry entry' : Entry} {op : Op}

/-- A key stored since the last store of one that is remembered is remembered too, and for
longer. -/
theorem Remembers.of_mem_storedSince (hspaced : h.Spaced) (hkey : h.Remembers ttl bound key entry)
    (hmem : other ∈ storedSince key h.stores) :
    ∃ entry', h.Remembers ttl bound other entry' ∧ entry.expires < entry'.expires := by
  obtain ⟨s, hlast, rfl, hfresh, hfew⟩ := hkey
  obtain ⟨s', hlast', hlater, hsub⟩ := Cache.of_mem_storedSince hspaced hlast hmem
  have hexpires : s.time.after ttl < s'.time.after ttl := Nat.add_lt_add_right hlater _
  exact ⟨_, ⟨s', hlast', rfl, Nat.lt_trans hfresh hexpires,
    Nat.lt_of_le_of_lt (Finset.card_le_card hsub) hfew⟩, hexpires⟩

/-- Of two remembered keys the one that does not expire later was stored before the other. -/
theorem Remembers.mem_storedSince (hspaced : h.Spaced) (hne : key ≠ other)
    (hkey : h.Remembers ttl bound key entry) (hother : h.Remembers ttl bound other entry')
    (hle : entry.expires ≤ entry'.expires) : other ∈ storedSince key h.stores := by
  have hlast := hkey
  obtain ⟨s, hlast, -⟩ := hlast
  rcases mem_storedSince_or hne hlast with hmem | hmem
  · obtain ⟨entry'', ⟨s', hlast', rfl, -⟩, hlt⟩ := hother.of_mem_storedSince hspaced hmem
    obtain ⟨_, hlast, rfl, -⟩ := hkey
    obtain rfl := Option.some.inj (hlast.symm.trans hlast')
    exact absurd hle (Nat.not_le_of_lt hlt)
  · exact hmem

/-- Right after a store its entry is remembered, unless entries are not kept for any time. -/
theorem remembers_note_self_iff {recording : Recording} (hbound : 0 < bound) :
    (h.note (.store key recording)).Remembers ttl bound key entry ↔
      entry = ⟨recording, h.now.after ttl⟩ ∧ h.now < h.now.after ttl := by
  have hlast : lastStore? (h.note (.store key recording)).stores key =
      some ⟨key, recording, h.now⟩ := (lastStore?_cons _ _ key).trans (if_pos rfl)
  have hsince : storedSince key (h.note (.store key recording)).stores = ∅ := if_pos rfl
  unfold Remembers
  rw [hlast, hsince]
  constructor
  · rintro ⟨s, hs, rfl, hfresh, -⟩
    cases hs
    exact ⟨rfl, hfresh⟩
  · rintro ⟨rfl, hfresh⟩
    exact ⟨_, rfl, rfl, hfresh, hbound⟩

/-- For the other keys the one just stored is one more stored since. -/
theorem remembers_note_iff {recording : Recording} (hne : key ≠ other) :
    (h.note (.store key recording)).Remembers ttl bound other entry ↔
      h.Remembers ttl bound other entry ∧
        (insert key (storedSince other h.stores)).card < bound := by
  have hlast : lastStore? (h.note (.store key recording)).stores other =
      lastStore? h.stores other := (lastStore?_cons _ _ other).trans (if_neg hne)
  have hsince : storedSince other (h.note (.store key recording)).stores =
      insert key (storedSince other h.stores) := if_neg hne
  unfold Remembers
  rw [hlast, hsince]
  constructor
  · rintro ⟨s, hs, hentry, hfresh, hfew⟩
    have hless := Finset.card_le_card (Finset.subset_insert key (storedSince other h.stores))
    exact ⟨⟨s, hs, hentry, hfresh, Nat.lt_of_le_of_lt hless hfew⟩, hfew⟩
  · rintro ⟨⟨s, hs, hentry, hfresh, -⟩, hfew⟩
    exact ⟨s, hs, hentry, hfresh, hfew⟩

theorem Spaced.of_note (hspaced : (h.note op).Spaced) : h.Spaced := by
  cases op with
  | store key recording => exact (List.pairwise_cons.1 hspaced).2
  | _ => exact hspaced

theorem Spaced.of_noteAll {ops : List Op} (hspaced : (h.noteAll ops).Spaced) : h.Spaced := by
  induction ops generalizing h with
  | nil => exact hspaced
  | cons op rest ih => exact (ih hspaced).of_note

theorem Named.of_note (hnamed : (h.note op).Named ttl) : h.Named ttl := by
  cases op with
  | store key recording => exact fun s hs => hnamed s (List.mem_cons_of_mem _ hs)
  | _ => exact hnamed

theorem Named.of_noteAll {ops : List Op} (hnamed : (h.noteAll ops).Named ttl) : h.Named ttl := by
  induction ops generalizing h with
  | nil => exact hnamed
  | cons op rest ih => exact (ih hnamed).of_note

end History

end Cache

/-! ## The eager cache and its stores -/

namespace EagerCache

theorem MakesRoom.ttl_eq {e e₁ : EagerCache} {key : String} (h : e.MakesRoom key e₁) :
    e₁.ttl = e.ttl := by
  cases h <;> rfl

theorem MakesRoom.now_eq {e e₁ : EagerCache} {key : String} (h : e.MakesRoom key e₁) :
    e₁.now = e.now := by
  cases h <;> rfl

theorem Acts.ttl_eq {e e₁ : EagerCache} {op : Cache.Op} {found : List (Option Recording)}
    (h : e.Acts op e₁ found) : e₁.ttl = e.ttl := by
  cases h with
  | set hroom => exact hroom.ttl_eq
  | store _ hroom => exact hroom.ttl_eq
  | _ => rfl

/-- The keys that there are entries for. -/
def keys (e : EagerCache) : Finset String := e.entries.keys.toFinset

theorem card_keys (e : EagerCache) : e.keys.card = e.entries.size := by
  rw [Table.size_eq_length_keys]
  exact List.toFinset_card_of_nodup e.entries.distinct

theorem mem_keys_iff {e : EagerCache} {key : String} :
    key ∈ e.keys ↔ ∃ entry, e.entries.find? key = some entry := by
  rw [keys, List.mem_toFinset, ← Table.contains_iff, Table.contains, Option.isSome_iff_exists]

theorem mem_keys {e : EagerCache} {key : String} {entry : Cache.Entry}
    (h : e.entries.find? key = some entry) : key ∈ e.keys :=
  mem_keys_iff.2 ⟨entry, h⟩

/-- The eager cache holds just the entries that the stores tell of, within its bound. -/
structure Recalls (e : EagerCache) (h : Cache.History) : Prop where
  now_eq : e.now = h.now
  bound_pos : 0 < e.bound
  size_le : e.entries.size ≤ e.bound
  find?_iff : ∀ key entry,
    e.entries.find? key = some entry ↔ h.Remembers e.ttl e.bound key entry

namespace Recalls

variable {e e₁ : EagerCache} {h : Cache.History} {key k victim : String}
  {entry entry' : Cache.Entry}

theorem start (ttl : Duration) (maxEntries : Nat) (now : Instant) :
    Recalls (EagerCache.new ttl maxEntries now) ⟨now, []⟩ := by
  refine ⟨rfl, Nat.le_max_right _ _, Nat.zero_le _, fun key entry => ?_⟩
  constructor
  · nofun
  · rintro ⟨s, hlast, -⟩
    cases hlast

/-- Whatever was stored after a key that is held is held too. -/
theorem storedSince_subset (hr : e.Recalls h) (hspaced : h.Spaced)
    (hk : e.entries.find? k = some entry) : Cache.storedSince k h.stores ⊆ e.keys := by
  intro other hother
  obtain ⟨entry', hentry', -⟩ := ((hr.find?_iff _ _).1 hk).of_mem_storedSince hspaced hother
  exact mem_keys ((hr.find?_iff _ _).2 hentry')

theorem card_storedSince_lt (hr : e.Recalls h) (hspaced : h.Spaced)
    (hk : e.entries.find? k = some entry) :
    (Cache.storedSince k h.stores).card < e.entries.size := by
  rw [← card_keys]
  apply Finset.card_lt_card
  refine (hr.storedSince_subset hspaced hk).ssubset_of_mem_notMem (mem_keys hk) ?_
  exact Cache.not_mem_storedSince_self k h.stores

/-- The victim of an eviction is the key stored least recently: all others were stored since. -/
theorem mem_storedSince_victim (hr : e.Recalls h) (hspaced : h.Spaced)
    (hvictim : e.entries.find? victim = some entry)
    (hfirst : ∀ other x, e.entries.find? other = some x → entry.expires ≤ x.expires)
    (hk : e.entries.find? k = some entry') (hne : k ≠ victim) :
    k ∈ Cache.storedSince victim h.stores :=
  ((hr.find?_iff _ _).1 hvictim).mem_storedSince hspaced (Ne.symm hne) ((hr.find?_iff _ _).1 hk)
    (hfirst k entry' hk)

/-- Where there is a place for a key, or the key has one, the others keep theirs. -/
theorem card_insert_lt_of_spare (hr : e.Recalls h) (hspaced : h.Spaced)
    (hplace : e.entries.contains key = true ∨ e.entries.size < e.bound) (hne : key ≠ k)
    (hk : e.entries.find? k = some entry) :
    (insert key (Cache.storedSince k h.stores)).card < e.bound := by
  rcases hplace with hcontains | hlt
  · have hkey : key ∈ e.keys := List.mem_toFinset.2 (Table.contains_iff.1 hcontains)
    have hk' : k ∉ insert key (Cache.storedSince k h.stores) := fun hmem =>
      (Finset.mem_insert.1 hmem).elim (Ne.symm hne) (Cache.not_mem_storedSince_self k h.stores)
    have hsub := Finset.insert_subset hkey (hr.storedSince_subset hspaced hk)
    calc (insert key (Cache.storedSince k h.stores)).card
      _ < e.keys.card := Finset.card_lt_card (hsub.ssubset_of_mem_notMem (mem_keys hk) hk')
      _ = e.entries.size := e.card_keys
      _ ≤ e.bound := hr.size_le
  · calc (insert key (Cache.storedSince k h.stores)).card
      _ ≤ (Cache.storedSince k h.stores).card + 1 := Finset.card_insert_le _ _
      _ ≤ e.entries.size := hr.card_storedSince_lt hspaced hk
      _ < e.bound := hlt

/-- The victim of an eviction has seen as many other keys stored as there are places. -/
theorem le_card_insert_victim (hr : e.Recalls h) (hspaced : h.Spaced)
    (hnew : e.entries.contains key = false) (hfull : e.bound ≤ e.entries.size)
    (hvictim : e.entries.find? victim = some entry)
    (hfirst : ∀ other x, e.entries.find? other = some x → entry.expires ≤ x.expires) :
    e.bound ≤ (insert key (Cache.storedSince victim h.stores)).card := by
  have hothers : e.keys.erase victim ⊆ Cache.storedSince victim h.stores := by
    intro other hother
    obtain ⟨hother, hmem⟩ := Finset.mem_erase.1 hother
    obtain ⟨x, hx⟩ := mem_keys_iff.1 hmem
    exact hr.mem_storedSince_victim hspaced hvictim hfirst hx hother
  have hkey : key ∉ Cache.storedSince victim h.stores := by
    intro hmem
    have hheld := Table.contains_iff.2 (List.mem_toFinset.1
      (hr.storedSince_subset hspaced hvictim hmem))
    rw [hnew] at hheld
    cases hheld
  calc e.bound
    _ ≤ e.entries.size := hfull
    _ = (e.keys.erase victim).card + 1 := by
      rw [Finset.card_erase_add_one (mem_keys hvictim), e.card_keys]
    _ ≤ (Cache.storedSince victim h.stores).card + 1 :=
      Nat.succ_le_succ (Finset.card_le_card hothers)
    _ = (insert key (Cache.storedSince victim h.stores)).card :=
      (Finset.card_insert_of_notMem hkey).symm

/-- Whatever was stored after the victim has a place. -/
theorem card_insert_lt_of_victim (hr : e.Recalls h) (hspaced : h.Spaced)
    (hvictim : e.entries.find? victim = some entry)
    (hmem : k ∈ Cache.storedSince victim h.stores) (key : String) :
    (insert key (Cache.storedSince k h.stores)).card < e.bound := by
  obtain ⟨s, hlast, -⟩ := (hr.find?_iff _ _).1 hvictim
  obtain ⟨-, -, -, hsub⟩ := Cache.of_mem_storedSince hspaced hlast hmem
  have hless := Finset.card_lt_card (hsub.ssubset_of_mem_notMem hmem
    (Cache.not_mem_storedSince_self k h.stores))
  calc (insert key (Cache.storedSince k h.stores)).card
    _ ≤ (Cache.storedSince k h.stores).card + 1 := Finset.card_insert_le _ _
    _ ≤ (Cache.storedSince victim h.stores).card := hless
    _ < e.entries.size := hr.card_storedSince_lt hspaced hvictim
    _ ≤ e.bound := hr.size_le

/-- Room is made for one more key, which will be one more stored since the others. A key stays if
that leaves it a place. -/
theorem find?_room_iff (hr : e.Recalls h) (hspaced : h.Spaced) (hroom : e.MakesRoom key e₁)
    (hne : key ≠ k) :
    e₁.entries.find? k = some entry ↔
      e.entries.find? k = some entry ∧
        (insert key (Cache.storedSince k h.stores)).card < e.bound := by
  cases hroom with
  | spare hplace =>
    exact ⟨fun hk => ⟨hk, hr.card_insert_lt_of_spare hspaced hplace hne hk⟩, And.left⟩
  | @evicts victim first hnew hfull hvictim hfirst =>
    show (e.entries.erase victim).find? k = some entry ↔ _
    rw [Table.find?_erase]
    by_cases hk : victim = k
    · subst hk
      rw [if_pos rfl]
      have hle := hr.le_card_insert_victim hspaced hnew hfull hvictim hfirst
      exact ⟨nofun, fun hstays => absurd hstays.2 (Nat.not_lt_of_le hle)⟩
    · rw [if_neg hk]
      refine ⟨fun hfind => ⟨hfind, ?_⟩, And.left⟩
      exact hr.card_insert_lt_of_victim hspaced hvictim
        (hr.mem_storedSince_victim hspaced hvictim hfirst hfind (Ne.symm hk)) key

/-- There is a place for the key that room was made for. -/
theorem size_put_le (hr : e.Recalls h) (hroom : e.MakesRoom key e₁) :
    (e₁.put key entry).entries.size ≤ e.bound := by
  have hput : (e₁.put key entry).entries.size ≤ (e₁.entries.insert key entry).size :=
    Table.size_filter_le _ _
  have hsize := hr.size_le
  rw [Table.size_insert] at hput
  cases hroom with
  | spare hplace =>
    split at hput
    · omega
    · rename_i hnew
      have hlt := hplace.resolve_left hnew
      omega
  | @evicts victim _ _ _ hvictim _ =>
    have hless : (e.entries.erase victim).size < e.entries.size := Table.size_erase_lt hvictim
    dsimp only at hput
    split at hput <;> omega

/-! ### Operations -/

/-- A store makes its key the one stored last. -/
theorem store {recording : Recording} (hr : e.Recalls h) (hspaced : h.Spaced)
    (hroom : e.MakesRoom key e₁) :
    (e₁.put key ⟨recording, e.now.after e.ttl⟩).Recalls (h.note (.store key recording)) := by
  refine ⟨hroom.now_eq.trans hr.now_eq, hroom.bound_eq ▸ hr.bound_pos,
    hroom.bound_eq ▸ hr.size_put_le hroom, fun k entry => ?_⟩
  show ((e₁.entries.insert key ⟨recording, e.now.after e.ttl⟩).filter
    fun _ x => decide (e₁.now < x.expires)).find? k = some entry ↔
      (h.note (.store key recording)).Remembers e₁.ttl e₁.bound k entry
  rw [Table.find?_filter, Table.find?_insert, hroom.now_eq, hroom.ttl_eq, hroom.bound_eq,
    hr.now_eq, Option.filter_eq_some_iff]
  by_cases hkey : key = k
  · subst hkey
    rw [if_pos rfl, Cache.History.remembers_note_self_iff hr.bound_pos, Option.some.injEq,
      eq_comm, decide_eq_true_iff]
    exact and_congr_right fun hentry => by rw [hentry]
  · rw [if_neg hkey, hr.find?_room_iff hspaced hroom hkey, hr.find?_iff,
      Cache.History.remembers_note_iff hkey]
    refine ⟨And.left, fun hk => ⟨hk, ?_⟩⟩
    obtain ⟨⟨s, -, rfl, hfresh, -⟩, -⟩ := hk
    exact decide_eq_true hfresh

/-- As time passes the eager cache drops what the stores do not tell of any more. -/
theorem advance (hr : e.Recalls h) (d : Duration) :
    { e with now := e.now.after d }.forget.Recalls (h.note (.advance d)) := by
  refine ⟨congrArg (·.after d) hr.now_eq, hr.bound_pos,
    Nat.le_trans (Table.size_filter_le _ _) hr.size_le, fun k entry => ?_⟩
  show (e.entries.filter fun _ x => decide (e.now.after d < x.expires)).find? k = some entry ↔
    (h.note (.advance d)).Remembers e.ttl e.bound k entry
  rw [Table.find?_filter, Option.filter_eq_some_iff, hr.find?_iff, hr.now_eq]
  constructor
  · rintro ⟨⟨s, hlast, rfl, -, hfew⟩, hfresh⟩
    exact ⟨s, hlast, rfl, of_decide_eq_true hfresh, hfew⟩
  · rintro ⟨s, hlast, rfl, hfresh, hfew⟩
    have hbefore : h.now < s.time.after e.ttl :=
      Nat.lt_of_le_of_lt (Nat.le_add_right _ d.nanos) hfresh
    exact ⟨⟨s, hlast, rfl, hbefore, hfew⟩, decide_eq_true hfresh⟩

theorem acts {op : Cache.Op} {found : List (Option Recording)} (hr : e.Recalls h)
    (hplain : op.IsPlain) (hspaced : (h.note op).Spaced) (hnamed : (h.note op).Named e.ttl)
    (hacts : e.Acts op e₁ found) : e₁.Recalls (h.note op) := by
  cases hacts with
  | set => exact hplain.elim
  | remove => exact hplain.elim
  | store hafter hroom =>
    obtain ⟨-, rfl⟩ := Instant.after?_eq_some_iff.1 hafter
    exact hr.store hspaced.of_note hroom
  | panics hafter =>
    have hstored := hnamed _ List.mem_cons_self
    rw [← hr.now_eq, hafter] at hstored
    cases hstored
  | advance => exact hr.advance _
  | get => exact hr
  | purge => exact hr
  | sweep => exact hr

theorem runs {e' : EagerCache} {ops : List Cache.Op} {found : List (Option Recording)}
    (hr : e.Recalls h) (hplain : ∀ op ∈ ops, op.IsPlain) (hspaced : (h.noteAll ops).Spaced)
    (hnamed : (h.noteAll ops).Named e.ttl) (hruns : e.Runs ops e' found) :
    e'.Recalls (h.noteAll ops) := by
  induction hruns generalizing h with
  | done => exact hr
  | @step e e₁ e₂ op ops found more hacts _ ih =>
    have hspaced₁ : (h.note op).Spaced := Cache.History.Spaced.of_noteAll hspaced
    have hnamed₁ : (h.note op).Named e.ttl := Cache.History.Named.of_noteAll hnamed
    have hr₁ := hr.acts (hplain op List.mem_cons_self) hspaced₁ hnamed₁ hacts
    exact ih hr₁ (fun op' hop' => hplain op' (List.mem_cons_of_mem op hop')) hspaced
      (hacts.ttl_eq ▸ hnamed)

end Recalls

theorem Runs.ttl_eq {e e' : EagerCache} {ops : List Cache.Op} {found : List (Option Recording)}
    (h : e.Runs ops e' found) : e'.ttl = e.ttl := by
  induction h with
  | done => rfl
  | step hacts _ ih => exact ih.trans hacts.ttl_eq

end EagerCache

namespace ClockedCache

/-- What the cache remembers, in closed form. After any run of stores, look-ups, purges and sweeps
on an empty cache, in which the clock moves on between two stores and does not come to its end, a
key is found if and only if it was stored, the time of its last store is not over, and fewer other
keys than there are places were stored since; and what is found is what was stored last. -/
theorem get_eq_some_iff_lastStore (ttl : Duration) (maxEntries : Nat) (start : Instant)
    (ops : List Cache.Op) (key : String) (recording : Recording)
    (hplain : ∀ op ∈ ops, op.IsPlain)
    (hspaced : (Cache.History.noteAll ⟨start, []⟩ ops).Spaced)
    (hnamed : (Cache.History.noteAll ⟨start, []⟩ ops).Named ttl) :
    let c := (run ⟨Cache.new ttl maxEntries, start⟩ ops).1
    let stores := (Cache.History.noteAll ⟨start, []⟩ ops).stores
    (c.cache.get c.now key).2.2 = some recording ↔
      ∃ s, Cache.lastStore? stores key = some s ∧ s.recording = recording ∧
        c.now < s.time.after ttl ∧ (Cache.storedSince key stores).card < max maxEntries 1 := by
  intro c stores
  obtain ⟨e, hruns, hm⟩ := (Mirrors.start ttl maxEntries start).run ops
  have hr := (EagerCache.Recalls.start ttl maxEntries start).runs hplain hspaced hnamed hruns
  have hnow : (Cache.History.noteAll ⟨start, []⟩ ops).now = c.now := hr.now_eq.symm.trans hm.now_eq
  have httl : e.ttl = ttl := hruns.ttl_eq
  have hbound : e.bound = max maxEntries 1 := hruns.bound_eq
  rw [(hm.get key).1, Option.map_eq_some_iff]
  simp only [hr.find?_iff, Cache.History.Remembers, hnow, httl, hbound]
  constructor
  · rintro ⟨entry, ⟨s, hlast, rfl, hfresh, hfew⟩, hrecording⟩
    exact ⟨s, hlast, hrecording, hfresh, hfew⟩
  · rintro ⟨s, hlast, rfl, hfresh, hfew⟩
    exact ⟨_, ⟨s, hlast, rfl, hfresh, hfew⟩, rfl⟩

/-- Three pages are stored where two have a place, the first of them twice. -/
def threePages : List Cache.Op :=
  let page (text : String) : Recording := ⟨.ok, .empty, text.toUTF8⟩
  [.store "/a" (page "a"), .advance (.ofSecs 1), .store "/b" (page "b"), .advance (.ofSecs 1),
    .store "/a" (page "a again"), .advance (.ofSecs 1), .get "/b", .store "/c" (page "c"),
    .advance (.ofSecs 1), .purge]

/-- The second page had to go, although the first is older. -/
theorem get_threePages :
    let c := (run ⟨Cache.new (.ofSecs 9) 2, .start⟩ threePages).1
    (c.cache.get c.now "/a").2.2 = some ⟨.ok, .empty, "a again".toUTF8⟩ ∧
      (c.cache.get c.now "/b").2.2 = none := by
  intro c
  have hplain : ∀ op ∈ threePages, op.IsPlain := by simp [threePages, Cache.Op.IsPlain]
  have hspaced : (Cache.History.noteAll ⟨.start, []⟩ threePages).Spaced := by
    unfold Cache.History.Spaced
    decide +kernel
  have hnamed : (Cache.History.noteAll ⟨.start, []⟩ threePages).Named (.ofSecs 9) := by
    unfold Cache.History.Named
    decide +kernel
  have hget (key : String) (recording : Recording) :=
    get_eq_some_iff_lastStore (.ofSecs 9) 2 .start threePages key recording hplain hspaced hnamed
  constructor
  · exact (hget _ _).2 ⟨⟨"/a", ⟨.ok, .empty, "a again".toUTF8⟩, ⟨2000000000⟩⟩, by decide +kernel,
      rfl, by decide +kernel, by decide +kernel⟩
  · refine Option.eq_none_iff_forall_ne_some.2 fun recording hfound => ?_
    obtain ⟨s, -, -, -, hfew⟩ := (hget _ _).1 hfound
    exact absurd hfew (by decide +kernel)

end ClockedCache

end Sluice
