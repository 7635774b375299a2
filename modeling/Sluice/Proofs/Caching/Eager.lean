import Sluice.Cache.Sweeper

/-!
# The cache forgets on time

Expired entries linger in a cache until somebody comes across them, and they take up room meanwhile.
None of that shows. Whatever is done with a cache, its look-ups answer as those of an eager cache,
which drops each entry at the very moment it expires, needs no purge, and evicts an entry only when
it is full of fresh ones.
-/
namespace Sluice

/-- What can be done with a cache, and with the clock it goes by. -/
inductive Cache.Op where
  | set (key : String) (entry : Cache.Entry)
  | store (key : String) (recording : Recording)
  | get (key : String)
  | remove (key : String)
  | purge
  /-- A sweeper has its turn, its first or a later one, and may be due or not. -/
  | sweep (sleep : Instant → Duration → Instant) (sweeper : Sweeper)
  | advance (d : Duration)

/-- A cache, and the clock it goes by. -/
structure ClockedCache where
  cache : Cache
  now : Instant

namespace ClockedCache

/-- One operation, and what it found if it was a look-up. A store that panics, since the clock
cannot name the end of its time, has not touched the cache. -/
def act (c : ClockedCache) : Cache.Op → ClockedCache × List (Option Recording)
  | .set key entry => ({ c with cache := (c.cache.set c.now key entry).1 }, [])
  | .store key recording =>
    match c.cache.store? c.now key recording with
    | none => (c, [])
    | some (cache, _) => ({ c with cache }, [])
  | .get key =>
    let (cache, _, found) := c.cache.get c.now key
    ({ c with cache }, [found])
  | .remove key => ({ c with cache := (c.cache.remove key).1 }, [])
  | .purge => ({ c with cache := (c.cache.purge c.now).1 }, [])
  | .sweep sleep sweeper =>
    ({ c with cache := (sweeper.run sleep c.now (some c.cache)).2.1.getD c.cache }, [])
  | .advance d => ({ c with now := c.now.after d }, [])

/-- Operations in turn, and what the look-ups among them found. -/
def run (c : ClockedCache) : List Cache.Op → ClockedCache × List (Option Recording)
  | [] => (c, [])
  | op :: rest =>
    let (c, found) := c.act op
    let (c, more) := c.run rest
    (c, found ++ more)

end ClockedCache

/-! ## The eager cache -/

/-- A bounded map that holds no entry past its time. -/
structure EagerCache where
  ttl : Duration
  bound : Nat
  now : Instant
  entries : Table String Cache.Entry := .empty

namespace EagerCache

def new (ttl : Duration) (maxEntries : Nat) (now : Instant) : EagerCache where
  ttl
  bound := max maxEntries 1
  now

/-- What has expired is dropped. -/
def forget (e : EagerCache) : EagerCache :=
  { e with entries := e.entries.filter fun _ entry => decide (e.now < entry.expires) }

/-- An entry that has expired already is dropped as soon as it is there. -/
def put (e : EagerCache) (key : String) (entry : Cache.Entry) : EagerCache :=
  { e with entries := e.entries.insert key entry }.forget

/-- What may happen before an entry is put under a key. -/
inductive MakesRoom (e : EagerCache) (key : String) : EagerCache → Prop where
  /-- The key is there, or there is a place for it. -/
  | spare : e.entries.contains key = true ∨ e.entries.size < e.bound → MakesRoom e key e
  /-- One of the entries that expire first has to go. -/
  | evicts {victim entry} : e.entries.contains key = false → e.bound ≤ e.entries.size →
      e.entries.find? victim = some entry →
      (∀ other x, e.entries.find? other = some x → entry.expires ≤ x.expires) →
      MakesRoom e key { e with entries := e.entries.erase victim }

/-- One operation. Only the choice of a victim is left open. -/
inductive Acts (e : EagerCache) : Cache.Op → EagerCache → List (Option Recording) → Prop where
  | set {key entry e₁} : e.MakesRoom key e₁ → Acts e (.set key entry) (e₁.put key entry) []
  | store {key recording expires e₁} : e.now.after? e.ttl = some expires → e.MakesRoom key e₁ →
      Acts e (.store key recording) (e₁.put key ⟨recording, expires⟩) []
  | panics {key recording} : e.now.after? e.ttl = none → Acts e (.store key recording) e []
  | get {key} : Acts e (.get key) e [(e.entries.find? key).map Cache.Entry.recording]
  | remove {key} : Acts e (.remove key) { e with entries := e.entries.erase key } []
  | purge : Acts e .purge e []
  | sweep {sleep sweeper} : Acts e (.sweep sleep sweeper) e []
  | advance {d} : Acts e (.advance d) { e with now := e.now.after d }.forget []

theorem MakesRoom.bound_eq {e e₁ : EagerCache} {key : String} (h : e.MakesRoom key e₁) :
    e₁.bound = e.bound := by
  cases h <;> rfl

theorem Acts.bound_eq {e e₁ : EagerCache} {op : Cache.Op} {found : List (Option Recording)}
    (h : e.Acts op e₁ found) : e₁.bound = e.bound := by
  cases h with
  | set hroom => exact hroom.bound_eq
  | store _ hroom => exact hroom.bound_eq
  | _ => rfl

/-- Operations in turn, and what the look-ups among them find. -/
inductive Runs : EagerCache → List Cache.Op → EagerCache → List (Option Recording) → Prop where
  | done {e} : Runs e [] e []
  | step {e e₁ e₂ op ops found more} : Acts e op e₁ found → Runs e₁ ops e₂ more →
      Runs e (op :: ops) e₂ (found ++ more)

theorem Runs.bound_eq {e e' : EagerCache} {ops : List Cache.Op} {found : List (Option Recording)}
    (h : Runs e ops e' found) : e'.bound = e.bound := by
  induction h with
  | done => rfl
  | step hacts _ ih => exact ih.trans hacts.bound_eq

end EagerCache

/-! ## Side by side -/

/-- The eager cache holds what is fresh in the other one, which keeps to its bound all the same. -/
structure ClockedCache.Mirrors (c : ClockedCache) (e : EagerCache) : Prop where
  now_eq : e.now = c.now
  ttl_eq : e.ttl = c.cache.ttl
  bound_eq : e.bound = c.cache.bound
  find?_eq : ∀ key, e.entries.find? key =
    (c.cache.entries.find? key).filter fun entry => entry.isFresh c.now
  size_le : c.cache.size ≤ c.cache.bound
  bound_pos : 0 < c.cache.bound

namespace ClockedCache.Mirrors

variable {c : ClockedCache} {e : EagerCache} {key : String} {entry : Cache.Entry}

theorem start (ttl : Duration) (maxEntries : Nat) (now : Instant) :
    Mirrors ⟨Cache.new ttl maxEntries, now⟩ (EagerCache.new ttl maxEntries now) :=
  ⟨rfl, rfl, rfl, fun _ => rfl, Nat.zero_le _, Nat.le_max_right _ _⟩

theorem find?_eq_some_iff (h : Mirrors c e) :
    e.entries.find? key = some entry ↔
      c.cache.entries.find? key = some entry ∧ entry.isFresh c.now = true := by
  rw [h.find?_eq, Option.filter_eq_some_iff]

/-- The eager cache is the other one without what has expired. -/
theorem find?_eq_filter (h : Mirrors c e) (key : String) :
    e.entries.find? key =
      (c.cache.entries.filter fun _ entry => entry.isFresh c.now).find? key := by
  rw [h.find?_eq, Table.find?_filter]

theorem size_eq (h : Mirrors c e) :
    e.entries.size = (c.cache.entries.filter fun _ entry => entry.isFresh c.now).size :=
  Table.size_eq_of_find?_eq h.find?_eq_filter

/-- The entries may change as long as the two go on to agree. -/
theorem with_entries (h : Mirrors c e) {entries entries' : Table String Cache.Entry}
    (hfind : ∀ key, entries'.find? key =
      (entries.find? key).filter fun entry => entry.isFresh c.now)
    (hsize : entries.size ≤ c.cache.bound) :
    Mirrors { c with cache := { c.cache with entries } } { e with entries := entries' } :=
  ⟨h.now_eq, h.ttl_eq, h.bound_eq, hfind, hsize, h.bound_pos⟩

theorem erase (h : Mirrors c e) (key : String) :
    Mirrors { c with cache := { c.cache with entries := c.cache.entries.erase key } }
      { e with entries := e.entries.erase key } := by
  apply h.with_entries
  · intro other
    rw [Table.find?_erase, Table.find?_erase, h.find?_eq]
    split <;> rfl
  · exact Nat.le_trans (Table.size_filter_le _ _) h.size_le

/-- A purge removes what the eager cache has dropped long ago. -/
theorem purge (h : Mirrors c e) : Mirrors { c with cache := (c.cache.purge c.now).1 } e := by
  let kept := c.cache.entries.filter fun _ entry => entry.isFresh c.now
  refine @with_entries c e h kept e.entries ?_ ?_
  · intro key
    rw [Table.find?_filter, h.find?_eq, Option.filter_filter]
    simp
  · exact Nat.le_trans (Table.size_filter_le _ _) h.size_le

/-- A look-up finds the same in both. If it finds nothing it may remove an expired entry. -/
theorem get (h : Mirrors c e) (key : String) :
    (c.cache.get c.now key).2.2 = (e.entries.find? key).map Cache.Entry.recording ∧
      Mirrors { c with cache := (c.cache.get c.now key).1 } e := by
  have hfind := h.find?_eq key
  unfold Cache.get
  cases hentry : c.cache.entries.find? key with
  | none =>
    rw [hentry] at hfind
    exact ⟨by rw [hfind]; rfl, h⟩
  | some entry =>
    rw [hentry] at hfind
    by_cases hfresh : entry.isFresh c.now = true
    · simp only [Option.filter, hfresh, if_true] at hfind ⊢
      exact ⟨by rw [hfind]; rfl, h⟩
    · simp only [Option.filter, hfresh, Bool.false_eq_true, if_false] at hfind ⊢
      refine ⟨by rw [hfind]; rfl, ?_⟩
      have herase := h.erase key
      rwa [Table.erase_of_find?_eq_none hfind] at herase

/-! ### Setting an entry -/

/-- An entry is put in where there is a place for it. -/
theorem put (h : Mirrors c e)
    (hroom : c.cache.entries.contains key = true ∨ c.cache.size < c.cache.bound) :
    Mirrors { c with cache := { c.cache with entries := c.cache.entries.insert key entry } }
      (e.put key entry) := by
  apply h.with_entries
  · intro other
    have hother := h.find?_eq other
    have hnow (x : Cache.Entry) : decide (e.now < x.expires) = x.isFresh c.now := by
      rw [h.now_eq]
      rfl
    simp only [Table.find?_filter, Table.find?_insert, hnow]
    by_cases hkey : key = other
    · simp [hkey]
    · simp [hkey, hother, Option.filter_filter]
  · have hsize := h.size_le
    show (c.cache.entries.insert key entry).size ≤ c.cache.bound
    rw [Table.size_insert]
    unfold Cache.size at *
    split
    · exact hsize
    · rename_i hnew
      have hlt := hroom.resolve_left hnew
      omega

/-- Where the cache needs no room the eager one needs none either: an expired entry under the key
counts in the one, and not in the other. -/
theorem spare (h : Mirrors c e)
    (hroom : c.cache.entries.contains key = true ∨ c.cache.size < c.cache.bound) :
    e.MakesRoom key e := by
  have hsize := h.size_eq
  have hle := Table.size_filter_le (fun _ entry => entry.isFresh c.now) c.cache.entries
  have hbound := h.bound_eq
  apply EagerCache.MakesRoom.spare
  rcases hroom with hcontains | hlt
  · obtain ⟨entry, hentry⟩ := Option.isSome_iff_exists.1 hcontains
    by_cases hfresh : entry.isFresh c.now = true
    · left
      rw [Table.contains, h.find?_eq_some_iff.2 ⟨hentry, hfresh⟩]
      rfl
    · right
      have hless := Table.size_filter_lt (p := fun _ entry => entry.isFresh c.now) hentry
        (by simpa using hfresh)
      have hfull := h.size_le
      unfold Cache.size at hfull
      omega
  · right
    unfold Cache.size at hlt
    omega

/-- Room is made by a purge where that is enough, and then the eager cache had room before. If it is
not, all entries are fresh and both lose the same one. -/
theorem makeRoom (h : Mirrors c e) (hnew : c.cache.entries.contains key = false) :
    ∃ e₁, e.MakesRoom key e₁ ∧ Mirrors { c with cache := (c.cache.makeRoom c.now).1 } e₁ ∧
      (c.cache.makeRoom c.now).1.size < (c.cache.makeRoom c.now).1.bound := by
  have hp := h.purge
  have hsize : e.entries.size = (c.cache.purge c.now).1.size := h.size_eq
  have hbound := h.bound_eq
  have habsent : e.entries.contains key = false := by
    have hnone : c.cache.entries.find? key = none := Option.not_isSome_iff_eq_none.1 (by
      rw [← Table.contains, hnew]
      exact Bool.false_ne_true)
    rw [Table.contains, h.find?_eq, hnone]
    rfl
  unfold Cache.makeRoom
  dsimp only
  split
  · rename_i hlt
    refine ⟨e, .spare (.inr ?_), hp, hlt⟩
    rw [hsize, hbound]
    exact hlt
  · rename_i hfull
    split
    · -- a full cache has an entry
      rename_i hnone
      have hempty := Cache.firstToExpire_eq_none_iff.1 hnone
      have hpos := h.bound_pos
      simp only [Cache.size, Table.size, hempty, List.length_nil] at hfull
      exact absurd hpos hfull
    · rename_i victim entry hfirst
      obtain ⟨hmem, hmin⟩ := Cache.firstToExpire_eq_some hfirst
      have hfind : (c.cache.purge c.now).1.entries.find? victim = some entry :=
        Table.find?_eq_some_iff.2 hmem
      have hvictim : e.entries.find? victim = some entry := (h.find?_eq_filter victim).trans hfind
      refine ⟨{ e with entries := e.entries.erase victim }, .evicts habsent ?_ hvictim ?_,
        hp.erase victim, ?_⟩
      · rw [hsize, hbound]
        exact Nat.le_of_not_lt hfull
      · intro other x hx
        rw [h.find?_eq_filter] at hx
        exact hmin (other, x) (Table.find?_eq_some_iff.1 hx)
      · exact Nat.lt_of_lt_of_le (Table.size_erase_lt hfind) hp.size_le

theorem set (h : Mirrors c e) (key : String) (entry : Cache.Entry) :
    ∃ e₁, e.MakesRoom key e₁ ∧
      Mirrors { c with cache := (c.cache.set c.now key entry).1 } (e₁.put key entry) := by
  unfold Cache.set
  dsimp only
  by_cases hfull : c.cache.bound ≤ c.cache.size ∧ c.cache.entries.contains key = false
  · rw [if_pos hfull]
    obtain ⟨e₁, hroom, hm, hlt⟩ := h.makeRoom hfull.2
    exact ⟨e₁, hroom, hm.put (.inr hlt)⟩
  · rw [if_neg hfull]
    have hroom : c.cache.entries.contains key = true ∨ c.cache.size < c.cache.bound := by
      by_cases hcontains : c.cache.entries.contains key = true
      · exact .inl hcontains
      · refine .inr (Nat.lt_of_not_le fun hle => hfull ⟨hle, ?_⟩)
        simpa using hcontains
    exact ⟨e, h.spare hroom, h.put hroom⟩

/-! ### Runs -/

/-- What is fresh later was fresh before. -/
theorem advance (h : Mirrors c e) (d : Duration) :
    Mirrors { c with now := c.now.after d } { e with now := e.now.after d }.forget := by
  refine ⟨by rw [← h.now_eq]; rfl, h.ttl_eq, h.bound_eq, fun key => ?_, h.size_le, h.bound_pos⟩
  have hlater (entry : Cache.Entry) :
      (entry.isFresh c.now && decide (e.now.after d < entry.expires)) =
        entry.isFresh (c.now.after d) := by
    rw [h.now_eq]
    by_cases hfresh : c.now.after d < entry.expires
    · have hnow : c.now < entry.expires := by
        simp only [Instant.lt_def, Instant.after] at *
        omega
      simp [Cache.Entry.isFresh, hfresh, hnow]
    · simp [Cache.Entry.isFresh, hfresh]
  show (e.entries.filter _).find? key = _
  rw [Table.find?_filter, h.find?_eq, Option.filter_filter]
  simp only [hlater]

/-- Each operation is one of the eager cache. -/
theorem act (h : Mirrors c e) (op : Cache.Op) :
    ∃ e₁, e.Acts op e₁ (c.act op).2 ∧ Mirrors (c.act op).1 e₁ := by
  cases op with
  | set key entry =>
    obtain ⟨e₁, hroom, hm⟩ := h.set key entry
    exact ⟨e₁.put key entry, .set hroom, hm⟩
  | store key recording =>
    have hexpires : e.now.after? e.ttl = c.now.after? c.cache.ttl := by rw [h.now_eq, h.ttl_eq]
    simp only [ClockedCache.act, Cache.store?]
    cases hafter : c.now.after? c.cache.ttl with
    | none => exact ⟨e, .panics (hexpires.trans hafter), h⟩
    | some expires =>
      obtain ⟨e₁, hroom, hm⟩ := h.set key ⟨recording, expires⟩
      exact ⟨e₁.put key ⟨recording, expires⟩, .store (hexpires.trans hafter) hroom, hm⟩
  | get key =>
    obtain ⟨hfound, hm⟩ := h.get key
    refine ⟨e, ?_, hm⟩
    show e.Acts (.get key) e [(c.cache.get c.now key).2.2]
    rw [hfound]
    exact .get
  | remove key => exact ⟨_, .remove, h.erase key⟩
  | purge => exact ⟨e, .purge, h.purge⟩
  | sweep sleep sweeper =>
    refine ⟨e, .sweep, ?_⟩
    simp only [ClockedCache.act, Sweeper.run]
    by_cases hdue : (sweeper.lieDown sleep c.now).isDue c.now = true
    · simpa [hdue] using h.purge
    · simpa [hdue] using h
  | advance d => exact ⟨_, .advance, h.advance d⟩

theorem run (h : Mirrors c e) (ops : List Cache.Op) :
    ∃ e', EagerCache.Runs e ops e' (c.run ops).2 ∧ Mirrors (c.run ops).1 e' := by
  induction ops generalizing c e with
  | nil => exact ⟨e, .done, h⟩
  | cons op rest ih =>
    obtain ⟨e₁, hacts, hm⟩ := h.act op
    obtain ⟨e₂, hruns, hm'⟩ := ih hm
    exact ⟨e₂, .step hacts hruns, hm'⟩

end ClockedCache.Mirrors

/-- The cache refines the eager one. Whatever is done with it from the time it was empty, every
look-up finds what it finds in the eager cache, up to the choice among entries that would expire
first together; and never are there more entries than the bound, expired ones included. -/
theorem ClockedCache.found_eq_eager (ttl : Duration) (maxEntries : Nat) (now : Instant)
    (ops : List Cache.Op) :
    let c := (⟨Cache.new ttl maxEntries, now⟩ : ClockedCache).run ops
    (∃ e, (EagerCache.new ttl maxEntries now).Runs ops e c.2) ∧
      c.1.cache.size ≤ max maxEntries 1 := by
  intro c
  obtain ⟨e, hruns, hm⟩ := (Mirrors.start ttl maxEntries now).run ops
  refine ⟨⟨e, hruns⟩, ?_⟩
  calc c.1.cache.size
    _ ≤ c.1.cache.bound := hm.size_le
    _ = e.bound := hm.bound_eq.symm
    _ = max maxEntries 1 := hruns.bound_eq

end Sluice
