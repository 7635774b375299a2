import Sluice.Dispatch.Build
import Sluice.Proofs.Caching.Filed

/-!
# Looking into the cache

A look into the cache removes at most an entry that has expired: the fresh entries are what they
were. A dispatch that begins has looked, if it was for a GET, and goes on with its handler or with
what it found.
-/
namespace Sluice

namespace Cache

/-- There is no fresh entry under the key. -/
def Lacks (c : Cache) (now : Instant) (key : String) : Prop :=
  ∀ entry, c.entries.find? key = some entry → entry.isFresh now = false

/-- At this moment the second cache has the fresh entries of the first, and no others. -/
structure Agrees (now : Instant) (c c' : Cache) : Prop where
  ttl_eq : c'.ttl = c.ttl
  find?_iff : ∀ key entry, entry.isFresh now = true →
    (c'.entries.find? key = some entry ↔ c.entries.find? key = some entry)

theorem Agrees.refl (now : Instant) (c : Cache) : c.Agrees now c := ⟨rfl, fun _ _ _ => Iff.rfl⟩

theorem lacks_iff {c : Cache} {now : Instant} {key : String} :
    c.Lacks now key ↔ (c.get now key).2.2 = none := by
  unfold Lacks get
  cases hfind : c.entries.find? key with
  | none => simp
  | some entry => cases hfresh : entry.isFresh now <;> simp [hfresh]

instance (c : Cache) (now : Instant) (key : String) : Decidable (c.Lacks now key) :=
  decidable_of_iff _ lacks_iff.symm

/-- A look into the cache removes at most an entry that has expired. -/
theorem agrees_get (c : Cache) (now : Instant) (key : String) : c.Agrees now (c.get now key).1 := by
  unfold get
  cases hfind : c.entries.find? key with
  | none => exact .refl now c
  | some old =>
    cases hfresh : old.isFresh now with
    | true =>
      simp only [hfresh, if_true]
      exact .refl now c
    | false =>
      simp only [hfresh, Bool.false_eq_true, if_false]
      refine ⟨rfl, fun k entry hentry => ?_⟩
      rw [Table.find?_erase]
      split
      · rename_i heq
        subst heq
        refine iff_of_false (Option.some_ne_none entry).symm fun hfound => ?_
        rw [hfind] at hfound
        cases hfound
        rw [hfresh] at hentry
        cases hentry
      · exact Iff.rfl

end Cache

namespace Dispatcher

/-- What stays of a dispatcher that was built with these settings. -/
structure Fits (settings : Settings) (d : Dispatcher) : Prop where
  settings_eq : d.settings = settings
  enabled : d.cache.isSome = settings.cache.enabled
  ttl_eq : ∀ cache, d.cache = some cache → cache.ttl = settings.cache.ttl

/-- The entry stands in the cache under the key. -/
def Holds (d : Dispatcher) (key : String) (entry : Cache.Entry) : Prop :=
  ∃ cache, d.cache = some cache ∧ cache.entries.find? key = some entry

theorem fits_build {τ : Type} [Transport τ] {settings : Settings} {context : BuildContext}
    {l l' : Link τ} {d : Dispatcher} {interval : Option Duration}
    (h : build settings context l = (l', .ok (d, interval))) : d.Fits settings := by
  obtain ⟨-, -, hbuilt, hsettings⟩ := builds_build h
  refine ⟨hsettings, ?_, fun cache hcache => ?_⟩
  · rw [hbuilt]
    cases settings.cache.enabled <;> rfl
  · rw [hbuilt] at hcache
    split at hcache
    · cases hcache
      rfl
    · cases hcache

variable {d d₁ d' : Dispatcher} {now : Instant} {request : Request}

/-- An entry was put into the cache. -/
theorem Fits.set {settings : Settings} (h : d.Fits settings) {cache : Cache} {key : String}
    {entry : Cache.Entry} (hcache : d.cache = some cache)
    (hd : d' = { d with pool := d'.pool, cache := some (cache.set now key entry).1 }) :
    d'.Fits settings := by
  have hsome := h.enabled
  rw [hcache] at hsome
  rw [hd]
  refine ⟨h.settings_eq, hsome, fun cache' hcache' => ?_⟩
  cases hcache'
  exact (Cache.ttl_set ..).trans (h.ttl_eq cache hcache)

/-- From the first dispatcher to the second the cache was looked into at most, and only for a
GET. -/
structure Spares (now : Instant) (request : Request) (d d' : Dispatcher) : Prop where
  settings_eq : d'.settings = d.settings
  cache_eq : d'.cache = d.cache ∨ request.method = .get ∧
    d'.cache = d.cache.map fun cache => (cache.get now request.path).1

theorem Spares.of_pool {pool : Pool} (h : d' = { d with pool }) : d.Spares now request d' := by
  rw [h]
  exact ⟨rfl, .inl rfl⟩

/-- First this, then nothing more than a change of the pool. -/
theorem Spares.pool (h : d.Spares now request d₁) {pool : Pool} (hpool : d' = { d₁ with pool }) :
    d.Spares now request d' := by
  rw [hpool]
  exact ⟨h.settings_eq, h.cache_eq⟩

/-- The cache that is there then has the same fresh entries. -/
theorem Spares.agrees (h : d.Spares now request d') {cache' : Cache}
    (hcache' : d'.cache = some cache') :
    ∃ cache, d.cache = some cache ∧ cache.Agrees now cache' := by
  rcases h.cache_eq with hsame | ⟨-, hlooked⟩
  · exact ⟨cache', hsame ▸ hcache', .refl now cache'⟩
  · rw [hlooked] at hcache'
    obtain ⟨cache, hcache, rfl⟩ := Option.map_eq_some_iff.1 hcache'
    exact ⟨cache, hcache, cache.agrees_get now request.path⟩

theorem Spares.holds_iff (h : d.Spares now request d') {key : String} {entry : Cache.Entry}
    (hfresh : entry.isFresh now = true) : d'.Holds key entry ↔ d.Holds key entry := by
  rcases h.cache_eq with hsame | ⟨-, hlooked⟩
  · rw [Holds, hsame]
    rfl
  · constructor
    · rintro ⟨cache', hcache', hfind⟩
      obtain ⟨cache, hcache, hagrees⟩ := h.agrees hcache'
      exact ⟨cache, hcache, (hagrees.find?_iff key entry hfresh).1 hfind⟩
    · rintro ⟨cache, hcache, hfind⟩
      rw [hcache] at hlooked
      exact ⟨_, hlooked,
        ((cache.agrees_get now request.path).find?_iff key entry hfresh).2 hfind⟩

theorem Spares.fits (h : d.Spares now request d') {settings : Settings}
    (hfits : d.Fits settings) : d'.Fits settings := by
  refine ⟨h.settings_eq.trans hfits.settings_eq, ?_, fun cache' hcache' => ?_⟩
  · rcases h.cache_eq with hsame | ⟨-, hlooked⟩
    · rw [hsame]
      exact hfits.enabled
    · rw [hlooked, Option.isSome_map]
      exact hfits.enabled
  · obtain ⟨cache, hcache, hagrees⟩ := h.agrees hcache'
    exact hagrees.ttl_eq.trans (hfits.ttl_eq cache hcache)

end Dispatcher

namespace Service

variable {τ ε : Type} {s s' : Service τ} {now : Instant} {request : Request}

/-- The cache has a place for the request, and nothing fresh in it. -/
def Misses (s : Service τ) (now : Instant) (request : Request) : Prop :=
  request.method = .get ∧ ∃ cache, s.dispatcher.cache = some cache ∧ cache.Lacks now request.path

variable [Transport τ]

/-- How a dispatch begins, with the notes of its handler. -/
inductive Begins (now : Instant) (request : Request) (s : Service τ) :
    Service τ → Outcome ε → List ActNote → Prop where
  | refused {s' e} : s.dispatcher.Spares now request s'.dispatcher → s'.link.kept = s.link.kept →
      Begins now request s s' (.returned (.error (.handle e))) []
  /-- The answer comes from the cache. -/
  | hits {t : Turn τ} {s' o} : s.dispatcher.Spares now request t.dispatcher →
      t.session.link.kept = s.link.kept → t.Idles s' o → Begins now request s s' o []
  | calls {t : Turn τ} {s' o notes} : s.dispatcher.Spares now request t.dispatcher →
      t.session.link.kept = s.link.kept →
      t.key = some request.path ∧ s.Misses now request ∨ t.key = none ∧ ¬ s.Misses now request →
      t.Leads now notes s' o → Begins now request s s' o notes

variable {pool : Pool} {link : Link τ} {handle : HandleId} {cache cache' : Cache} {key : String}
  {events : List Event} {program : Program ε} {o : Outcome ε}

/-- A request that is not looked for in the cache. -/
theorem begins_entered (hcheckout : s.dispatcher.pool.checkout s.link = (pool, link, .ok handle))
    (hno : ∀ cache key, s.dispatcher.cache = some cache → request.cacheKey? ≠ some key)
    (h : s.start now request program = (s', o)) :
    s.Begins now request s' o (s.startNotes now request program) := by
  have hkept := s.dispatcher.pool.kept_checkout s.link
  rw [hcheckout] at hkept
  have hnotes : s.startNotes now request program =
      (s.entered pool link handle).session.notes now program := by
    simp only [startNotes, hcheckout]
  have hrun : (s.entered pool link handle).run now program = (s', o) := by
    simp only [start, hcheckout] at h
    exact h
  have hmisses : ¬ s.Misses now request := by
    rintro ⟨hmethod, cache, hcache, -⟩
    exact hno cache request.path hcache (if_pos hmethod)
  have hleads := Turn.leads_run (fun hne => absurd rfl hne) ActNote.pending_nil ⟨rfl, rfl⟩ hrun
  rw [hnotes]
  exact .calls (.of_pool rfl) hkept (.inr ⟨rfl, hmisses⟩) hleads

omit [Transport τ] in
/-- A request that is looked for in the cache. -/
theorem spares_looked (hcache : s.dispatcher.cache = some cache)
    (hkey : request.cacheKey? = some key) (hget : (cache.get now key).1 = cache') (pool : Pool) :
    s.dispatcher.Spares now request { s.dispatcher with pool, cache := some cache' } := by
  obtain ⟨hmethod, rfl⟩ := Request.cacheKey?_eq_some hkey
  refine ⟨rfl, .inr ⟨hmethod, ?_⟩⟩
  rw [hcache, ← hget]
  rfl

theorem kept_looked (hcheckout : s.dispatcher.pool.checkout s.link = (pool, link, .ok handle))
    (hget : (cache.get now key).2.1 = events) (cache' : Cache) :
    (s.looked pool link handle key cache' events).session.link.kept = s.link.kept := by
  have hkept := s.dispatcher.pool.kept_checkout s.link
  rw [hcheckout] at hkept
  exact (link.kept_reportAll (hget ▸ cache.keptKey?_get now key)).trans hkept

/-- A request that was not found in the cache. -/
theorem begins_missed (hcheckout : s.dispatcher.pool.checkout s.link = (pool, link, .ok handle))
    (hcache : s.dispatcher.cache = some cache) (hkey : request.cacheKey? = some key)
    (hget : cache.get now key = (cache', events, none))
    (h : s.start now request program = (s', o)) :
    s.Begins now request s' o (s.startNotes now request program) := by
  have hlacks : cache.Lacks now key := by rw [Cache.lacks_iff, hget]
  let t : Turn τ := { s.looked pool link handle key cache' events with
    session := (s.looked pool link handle key cache' events).session.record
      s.dispatcher.settings.cache.maxBodyBytes }
  have hnotes : s.startNotes now request program = t.session.notes now program := by
    simp only [startNotes, hcheckout, hcache, hkey, hget]
    rfl
  have hrun : t.run now program = (s', o) := by
    simp only [start, hcheckout, hcache, hkey, hget] at h
    exact h
  have hspares : s.dispatcher.Spares now request t.dispatcher :=
    spares_looked hcache hkey (by rw [hget]) pool
  have hkept : t.session.link.kept = s.link.kept :=
    kept_looked hcheckout (congrArg (fun got => got.2.1) hget) cache'
  have hleads := Turn.leads_run (fun _ => ⟨cache', rfl⟩) ActNote.pending_nil ⟨rfl, rfl⟩ hrun
  obtain ⟨hmethod, rfl⟩ := Request.cacheKey?_eq_some hkey
  rw [hnotes]
  exact .calls hspares hkept (.inl ⟨rfl, hmethod, cache, hcache, hlacks⟩) hleads

/-- Every way a dispatch can begin. -/
theorem begins_start (h : s.start now request program = (s', o)) :
    s.Begins now request s' o (s.startNotes now request program) := by
  cases enters_start h with
  | @refused pool link e hcheckout =>
    have hkept := s.dispatcher.pool.kept_checkout s.link
    rw [hcheckout] at hkept
    have hnotes : s.startNotes now request program = [] := by simp only [startNotes, hcheckout]
    rw [hnotes]
    exact .refused (.of_pool rfl) hkept
  | calls hcheckout hno => exact begins_entered hcheckout hno h
  | misses hcheckout hcache hkey hget => exact begins_missed hcheckout hcache hkey hget h
  | @hits pool link handle cache cache' key events _ t _ _ _ _ hcheckout hcache hkey hget ht
      hreplays hreplayed =>
    have hnotes : s.startNotes now request program = [] := by
      simp only [startNotes, hcheckout, hcache, hkey, hget]
    have hspares := spares_looked hcache hkey (congrArg Prod.fst hget) pool
    have hkept : t.session.link.kept = s.link.kept := by
      rw [← ht]
      exact (Session.kept_report _ rfl).trans
        (kept_looked hcheckout (congrArg (fun got => got.2.1) hget) cache')
    subst ht
    rw [hnotes]
    exact .hits hspares hkept (Turn.idles_replayed hreplays.kept_eq hreplayed)

end Service

end Sluice
