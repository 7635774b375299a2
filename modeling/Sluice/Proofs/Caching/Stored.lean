import Sluice.Proofs.Caching.Visits
import Sluice.Transport.Loopback

/-!
# When an answer is stored

Of all the moves of a dispatch at most one stores an entry, and the notes of the whole dispatch tell
whether there is one, and what is stored. In every other move the fresh entries stay as they are.
The one move goes wrong where the clock cannot name the moment at which the entry would expire: by
then the answer has been sent.
-/
namespace Sluice

namespace Visit

/-- A move of the dispatch itself: how things were before, and how they are after it. -/
structure Step (τ ε : Type) where
  now : Instant
  before : Visit τ ε
  after : Visit τ ε

namespace Step

variable {τ ε : Type}

/-- No fresh entry was added, replaced or removed. -/
def SameFresh (p : Step τ ε) : Prop :=
  ∀ key entry, entry.isFresh p.now = true →
    (p.after.service.dispatcher.Holds key entry ↔ p.before.service.dispatcher.Holds key entry)

/-- The fresh entries are what they were, and none was reported as stored. -/
structure Leaves (p : Step τ ε) : Prop where
  sameFresh : p.SameFresh
  kept_eq : p.after.service.link.kept = p.before.service.link.kept

/-- The entry was put into the cache under the key, and the dispatch is over. -/
structure Files (p : Step τ ε) (key : String) (entry : Cache.Entry) : Prop where
  set_eq : ∃ cache cache₁, p.before.service.dispatcher.cache = some cache ∧
    cache.Agrees p.now cache₁ ∧
    p.after.service.dispatcher.cache = some (cache₁.set p.now key entry).1
  holds : p.after.service.dispatcher.Holds key entry
  kept_eq : p.after.service.link.kept = p.before.service.link.kept ++ [key]
  returned : ∃ served, p.after.phase = .returned (.ok served)

theorem Files.not_leaves {p : Step τ ε} {key : String} {entry : Cache.Entry}
    (h : p.Files key entry) : ¬ p.Leaves := by
  intro hleaves
  have hkept := h.kept_eq.symm.trans hleaves.kept_eq
  simp at hkept

end Step

/-- What is to be stored of the notes of a dispatch that ends at this moment. -/
structure Recorded (settings : Settings) (now : Instant) (notes : List ActNote)
    (entry : Cache.Entry) : Prop where
  status_eq : entry.recording.status = .ok
  /-- The fields as they were when the header section went out. -/
  fields_eq : ActNote.header? notes = some entry.recording.fields
  body_eq : entry.recording.body = joined (ActNote.bodies notes)
  expires_eq : entry.expires = now.after settings.cache.ttl

/-- One of these moves files what the notes say, and the others leave the cache alone. -/
def FilesOnce {τ ε : Type} (settings : Settings) (key : String) (notes : List ActNote)
    (steps : List (Step τ ε)) : Prop :=
  ∃ earlier p later entry, steps = earlier ++ p :: later ∧
    Recorded settings p.now notes entry ∧ p.Files key entry ∧
    ∀ other ∈ earlier ++ later, other.Leaves

/-! ## One move -/

variable {τ ε : Type} {settings : Settings} {v v' : Visit τ ε} {now : Instant} {key : String}
  {notes : List ActNote} {p : Step τ ε} {l : List (Step τ ε)}

theorem Does.leaves_or_files (h : Does settings now v v')
    (hclock : now.nanos + settings.cache.ttl.nanos < Instant.limit) :
    (v'.Worthy settings → v.Worthy settings) ∧ (⟨now, v, v'⟩ : Step τ ε).Leaves ∨
      v'.Worthy settings ∧ ∃ entry,
        Recorded settings now v'.notes entry ∧
        (⟨now, v, v'⟩ : Step τ ε).Files v.request.path entry := by
  cases h with
  | spares hspares hkept hworthy =>
    exact .inl ⟨hworthy, fun _ _ hfresh => hspares.holds_iff hfresh, hkept⟩
  | @stores cache cache₁ header served hunworthy hworthy _ hcache hagrees hheader hset hkept
      hphase =>
    refine .inr ⟨hworthy, _, ⟨rfl, hheader, rfl, rfl⟩, ⟨cache, cache₁, hcache, hagrees,
      hset⟩, ⟨_, hset, Table.find?_insert_self ..⟩, hkept, served, hphase⟩
  | overflows _ _ hrange => exact absurd hclock (Nat.not_lt.2 hrange)

/-- What becomes of a dispatch in the move that makes its answer one to be stored. -/
theorem Does.returns_or_crashes (h : Does settings now v v') (hbefore : ¬ v.Worthy settings)
    (hafter : v'.Worthy settings) :
    now.nanos + settings.cache.ttl.nanos < Instant.limit ∧
        (∃ served, v'.phase = .returned (.ok served) ∧ served.status = .ok ∧
          served.source = .handler) ∨
      Instant.limit ≤ now.nanos + settings.cache.ttl.nanos ∧
        v'.phase = .crashed Cache.overflow ∧ (⟨now, v, v'⟩ : Step τ ε).SameFresh := by
  cases h with
  | spares _ _ hworthy => exact absurd (hworthy hafter) hbefore
  | stores _ _ hrange _ _ _ _ _ hphase hstatus hsource =>
    exact .inl ⟨hrange, _, hphase, hstatus, hsource⟩
  | overflows _ _ hrange hspares _ hphase =>
    exact .inr ⟨hrange, hphase, fun _ _ hfresh => hspares.holds_iff hfresh⟩

/-- A move without effect. -/
theorem Step.leaves_refl (now : Instant) (v : Visit τ ε) : (⟨now, v, v⟩ : Step τ ε).Leaves :=
  ⟨fun _ _ _ => Iff.rfl, rfl⟩

/-- What others do makes no difference to what is to be stored. -/
theorem worthy_moved_iff (s : Service τ) :
    { v with service := s }.Worthy settings ↔ v.Worthy settings := by
  rw [worthy_iff, worthy_iff]
  rfl

/-- A move before all these. -/
theorem FilesOnce.cons (h : FilesOnce settings key notes l) (hleaves : p.Leaves) :
    FilesOnce settings key notes (p :: l) := by
  obtain ⟨earlier, q, later, entry, rfl, hrecorded, hfiles, hall⟩ := h
  exact ⟨p :: earlier, q, later, entry, rfl, hrecorded, hfiles,
    List.forall_mem_cons.2 ⟨hleaves, hall⟩⟩

theorem FilesOnce.not_leaves (h : FilesOnce settings key notes l) : ¬ ∀ p ∈ l, p.Leaves := by
  obtain ⟨earlier, q, later, entry, rfl, -, hfiles, -⟩ := h
  exact fun hall => hfiles.not_leaves (hall q (List.mem_append_right _ List.mem_cons_self))

/-- A dispatch that is not for a GET leaves the cache alone. -/
theorem Does.cache_eq (h : Does settings now v v') (hmethod : v.request.method ≠ .get)
    (hrequest : v'.request = v.request) :
    v'.service.dispatcher.cache = v.service.dispatcher.cache := by
  have hspares (hspares : v.service.dispatcher.Spares now v.request v'.service.dispatcher) :
      v'.service.dispatcher.cache = v.service.dispatcher.cache :=
    hspares.cache_eq.resolve_right fun hlooked => hmethod hlooked.1
  cases h with
  | spares hspared => exact hspares hspared
  | overflows _ _ _ hspared => exact hspares hspared
  | stores _ hworthy => exact absurd (hrequest ▸ hworthy.method_eq) hmethod

variable [Transport τ]

@[simp] theorem request_own (v : Visit τ ε) (now : Instant) (o : Own) :
    (v.own now o).request = v.request := by
  unfold own
  split <;> rfl

/-- Once the answer is one to be stored the dispatch is over, and does nothing more. -/
theorem Sound.own_of_worthy (h : v.Sound settings) (hworthy : v.Worthy settings) (now : Instant)
    (o : Own) : v.own now o = v := by
  unfold Visit.own
  cases hphase : v.phase with
  | due =>
    refine absurd hworthy (not_worthy_of_pending ?_)
    rw [h.due hphase]
    exact ActNote.pending_nil
  | inFlight d => exact absurd hworthy (not_worthy_of_pending (h.inFlight d hphase).1)
  | _ => cases o <;> rfl

/-! ## Every run -/

/-- The moves of the dispatch itself among these. -/
def steps (v : Visit τ ε) : List (Move settings τ) → List (Step τ ε)
  | [] => []
  | .own now o :: rest => ⟨now, v, v.own now o⟩ :: (v.own now o).steps rest
  | .others o :: rest => (v.act (.others o)).steps rest

@[simp] theorem run_own (v : Visit τ ε) (now : Instant) (o : Own) (rest : List (Move settings τ)) :
    v.run (.own now o :: rest) = (v.own now o).run rest :=
  rfl

@[simp] theorem steps_own (v : Visit τ ε) (now : Instant) (o : Own)
    (rest : List (Move settings τ)) :
    v.steps (.own now o :: rest) = ⟨now, v, v.own now o⟩ :: (v.own now o).steps rest :=
  rfl

/-- From then on the cache is left alone. -/
theorem Sound.rests (h : v.Sound settings) (hworthy : v.Worthy settings)
    (moves : List (Move settings τ)) :
    (v.run moves).notes = v.notes ∧ (v.run moves).Worthy settings ∧
      ∀ p ∈ v.steps moves, p.Leaves := by
  induction moves generalizing v with
  | nil => exact ⟨rfl, hworthy, List.forall_mem_nil _⟩
  | cons move rest ih =>
    cases move with
    | others o => exact ih (h.act (.others o)) ((worthy_moved_iff _).2 hworthy)
    | own now o =>
      obtain ⟨hnotes, hends, hleaves⟩ := ih h hworthy
      rw [run_own, steps_own, h.own_of_worthy hworthy now o]
      exact ⟨hnotes, hends, List.forall_mem_cons.2 ⟨Step.leaves_refl now v, hleaves⟩⟩

/-- What a dispatch whose answer is not yet one to be stored does from then on. -/
theorem Sound.files_or_leaves (h : v.Sound settings) (hunworthy : ¬ v.Worthy settings)
    {moves : List (Move settings τ)}
    (hclock : ∀ p ∈ v.steps moves, p.now.nanos + settings.cache.ttl.nanos < Instant.limit) :
    (v.run moves).Worthy settings ∧
        FilesOnce settings v.request.path (v.run moves).notes (v.steps moves) ∨
      ¬ (v.run moves).Worthy settings ∧ ∀ p ∈ v.steps moves, p.Leaves := by
  -- only one move can make the answer such a one, and that is the one that files it
  induction moves generalizing v with
  | nil => exact .inr ⟨hunworthy, List.forall_mem_nil _⟩
  | cons move rest ih =>
    cases move with
    | others o => exact ih (h.act (.others o)) (mt (worthy_moved_iff _).1 hunworthy) hclock
    | own now o =>
      obtain ⟨hsound, hdoes⟩ := h.own now o
      rw [steps_own] at hclock
      obtain ⟨hnow, hrest⟩ := List.forall_mem_cons.1 hclock
      rw [run_own, steps_own]
      rcases hdoes.leaves_or_files hnow with ⟨hback, hleaves⟩ | ⟨hworthy, entry, hrecorded, hfiles⟩
      · rcases ih hsound (mt hback hunworthy) hrest with ⟨hends, honce⟩ | ⟨hends, hall⟩
        · rw [request_own] at honce
          exact .inl ⟨hends, honce.cons hleaves⟩
        · exact .inr ⟨hends, List.forall_mem_cons.2 ⟨hleaves, hall⟩⟩
      · obtain ⟨hnotes, hends, hall⟩ := hsound.rests hworthy rest
        rw [hnotes]
        exact .inl ⟨hends, [], _, _, entry, rfl, hrecorded, hfiles, hall⟩

/-- Unless the request is a GET the cache is not even looked into. -/
theorem Sound.cache_eq (h : v.Sound settings) (hmethod : v.request.method ≠ .get)
    (moves : List (Move settings τ)) :
    ∀ p ∈ v.steps moves,
      p.after.service.dispatcher.cache = p.before.service.dispatcher.cache := by
  induction moves generalizing v with
  | nil => exact List.forall_mem_nil _
  | cons move rest ih =>
    cases move with
    | others o => exact ih (h.act (.others o)) hmethod
    | own now o =>
      obtain ⟨hsound, hdoes⟩ := h.own now o
      have hrequest := v.request_own now o
      rw [steps_own]
      exact List.forall_mem_cons.2 ⟨hdoes.cache_eq hmethod hrequest,
        ih hsound (hrequest ▸ hmethod)⟩

/-- Exactly which dispatches store their answer, and what they store. Whatever others do meanwhile,
and as long as the clock can name the moment at which an entry would expire, a dispatch stores an
entry if and only if its answer is one to be stored; then it does so once, when it ends, and the
entry is what its notes say. In every other move no fresh entry is added, replaced or removed, and
unless the request is a GET the cache stays altogether as it is. -/
theorem filesOnce_iff_worthy {s : Service τ} (hfits : s.dispatcher.Fits settings)
    (request : Request) (program : Program ε) (moves : List (Move settings τ))
    (hclock : ∀ p ∈ (opening s request program).steps moves,
      p.now.nanos + settings.cache.ttl.nanos < Instant.limit) :
    let v := (opening s request program).run moves
    let steps := (opening s request program).steps moves
    (FilesOnce settings request.path v.notes steps ↔ v.Worthy settings) ∧
      (¬ v.Worthy settings → ∀ p ∈ steps, p.Leaves) ∧
      (request.method ≠ .get → ∀ p ∈ steps,
        p.after.service.dispatcher.cache = p.before.service.dispatcher.cache) := by
  intro v steps
  have hopening := sound_opening hfits request program
  have hunworthy : ¬ (opening s request program).Worthy settings :=
    not_worthy_of_pending ActNote.pending_nil
  refine ⟨?_, ?_, fun hmethod => hopening.cache_eq hmethod moves⟩ <;>
    rcases hopening.files_or_leaves hunworthy hclock with ⟨hworthy, honce⟩ | ⟨hnot, hleaves⟩
  · exact ⟨fun _ => hworthy, fun _ => honce⟩
  · exact ⟨fun honce => absurd hleaves honce.not_leaves, fun hworthy => absurd hworthy hnot⟩
  · exact fun hnot => absurd hworthy hnot
  · exact fun _ => hleaves

/-- A buffer of four bytes, and a cache. -/
def narrow : Service Loopback :=
  ⟨⟨.shared, { capacity := 10 }, some (.ofSettings {}), {}⟩,
    { transport := { capacity := some 4, routing := some .perHandle } }⟩

theorem fits_narrow : narrow.dispatcher.Fits {} := by
  refine ⟨rfl, rfl, fun cache hcache => ?_⟩
  cases hcache
  rfl

/-- The fields are cleared once the body is written. -/
def scrubbed : Program Empty := .write "<p>hi</p>".toUTF8 none fun _ => .edit .clear .finish

/-- The front end drains a buffer. -/
def drains (handle : HandleId) : Others {} Loopback :=
  .onLink fun l =>
    let (t, _, signals) := l.transport.drain handle
    { l with transport := t }.raiseAll signals

/-- The buffer has to be drained twice, and another request is taken up meanwhile. -/
def delayed : List (Move {} Loopback) :=
  let other : Others {} Loopback :=
    .move (sound_opening fits_narrow ⟨.get, "/q"⟩ scrubbed) .start .start
  [.own .start .start, .others (drains ⟨1⟩), .others other, .own ⟨1⟩ .resume,
    .others (drains ⟨1⟩), .own ⟨2⟩ .resume]

theorem filesOnce_iff_worthy_delayed :
    ∃ p ∈ (opening narrow ⟨.get, "/p"⟩ scrubbed).steps delayed, ∃ entry, p.Files "/p" entry ∧
      entry.recording.fields.instances = [(.contentType, .defaultContentType)] ∧
      entry.recording.body = "<p>hi</p>".toUTF8 ∧ entry.expires = p.now.after (.ofSecs 300) := by
  let v := (opening narrow ⟨.get, "/p"⟩ scrubbed).run delayed
  have hclock : ∀ p ∈ (opening narrow ⟨.get, "/p"⟩ scrubbed).steps delayed,
      p.now.nanos + (Settings.cache {}).ttl.nanos < Instant.limit := by
    decide +kernel
  have hworthy : v.Worthy {} := by decide +kernel
  obtain ⟨earlier, p, later, entry, hsteps, hrecorded, hfiles, -⟩ :=
    (filesOnce_iff_worthy fits_narrow ⟨.get, "/p"⟩ scrubbed delayed hclock).1.2 hworthy
  have hheader : (ActNote.header? v.notes).map Fields.instances =
      some [(.contentType, .defaultContentType)] := by decide +kernel
  have hbody : joined (ActNote.bodies v.notes) = "<p>hi</p>".toUTF8 := by decide +kernel
  rw [hrecorded.fields_eq] at hheader
  refine ⟨p, ?_, entry, hfiles, Option.some.inj hheader, hrecorded.body_eq.trans hbody,
    hrecorded.expires_eq⟩
  rw [hsteps]
  exact List.mem_append_right _ List.mem_cons_self

/-! ## At the end of the clock -/

/-- A dispatch whose answer is one to be stored returns it if and only if the clock can name
the moment at which the entry expires. Where it cannot, the dispatch panics, and the cache
gets nothing. -/
theorem returned_iff_lt_limit {s : Service τ} (hfits : s.dispatcher.Fits settings)
    (request : Request) (program : Program ε) (moves : List (Move settings τ)) (now : Instant)
    (o : Own)
    (hbefore : ¬ ((opening s request program).run moves).Worthy settings)
    (hafter : (((opening s request program).run moves).own now o).Worthy settings) :
    let v := (opening s request program).run moves
    let v' := v.own now o
    let expires := now.nanos + settings.cache.ttlSecs * 1000000000
    ((∃ served, v'.phase = .returned (.ok served) ∧ served.status = .ok ∧
        served.source = .handler) ↔ expires < Instant.limit) ∧
      (Instant.limit ≤ expires →
        v'.phase = .crashed Cache.overflow ∧ (⟨now, v, v'⟩ : Step τ ε).SameFresh) := by
  intro v v' expires
  have hsound : v.Sound settings := (sound_opening hfits request program).run moves
  rcases (hsound.own now o).2.returns_or_crashes hbefore hafter with
    ⟨hrange, hreturned⟩ | ⟨hrange, hcrashed, hsame⟩
  · exact ⟨⟨fun _ => hrange, fun _ => hreturned⟩, fun hlate => absurd hrange (Nat.not_lt.2 hlate)⟩
  · refine ⟨⟨fun ⟨served, hreturned, _⟩ => ?_, fun hlt => absurd hlt (Nat.not_lt.2 hrange)⟩,
      fun _ => ⟨hcrashed, hsame⟩⟩
    rw [hcrashed] at hreturned
    cases hreturned

/-- A dispatcher that serves entries for so many seconds, just built. -/
def lasting (secs : Nat) : Service Loopback :=
  let settings : Settings := { cache := { ttlSecs := secs } }
  ⟨⟨.shared, { capacity := 10 }, some (.ofSettings settings.cache), settings⟩,
    ({ transport := {} } : Link Loopback).report (.dispatcherBuilt 10 true 65536)⟩

theorem build_lasting (secs : Nat) :
    Dispatcher.build { cache := { ttlSecs := secs } } {} ({ transport := {} } : Link Loopback) =
      ((lasting secs).link, .ok ((lasting secs).dispatcher, none)) :=
  rfl

def greeting : Program Empty := .write "hi".toUTF8 none fun _ => .finish

/-- The longest time that the clock can add when it starts. A second later it is too long. -/
theorem returned_iff_lt_limit_longest :
    let v := opening (lasting 9223372036854775807) ⟨.get, "/p"⟩ greeting
    (∃ served, (v.own .start .start).phase = .returned (.ok served)) ∧
      (v.own ⟨1000000000⟩ .start).phase = .crashed Cache.overflow := by
  intro v
  let settings : Settings := { cache := { ttlSecs := 9223372036854775807 } }
  have hfits : (lasting 9223372036854775807).dispatcher.Fits settings :=
    Dispatcher.fits_build (build_lasting _)
  have hbefore : ¬ v.Worthy settings := by decide +kernel
  have hat (now : Instant) :=
    returned_iff_lt_limit hfits ⟨.get, "/p"⟩ greeting [] now .start hbefore
  obtain ⟨⟨-, hreturns⟩, -⟩ := hat .start (by decide +kernel)
  obtain ⟨-, hcrashes⟩ := hat ⟨1000000000⟩ (by decide +kernel)
  obtain ⟨served, hreturned, -⟩ := hreturns (by decide)
  exact ⟨⟨served, hreturned⟩, (hcrashes (by decide)).1⟩

/-- The settings are valid, and the answer has gone out whole when the dispatch panics. -/
theorem crashed_everlasting :
    let settings : Settings := { cache := { ttlSecs := 18446744073709551615 } }
    let v := opening (lasting 18446744073709551615) ⟨.get, "/p"⟩ greeting
    let v' := v.own .start .start
    settings.validate = .ok () ∧ settings.cache.enabled = true ∧ v'.Worthy settings ∧
      (v'.service.link.transport.exchange ⟨1⟩).status = some .ok ∧
      (v'.service.link.transport.exchange ⟨1⟩).body = "hi".toUTF8 ∧
      v'.phase = .crashed Cache.overflow := by
  intro settings v v'
  have hsound : v.Sound settings := sound_opening (Dispatcher.fits_build (build_lasting _)) _ _
  have hworthy : v'.Worthy settings := by decide +kernel
  refine ⟨rfl, rfl, hworthy, by decide +kernel, by decide +kernel, ?_⟩
  rcases (hsound.own .start .start).2.returns_or_crashes (by decide +kernel) hworthy with
    ⟨hrange, -⟩ | ⟨-, hcrashed, -⟩
  · exact absurd hrange (by decide)
  · exact hcrashed

end Visit

end Sluice
