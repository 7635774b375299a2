import Sluice.Proofs.Caching.Lookups

/-!
# A dispatch and its notes

One dispatch is followed from its request to its end, with the notes of its handler. Between its
turns everybody else does with the service what they like. The notes tell at every moment what the
writer of the dispatch must be, and in which move the answer is stored.
-/
namespace Sluice

/-! ## Dispatches -/

/-- How far a dispatch is. -/
inductive Phase (ε : Type) where
  /-- It has not begun. -/
  | due
  | inFlight (dispatch : Dispatch ε)
  | returned (result : Except DispatchError Served)
  | crashed (message : String)
  | dropped

def Phase.of {ε : Type} : Outcome ε → Phase ε
  | .returned result => .returned result
  | .crashed message => .crashed message
  | .inFlight d => .inFlight d

/-- It has ended, whichever way. -/
def Phase.isOver {ε : Type} : Phase ε → Bool
  | .due | .inFlight _ => false
  | .returned _ | .crashed _ | .dropped => true

/-- What others do with a service. Its dispatcher stays one that was built with these settings. -/
structure Others (settings : Settings) (τ : Type) where
  change : Service τ → Service τ
  fits : ∀ s, s.dispatcher.Fits settings → (change s).dispatcher.Fits settings

/-- Something happens to the link. -/
def Others.onLink {settings : Settings} {τ : Type} (change : Link τ → Link τ) :
    Others settings τ where
  change s := { s with link := change s.link }
  fits _ h := h

/-- One dispatch, and the notes of its handler. -/
structure Visit (τ ε : Type) where
  service : Service τ
  request : Request
  program : Program ε
  phase : Phase ε := .due
  /-- The cache that was there when it began, and the moment. -/
  began : Option (Option Cache × Instant) := none
  notes : List ActNote := []

namespace Visit

variable {τ ε : Type}

/-- What the dispatch itself can do next. -/
inductive Own where
  | start
  /-- It is looked at, and goes on if it can. -/
  | resume
  | answer (n : Nat)
  | cancel

/-- What can happen next. -/
inductive Move (settings : Settings) (τ : Type) where
  | own (now : Instant) (o : Own)
  | others (o : Others settings τ)

/-- A request that is not taken up yet. -/
def opening (s : Service τ) (request : Request) (program : Program ε) : Visit τ ε :=
  { service := s, request, program }

/-- The dispatch went on to this outcome, with these further notes. -/
def settle (v : Visit τ ε) (out : Service τ × Outcome ε) (added : List ActNote) : Visit τ ε :=
  { v with service := out.1, phase := .of out.2, notes := v.notes ++ added }

/-- The dispatch has looked into the cache. -/
def begin (v : Visit τ ε) (now : Instant) : Visit τ ε :=
  { v with began := some (v.service.dispatcher.cache, now) }

/-- The dispatch was for a GET, and found a cache with no fresh entry for it. -/
def Missed (v : Visit τ ε) : Prop :=
  v.request.method = .get ∧
    ∃ cache now, v.began = some (some cache, now) ∧ cache.Lacks now v.request.path

theorem missed_iff {v : Visit τ ε} {cache : Cache} {now : Instant}
    (hbegan : v.began = some (some cache, now)) :
    v.Missed ↔ v.request.method = .get ∧ cache.Lacks now v.request.path := by
  refine and_congr_right fun _ => ⟨?_, fun hlacks => ⟨cache, now, hbegan, hlacks⟩⟩
  rintro ⟨_, _, hfound, hlacks⟩
  cases hbegan.symm.trans hfound
  exact hlacks

instance (v : Visit τ ε) : Decidable v.Missed :=
  match hbegan : v.began with
  | some (some _, _) => decidable_of_iff _ (missed_iff hbegan).symm
  | some (none, _) | none => isFalse <| by simp [Missed, hbegan]

/-- The answer is one to be stored. -/
structure Worthy (settings : Settings) (v : Visit τ ε) : Prop where
  enabled : settings.cache.enabled = true
  method_eq : v.request.method = .get
  /-- The look into the cache found no fresh entry under the path. -/
  missed : ∃ cache now, v.began = some (some cache, now) ∧ cache.Lacks now v.request.path
  /-- The handler returned well, the last flush succeeded, and the status that went out is 200. -/
  returned : ∃ n ∈ v.notes, n.act = .returns (.ok ()) ∧ n.view.sent = some .ok
  /-- No write ran out of time. -/
  inTime : ∀ n ∈ v.notes, n.act.isLate = false
  fits : ActNote.total v.notes ≤ settings.cache.maxBodyBytes

theorem worthy_iff {settings : Settings} {v : Visit τ ε} :
    v.Worthy settings ↔ settings.cache.enabled = true ∧ v.Missed ∧
      ActNote.Complete settings.cache.maxBodyBytes v.notes := by
  have hlate : ActNote.late v.notes = false ↔ ∀ n ∈ v.notes, n.act.isLate = false := by
    simp [ActNote.late]
  constructor
  · intro h
    exact ⟨h.enabled, ⟨h.method_eq, h.missed⟩, h.returned, hlate.2 h.inTime, h.fits⟩
  · rintro ⟨henabled, ⟨hmethod, hmissed⟩, hreturned, hintime, hfits⟩
    exact ⟨henabled, hmethod, hmissed, hreturned, hlate.1 hintime, hfits⟩

instance (settings : Settings) (v : Visit τ ε) : Decidable (v.Worthy settings) :=
  decidable_of_iff _ worthy_iff.symm

theorem not_worthy_of_pending {settings : Settings} {v : Visit τ ε} (h : ActNote.Pending v.notes) :
    ¬ v.Worthy settings :=
  fun hworthy => h.not_complete (worthy_iff.1 hworthy).2.2

variable [Transport τ]

/-- The dispatch itself goes on, where it can. -/
def own (v : Visit τ ε) (now : Instant) (o : Own) : Visit τ ε :=
  match o, v.phase with
  | .start, .due =>
    (v.begin now).settle (v.service.start now v.request v.program)
      (v.service.startNotes now v.request v.program)
  | .resume, .inFlight d => v.settle (v.service.resume now d) (v.service.resumeNotes now d)
  | .answer n, .inFlight d => v.settle (v.service.answer now d n) (v.service.answerNotes now d n)
  | .cancel, .inFlight d => { v with service := v.service.cancel d, phase := .dropped }
  | _, _ => v

def act {settings : Settings} (v : Visit τ ε) : Move settings τ → Visit τ ε
  | .own now o => v.own now o
  | .others o => { v with service := o.change v.service }

def run {settings : Settings} (v : Visit τ ε) (moves : List (Move settings τ)) : Visit τ ε :=
  moves.foldl act v

/-- What a dispatch in flight has to do with the cache. -/
structure Stands (settings : Settings) (v : Visit τ ε) (d : Dispatch ε) : Prop where
  key : d.key = some v.request.path ∧ v.Missed ∨ d.key = none ∧ ¬ v.Missed
  tracks : d.writer.Tracks (d.key.map fun _ => settings.cache.maxBodyBytes) v.notes

/-- What holds between the moves. -/
structure Sound (settings : Settings) (v : Visit τ ε) : Prop where
  fits : v.service.dispatcher.Fits settings
  enabled : v.Missed → settings.cache.enabled = true
  due : v.phase = .due → v.notes = []
  inFlight : ∀ d, v.phase = .inFlight d → ActNote.Pending v.notes ∧
    (d.stage.isLive = true → v.Stands settings d)

/-- What a move of the dispatch does at this moment. -/
inductive Does (settings : Settings) (now : Instant) (v v' : Visit τ ε) : Prop where
  | spares : v.service.dispatcher.Spares now v.request v'.service.dispatcher →
      v'.service.link.kept = v.service.link.kept → (v'.Worthy settings → v.Worthy settings) →
      Does settings now v v'
  | stores {cache cache₁ header served} : ¬ v.Worthy settings → v'.Worthy settings →
      now.nanos + settings.cache.ttl.nanos < Instant.limit →
      v.service.dispatcher.cache = some cache → cache.Agrees now cache₁ →
      ActNote.header? v'.notes = some header →
      v'.service.dispatcher.cache = some (cache₁.set now v.request.path
        ⟨⟨.ok, header, joined (ActNote.bodies v'.notes)⟩, now.after settings.cache.ttl⟩).1 →
      v'.service.link.kept = v.service.link.kept ++ [v.request.path] →
      v'.phase = .returned (.ok served) → served.status = .ok → served.source = .handler →
      Does settings now v v'
  | overflows : ¬ v.Worthy settings → v'.Worthy settings →
      Instant.limit ≤ now.nanos + settings.cache.ttl.nanos →
      v.service.dispatcher.Spares now v.request v'.service.dispatcher →
      v'.service.link.kept = v.service.link.kept ++ [v.request.path] →
      v'.phase = .crashed Cache.overflow → Does settings now v v'

variable {settings : Settings} {v : Visit τ ε} {now : Instant} {t : Turn τ} {s : Service τ}
  {o : Outcome ε} {added : List ActNote}

omit [Transport τ] in
/-- A dispatch that is over has nothing more to do with the cache. -/
theorem sound_of_over (hfits : v.service.dispatcher.Fits settings)
    (henabled : v.Missed → settings.cache.enabled = true) (hover : v.phase.isOver = true) :
    v.Sound settings := by
  refine ⟨hfits, henabled, fun hdue => ?_, fun d hd => ?_⟩
  · rw [hdue] at hover
    cases hover
  · rw [hd] at hover
    cases hover

/-- A turn of a handler of this dispatch. -/
structure Takes (settings : Settings) (now : Instant) (v : Visit τ ε) (t : Turn τ) : Prop where
  fits : v.service.dispatcher.Fits settings
  enabled : v.Missed → settings.cache.enabled = true
  pending : ActNote.Pending v.notes
  spares : v.service.dispatcher.Spares now v.request t.dispatcher
  kept_eq : t.session.link.kept = v.service.link.kept
  key : t.key = some v.request.path ∧ v.Missed ∨ t.key = none ∧ ¬ v.Missed

namespace Takes

omit [Transport τ]

/-- Where there is a key it is the path, and the settings and the cache are as they should be. -/
theorem of_key (h : Takes settings now v t) {key : String} (hkey : t.key = some key) :
    key = v.request.path ∧ v.Missed := by
  rcases h.key with ⟨hsome, hmissed⟩ | ⟨hnone, -⟩
  · exact ⟨Option.some.inj (hkey.symm.trans hsome), hmissed⟩
  · rw [hnone] at hkey
    cases hkey

theorem settings_eq (h : Takes settings now v t) : t.dispatcher.settings = settings :=
  (h.spares.fits h.fits).settings_eq

theorem ttl_eq (h : Takes settings now v t) {cache : Cache}
    (hcache : t.dispatcher.cache = some cache) : cache.ttl = settings.cache.ttl :=
  (h.spares.fits h.fits).ttl_eq cache hcache

/-- A complete answer is a worthy one. -/
theorem worthy (h : Takes settings now v t) {key : String} (hkey : t.key = some key)
    (hcomplete : ActNote.Complete t.dispatcher.settings.cache.maxBodyBytes (v.notes ++ added)) :
    (v.settle (s, o) added).Worthy settings := by
  have hmissed := (h.of_key hkey).2
  rw [h.settings_eq] at hcomplete
  exact worthy_iff.2 ⟨h.enabled hmissed, hmissed, hcomplete⟩

theorem sound (h : Takes settings now v t) (hleads : t.Leads now (v.notes ++ added) s o) :
    (v.settle (s, o) added).Sound settings := by
  have hbegan := h.spares.fits h.fits
  cases hleads with
  | @waits d hd hk hdkey hpending htracks =>
    refine ⟨?_, h.enabled, nofun, ?_⟩
    · show s.dispatcher.Fits settings
      rwa [hd]
    · rintro d' ⟨⟩
      rw [Turn.limit?, h.settings_eq, ← hdkey] at htracks
      exact ⟨hpending, fun hlive => ⟨hdkey ▸ h.key, htracks hlive⟩⟩
  | ends hd _ ho =>
    refine sound_of_over ((h.spares.pool hd).fits h.fits) h.enabled ?_
    cases o with
    | inFlight d => cases ho
    | _ => rfl
  | stores hcache _ _ _ _ hd => exact sound_of_over (hbegan.set hcache hd) h.enabled rfl
  | overflows _ _ _ _ hd =>
    exact sound_of_over ((h.spares.pool hd).fits h.fits) h.enabled rfl

/-- What the turn does with the cache. -/
theorem does (h : Takes settings now v t) (hleads : t.Leads now (v.notes ++ added) s o) :
    Does settings now v (v.settle (s, o) added) := by
  have hunworthy : ¬ v.Worthy settings := not_worthy_of_pending h.pending
  cases hleads with
  | @waits d hd hk _ hpending _ =>
    refine .spares ?_ (hk.trans h.kept_eq) fun hworthy =>
      absurd hworthy (not_worthy_of_pending hpending)
    show v.service.dispatcher.Spares now v.request s.dispatcher
    rw [hd]
    exact h.spares
  | ends hd hk _ hnot =>
    refine .spares (h.spares.pool hd) (hk.trans h.kept_eq) fun hworthy => ?_
    -- a worthy answer would have had a key
    obtain ⟨-, hmissed, hcomplete⟩ := worthy_iff.1 hworthy
    rw [h.settings_eq] at hnot
    rcases h.key with ⟨hsome, -⟩ | ⟨-, hnone⟩
    · exact absurd hcomplete (hnot (hsome ▸ Option.some_ne_none _))
    · exact absurd hmissed hnone
  | @stores cache₁ key header served hcache hkey hcomplete hheader hrange hd hk hstatus hsource =>
    obtain ⟨cache, hcache₀, hagrees⟩ := h.spares.agrees hcache
    have hworthy := h.worthy (s := s) (o := (.returned (.ok served) : Outcome ε)) hkey hcomplete
    obtain ⟨rfl, -⟩ := h.of_key hkey
    rw [h.ttl_eq hcache] at hrange hd
    rw [h.kept_eq] at hk
    refine .stores hunworthy hworthy hrange hcache₀ hagrees hheader ?_ hk rfl hstatus hsource
    show s.dispatcher.cache = _
    rw [hd]
    rfl
  | @overflows cache key hcache hkey hcomplete hrange hd hk =>
    have hworthy := h.worthy (s := s) (o := (.crashed Cache.overflow : Outcome ε)) hkey hcomplete
    obtain ⟨rfl, -⟩ := h.of_key hkey
    rw [h.ttl_eq hcache] at hrange
    rw [h.kept_eq] at hk
    exact .overflows hunworthy hworthy hrange (h.spares.pool hd) hk rfl

end Takes

/-! ## Every move -/

omit [Transport τ] in
/-- A turn without a handler. -/
theorem Sound.idle (h : v.Sound settings) (hpending : ActNote.Pending v.notes)
    (hspares : v.service.dispatcher.Spares now v.request t.dispatcher)
    (hkept : t.session.link.kept = v.service.link.kept) (hidles : t.Idles s o) :
    (v.settle (s, o) []).Sound settings ∧ Does settings now v (v.settle (s, o) []) := by
  have hspares' := hspares.pool hidles.dispatcher_eq
  have hpending' : ActNote.Pending (v.settle (s, o) []).notes := by
    show ActNote.Pending (v.notes ++ [])
    rwa [List.append_nil]
  refine ⟨⟨hspares'.fits h.fits, h.enabled, ?_, fun d hd => ⟨hpending', fun hlive => ?_⟩⟩, ?_⟩
  · cases o <;> nofun
  · cases o with
    | inFlight d' =>
      cases hd
      rw [hidles.waits d rfl] at hlive
      cases hlive
    | _ => cases hd
  · exact .spares hspares' (hidles.kept_eq.trans hkept) fun hworthy =>
      absurd hworthy (not_worthy_of_pending hpending')

omit [Transport τ] in
/-- A move that the dispatch cannot make changes nothing. -/
theorem Sound.stay (h : v.Sound settings) : v.Sound settings ∧ Does settings now v v :=
  ⟨h, .spares ⟨rfl, .inl rfl⟩ rfl id⟩

omit [Transport τ] in
/-- What is known of the turn in which a handler is carried on. -/
theorem Sound.takes (h : v.Sound settings) (now : Instant) {d : Dispatch ε}
    (hd : v.phase = .inFlight d) (hlive : d.stage.isLive = true) :
    Takes settings now v (d.turn v.service) ∧ (d.turn v.service).Keyed ∧
      d.writer.Tracks (d.turn v.service).limit? v.notes := by
  obtain ⟨hpending, hstands⟩ := h.inFlight d hd
  have hkey := (hstands hlive).key
  refine ⟨⟨h.fits, h.enabled, hpending, .of_pool rfl, rfl, hkey⟩, fun hne => ?_, ?_⟩
  · rcases hkey with ⟨-, hmissed⟩ | ⟨hnone, -⟩
    · have hsome := h.fits.enabled
      rw [h.enabled hmissed] at hsome
      exact Option.isSome_iff_exists.1 hsome
    · exact absurd hnone hne
  · rw [Turn.limit?, show (d.turn v.service).dispatcher.settings = settings from h.fits.settings_eq]
    exact (hstands hlive).tracks

omit [Transport τ] in
theorem missed_begin (v : Visit τ ε) (now : Instant) :
    (v.begin now).Missed ↔ v.service.Misses now v.request := by
  constructor
  · rintro ⟨hmethod, cache, now', hbegan, hlacks⟩
    obtain ⟨hcache, rfl⟩ := Prod.mk.inj (Option.some.inj hbegan)
    exact ⟨hmethod, cache, hcache, hlacks⟩
  · rintro ⟨hmethod, cache, hcache, hlacks⟩
    exact ⟨hmethod, cache, now, congrArg (fun c => some (c, now)) hcache, hlacks⟩

omit [Transport τ] in
theorem Sound.begin (h : v.Sound settings) (hdue : v.phase = .due) (now : Instant) :
    (v.begin now).Sound settings := by
  refine ⟨h.fits, fun hmissed => ?_, h.due, fun d hd => ?_⟩
  · obtain ⟨-, cache, hcache, -⟩ := (v.missed_begin now).1 hmissed
    rw [← h.fits.enabled, hcache]
    rfl
  · rw [show (v.begin now).phase = .due from hdue] at hd
    cases hd

omit [Transport τ] in
/-- A dispatch that has looked into the cache has done nothing yet. -/
theorem Does.of_begin {v' : Visit τ ε} (h : Does settings now (v.begin now) v')
    (hpending : ActNote.Pending v.notes) : Does settings now v v' := by
  have hunworthy : ¬ v.Worthy settings := not_worthy_of_pending hpending
  have hbegun : ¬ (v.begin now).Worthy settings := not_worthy_of_pending hpending
  cases h with
  | spares hspares hkept hworthy => exact .spares hspares hkept fun h => absurd (hworthy h) hbegun
  | stores _ hworthy hrange hcache hagrees hheader hset hkept hphase hstatus hsource =>
    exact .stores hunworthy hworthy hrange hcache hagrees hheader hset hkept hphase hstatus hsource
  | overflows _ hworthy hrange hspares hkept hphase =>
    exact .overflows hunworthy hworthy hrange hspares hkept hphase

/-- The dispatch begins. -/
theorem Sound.start (h : v.Sound settings) (hdue : v.phase = .due) {out : Service τ × Outcome ε}
    (hout : v.service.start now v.request v.program = out) :
    let v' := (v.begin now).settle out (v.service.startNotes now v.request v.program)
    v'.Sound settings ∧ Does settings now v v' := by
  have hnotes := h.due hdue
  have hpending : ActNote.Pending v.notes := hnotes ▸ ActNote.pending_nil
  have hbegin := h.begin hdue now
  obtain ⟨s, o⟩ := out
  have hbegins := Service.begins_start hout
  revert hbegins
  generalize v.service.startNotes now v.request v.program = added
  intro hbegins
  cases hbegins with
  | refused hspares hkept =>
    refine ⟨sound_of_over (hspares.fits h.fits) hbegin.enabled rfl, .spares hspares hkept ?_⟩
    intro hworthy
    refine absurd hworthy (not_worthy_of_pending ?_)
    show ActNote.Pending (v.notes ++ [])
    rwa [List.append_nil]
  | hits hspares hkept hidles =>
    obtain ⟨hsound, hdoes⟩ := hbegin.idle hpending hspares hkept hidles
    exact ⟨hsound, hdoes.of_begin hpending⟩
  | @calls t _ _ _ hspares hkept hkey hleads =>
    rw [← v.missed_begin now] at hkey
    have htakes : Takes settings now (v.begin now) t :=
      ⟨h.fits, hbegin.enabled, hpending, hspares, hkept, hkey⟩
    have hleads' : t.Leads now ((v.begin now).notes ++ added) s o := by
      rw [show (v.begin now).notes = [] from hnotes]
      exact hleads
    exact ⟨htakes.sound hleads', (htakes.does hleads').of_begin hpending⟩

theorem Sound.resume (h : v.Sound settings) {d : Dispatch ε} (hd : v.phase = .inFlight d)
    {out : Service τ × Outcome ε} (hout : v.service.resume now d = out) :
    let v' := v.settle out (v.service.resumeNotes now d)
    v'.Sound settings ∧ Does settings now v v' := by
  obtain ⟨s, o⟩ := out
  cases hlive : d.stage.isLive with
  | true =>
    obtain ⟨htakes, hkeyed, htracks⟩ := h.takes now hd hlive
    have hleads := Service.leads_resume hlive hkeyed htakes.pending htracks hout
    exact ⟨htakes.sound hleads, htakes.does hleads⟩
  | false =>
    obtain ⟨hidles, hnone⟩ := Service.idles_resume hlive hout
    rw [hnone]
    exact h.idle (h.inFlight d hd).1 (.of_pool rfl) rfl hidles

theorem Sound.answer (h : v.Sound settings) {d : Dispatch ε} (hd : v.phase = .inFlight d) {n : Nat}
    {out : Service τ × Outcome ε} (hout : v.service.answer now d n = out) :
    let v' := v.settle out (v.service.answerNotes now d n)
    v'.Sound settings ∧ Does settings now v v' := by
  obtain ⟨s, o⟩ := out
  cases hlive : d.stage.isLive with
  | true =>
    obtain ⟨htakes, hkeyed, htracks⟩ := h.takes now hd hlive
    have hleads := Service.leads_answer hkeyed htakes.pending htracks hout
    exact ⟨htakes.sound hleads, htakes.does hleads⟩
  | false =>
    obtain ⟨hidles, hnone⟩ := Service.idles_answer hlive hout
    rw [hnone]
    exact h.idle (h.inFlight d hd).1 (.of_pool rfl) rfl hidles

theorem Sound.cancel (h : v.Sound settings) {d : Dispatch ε} (hd : v.phase = .inFlight d) :
    let v' : Visit τ ε := { v with service := v.service.cancel d, phase := .dropped }
    v'.Sound settings ∧ Does settings now v v' := by
  have hspares : v.service.dispatcher.Spares now v.request (v.service.cancel d).dispatcher :=
    .of_pool rfl
  refine ⟨sound_of_over (hspares.fits h.fits) h.enabled rfl, .spares hspares ?_ fun hworthy => ?_⟩
  · exact (d.turn v.service).kept_leave
  · exact absurd hworthy (not_worthy_of_pending (h.inFlight d hd).1)

/-- What a move of the dispatch itself does. -/
theorem Sound.own (h : v.Sound settings) (now : Instant) (o : Own) :
    (v.own now o).Sound settings ∧ Does settings now v (v.own now o) := by
  cases hphase : v.phase with
  | due =>
    cases o with
    | start =>
      simp only [Visit.own, hphase]
      exact h.start hphase rfl
    | _ =>
      simp only [Visit.own, hphase]
      exact h.stay
  | inFlight d =>
    cases o with
    | start =>
      simp only [Visit.own, hphase]
      exact h.stay
    | resume =>
      simp only [Visit.own, hphase]
      exact h.resume hphase rfl
    | answer n =>
      simp only [Visit.own, hphase]
      exact h.answer hphase rfl
    | cancel =>
      simp only [Visit.own, hphase]
      exact h.cancel hphase
  | _ =>
    have hstay : v.own now o = v := by
      cases o <;> simp only [Visit.own, hphase]
    rw [hstay]
    exact h.stay

omit [Transport τ] in
/-- What others do leaves the dispatch as it is. -/
theorem Sound.moved (h : v.Sound settings) (hfits : s.dispatcher.Fits settings) :
    { v with service := s }.Sound settings := by
  refine ⟨hfits, h.enabled, h.due, fun d hd => ?_⟩
  obtain ⟨hpending, hstands⟩ := h.inFlight d hd
  exact ⟨hpending, fun hlive => ⟨(hstands hlive).key, (hstands hlive).tracks⟩⟩

theorem Sound.act (h : v.Sound settings) (move : Move settings τ) :
    (v.act move).Sound settings := by
  cases move with
  | own now o => exact (h.own now o).1
  | others o => exact h.moved (o.fits v.service h.fits)

theorem Sound.run (h : v.Sound settings) (moves : List (Move settings τ)) :
    (v.run moves).Sound settings := by
  induction moves generalizing v with
  | nil => exact h
  | cons move rest ih => exact ih (h.act move)

omit [Transport τ] in
theorem sound_opening (hfits : s.dispatcher.Fits settings) (request : Request)
    (program : Program ε) : (opening s request program).Sound settings := by
  refine ⟨hfits, ?_, fun _ => rfl, ?_⟩
  · rintro ⟨-, _, _, hbegan, -⟩
    cases hbegan
  · intro d hd
    cases hd

end Visit

/-- Another dispatch is one of the others. -/
def Others.move {τ ε : Type} [Transport τ] {settings : Settings} {v : Visit τ ε}
    (h : v.Sound settings) (now : Instant) (o : Visit.Own) : Others settings τ where
  change s := ({ v with service := s }.own now o).service
  fits _ hfits := ((h.moved hfits).own now o).1.fits

end Sluice
