import Sluice.Proofs.Serving.Journaled

/-!
# Hits repeat what was kept

An answer that comes from the cache is what the transport was given for the last page that was kept
under the path, and whatever the handler would have done makes no difference to it.
-/
namespace Sluice

variable {τ ε : Type}

/-! ## Whose answers come from the cache -/

def Outcome.FromCache : Outcome ε → Prop
  | .inFlight d => d.stage.isReplay = true
  | .returned (.ok served) => served.source = .cache
  | _ => False

namespace Journaled

/-- The answer to the request comes from the cache: it did, or it is on its way. -/
def FromCache (j : Journaled τ ε) (id : Nat) : Prop :=
  (∃ f, j.flights.find? id = some f ∧ f.dispatch.stage.isReplay = true) ∨
    ∃ a ∈ j.journal, a.id = id ∧ a.served.source = .cache

theorem fromCache_of_erase (j : Journaled τ ε) {id other : Nat}
    (h : { j with flights := j.flights.erase other }.FromCache id) : j.FromCache id := by
  rcases h with ⟨f, hf, hstage⟩ | hjournal
  · exact .inl ⟨f, (Table.of_find?_erase hf).2, hstage⟩
  · exact .inr hjournal

end Journaled

variable [Transport τ] [Transport.Orderly τ]
open Transport.Faithful Transport.Orderly

/-! ## A dispatcher that was just built -/

/-- A dispatcher that was just built, before any request. -/
def Journaled.opening (d : Dispatcher) (l : Link τ) : Journaled τ ε where
  service := ⟨d, l⟩

theorem Journaled.sound_opening {settings : Settings} {context : BuildContext} {l l' : Link τ}
    {d : Dispatcher} {interval : Option Duration}
    (h : Dispatcher.build settings context l = (l', .ok (d, interval))) :
    (opening d l' : Journaled τ ε).Sound settings.cache.ttl := by
  obtain ⟨-, ⟨l₁, hpool, htransport⟩, hcache, -⟩ := Dispatcher.builds_build h
  refine ⟨(Pool.tidy_buildPool hpool).sublist (.refl _) fun g hg => ?_, fun _ _ hf => ?_,
    fun _ _ _ _ hf => ?_, fun c hc => ?_, fun _ ha => ?_⟩
  · simp only [opening, htransport]
    exact hg
  · cases hf
  · cases hf
  · dsimp only [opening] at hc
    rw [hcache] at hc
    split at hc
    · cases hc
      exact ⟨rfl, nofun⟩
    · cases hc
  · cases ha

/-! ## What the handler has to do with it -/

theorem Turn.Comes.not_fromCache {now : Instant} {t : Turn τ} {s : Service τ} {o : Outcome ε}
    (h : t.Comes now s o) : ¬ o.FromCache := by
  cases h with
  | waits _ hstage => simp [Outcome.FromCache, hstage]
  | failed => exact id
  | crashed => exact id
  | overflowed => exact id
  | answered => nofun
  | kept => nofun

namespace Journaled

section

variable {j : Journaled τ ε} {id other : Nat} {ticket : Ticket} {s : Service τ} {o : Outcome ε}
  {ttl : Duration} {handler handler' : Nat → Request → Program ε} {happening : Happening τ}

/-- A settlement makes a difference to its own request only. -/
theorem fromCache_settle {out : Service τ × Outcome ε} (hid : ticket.id = other)
    (h : (j.settle other ticket out).FromCache id) :
    j.FromCache id ∨ id = other ∧ out.2.FromCache := by
  rcases out with ⟨s, (e | served) | message | dispatch⟩
  · exact .inl (j.fromCache_of_erase h)
  · rcases h with hflight | ⟨a, ha, ha', hsource⟩
    · exact .inl (j.fromCache_of_erase (.inl hflight))
    · rcases List.mem_append.1 ha with ha | ha
      · exact .inl (.inr ⟨a, ha, ha', hsource⟩)
      · obtain rfl := List.mem_singleton.1 ha
        exact .inr ⟨ha'.symm.trans hid, hsource⟩
  · exact .inl (j.fromCache_of_erase h)
  · rcases h with ⟨f, hf, hstage⟩ | hjournal
    · rcases Table.of_find?_insert hf with ⟨hid, rfl⟩ | ⟨_, hf⟩
      · exact .inr ⟨hid, hstage⟩
      · exact .inl (.inl ⟨f, hf, hstage⟩)
    · exact .inl (.inr hjournal)

theorem Sound.lt_of_fromCache (h : j.Sound ttl) (hfrom : j.FromCache id) : id < j.started := by
  rcases hfrom with ⟨f, hf, -⟩ | ⟨a, ha, rfl, -⟩
  · obtain ⟨rfl, hflies⟩ := h.flies id f hf
    exact hflies.fits.id_lt
  · exact (h.notes a ha).id_lt

/-- A dispatch in flight does not come to take its answer from the cache. -/
theorem Sound.fromCache_carries (h : j.Sound ttl) {f : Flight ε Ticket}
    (hf : j.flights.find? other = some f)
    (hcarries : (f.dispatch.turn j.service).Carries j.now f.dispatch.stage s o)
    (hfrom : (j.settle other f.tag (s, o)).FromCache id) : j.FromCache id := by
  rcases fromCache_settle (h.flies other f hf).1 hfrom with hfrom | ⟨rfl, ho⟩
  · exact hfrom
  · refine .inl ⟨f, hf, ?_⟩
    revert hcarries
    cases f.dispatch.stage with
    | replaying => exact fun _ => rfl
    | _ => exact fun hcomes => absurd ho hcomes.not_fromCache

/-- An answer comes from the cache if it did before, or if its request has just come. -/
theorem Sound.fromCache_act (h : j.Sound ttl) (hfrom : (j.act handler happening).FromCache id) :
    j.FromCache id ∨ ∃ request, happening = .start request ∧ id = j.started := by
  cases happening with
  | start request =>
    rw [act_start] at hfrom
    have hid : (j.ticket request).id = j.started := rfl
    exact (fromCache_settle hid hfrom).imp_right fun hnew => ⟨request, rfl, hnew.1⟩
  | resume other =>
    rw [act_resume] at hfrom
    split at hfrom
    · exact .inl hfrom
    · rename_i f hf
      exact .inl (h.fromCache_carries hf (Service.carries_resume (h.flies other f hf).2.holds rfl)
        hfrom)
  | answer other n =>
    rw [act_answer] at hfrom
    split at hfrom
    · exact .inl hfrom
    · rename_i f hf
      exact .inl (h.fromCache_carries hf (Service.carries_answer (h.flies other f hf).2.holds rfl)
        hfrom)
  | cancel other =>
    rw [act_cancel] at hfrom
    split at hfrom
    · exact .inl hfrom
    · exact .inl (j.fromCache_of_erase hfrom)
  | advance d => exact .inl hfrom
  | sweep => exact .inl hfrom
  | outside o => exact .inl hfrom

/-- The handler is asked only when a request comes. -/
theorem act_eq_of_agree
    (hagree : ∀ request, happening = .start request → handler' j.started = handler j.started) :
    j.act handler' happening = j.act handler happening := by
  cases happening with
  | start request => simp only [act_start, hagree request rfl]
  | _ => rfl

/-- Where the answer to a request that comes is taken from the cache, the handler is not asked. -/
theorem Sound.act_start_eq_of_fromCache (h : j.Sound ttl)
    (hpatient : ∀ id request, (handler id request).Patient) {request : Request}
    (hfrom : (j.act handler (.start request)).FromCache j.started) :
    j.act handler' (.start request) = j.act handler (.start request) := by
  have hstarts := h.starts (hpatient j.started request) request
  have hid : (j.ticket request).id = j.started := rfl
  rw [act_start] at hfrom
  rcases fromCache_settle hid hfrom with hfrom | ⟨-, ho⟩
  · exact absurd (h.lt_of_fromCache hfrom) (Nat.lt_irrefl _)
  · rw [act_start, act_start]
    revert ho hstarts
    rcases j.service.start j.now request (handler j.started request) with ⟨s, o⟩
    intro hstarts ho
    cases hstarts with
    | refused => exact False.elim ho
    | hit _ _ _ _ _ _ hsame => rw [hsame]
    | called _ _ hcomes => exact absurd ho hcomes.not_fromCache

/-- One step back: what comes from the cache was taken up from it, and the handler was not asked. -/
theorem Sound.act_eq_of_fromCache (h : j.Sound ttl)
    (hpatient : ∀ id request, (handler id request).Patient)
    (hagree : ∀ other, other ≠ id → handler' other = handler other)
    (hfrom : (j.act handler happening).FromCache id ∨ (j.act handler happening).started ≤ id) :
    j.act handler' happening = j.act handler happening ∧ (j.FromCache id ∨ j.started ≤ id) := by
  rcases hfrom with hfrom | hnew
  · rcases h.fromCache_act hfrom with hold | ⟨request, rfl, rfl⟩
    · have hne := Nat.ne_of_gt (h.lt_of_fromCache hold)
      exact ⟨act_eq_of_agree fun _ _ => hagree j.started hne, .inl hold⟩
    · exact ⟨h.act_start_eq_of_fromCache hpatient hfrom, .inr (Nat.le_refl _)⟩
  · refine ⟨act_eq_of_agree ?_, .inr (Nat.le_trans (started_le_act ..) hnew)⟩
    rintro request rfl
    rw [started_act_start] at hnew
    exact hagree j.started (Nat.ne_of_lt hnew)

/-- However the handler would have dealt with a request whose answer comes from the cache, the run
is the same. -/
theorem Sound.run_eq_of_fromCache (h : j.Sound ttl)
    (hpatient : ∀ id request, (handler id request).Patient)
    (hagree : ∀ other, other ≠ id → handler' other = handler other)
    {happenings : List (Happening τ)}
    (hfrom : (j.run handler happenings).FromCache id ∨
      (j.run handler happenings).started ≤ id) :
    j.run handler' happenings = j.run handler happenings ∧
      (j.FromCache id ∨ j.started ≤ id) := by
  -- what holds at the end is carried back, one happening at a time
  induction happenings generalizing j with
  | nil => exact ⟨rfl, hfrom⟩
  | cons happening rest ih =>
    obtain ⟨hrest, hfrom₁⟩ := ih (h.act hpatient happening) hfrom
    obtain ⟨hact, hfrom₀⟩ := h.act_eq_of_fromCache hpatient hagree hfrom₁
    refine ⟨?_, hfrom₀⟩
    show (j.act handler' happening).run handler' rest = _
    rw [hact]
    exact hrest

end

/-- A hit repeats exactly what an earlier request was answered with. Whatever comes in whatever
order, an answer from the cache has nothing to do with the handler, it is one to a GET, and of the
answers known when it was looked up, the last that was kept under its path is a handler's page with
status 200, is younger than the cache allows, and was received by the transport with the same
status, the same fields in the same order and the same body. -/
theorem received_eq_lastKept {settings : Settings} {context : BuildContext} {l l' : Link τ}
    {d : Dispatcher} {interval : Option Duration}
    (hbuild : Dispatcher.build settings context l = (l', .ok (d, interval)))
    {handler : Nat → Request → Program ε}
    (hpatient : ∀ id request, (handler id request).Patient) (happenings : List (Happening τ))
    {a : Answered} (ha : a ∈ ((opening d l').run handler happenings).journal)
    (hcache : a.served.source = .cache) :
    let j := (opening d l').run handler happenings
    (∀ handler', (∀ other, other ≠ a.id → handler' other = handler other) →
      (opening d l').run handler' happenings = j) ∧
    a.request.method = .get ∧
    ∃ e, lastKept a.request.path (j.journal.take a.known) = some e ∧
      e.served.source = .handler ∧ e.request.method = .get ∧ e.request.path = a.request.path ∧
      e.served.status = .ok ∧ e.ended ≤ a.begun ∧ a.begun < e.ended.after settings.cache.ttl ∧
      a.received = e.received := by
  intro j
  have hopening : (opening d l' : Journaled τ ε).Sound settings.cache.ttl := sound_opening hbuild
  have hsound : j.Sound settings.cache.ttl := hopening.run hpatient happenings
  have hfrom : j.FromCache a.id := .inr ⟨a, ha, rfl, hcache⟩
  obtain ⟨hmethod, e, hlast, hpage, hbefore, hfresh, hreceived⟩ := (hsound.notes a ha).echoes hcache
  refine ⟨fun handler' hagree => ?_, hmethod, e, hlast, hpage.handled, hpage.method_eq,
    hpage.path_eq, hpage.ok, hbefore, hfresh, hreceived⟩
  exact (hopening.run_eq_of_fromCache hpatient hagree (.inl hfrom)).1

/-- A buffer of four bytes. -/
def narrowLink : Link Loopback :=
  { transport := { capacity := some 4, routing := some .perHandle } }

/-- The first request gets a page, and every other one would get no answer. -/
def pageOnce : Nat → Request → Program Empty
  | 0, _ => .write "<p>hi</p>".toUTF8 none fun _ => .finish
  | _, _ => .fail (.described "once only")

/-- One path is asked for twice, and each time the buffer has to be drained twice. -/
def twice : List (Happening Loopback) :=
  [.start ⟨.get, "/p"⟩, .outside (.drain ⟨1⟩), .resume 0, .outside (.drain ⟨1⟩), .resume 0,
    .advance (.ofSecs 299), .start ⟨.get, "/p"⟩, .outside (.drain ⟨1⟩), .resume 1,
    .outside (.drain ⟨1⟩), .resume 1]

theorem received_eq_lastKept_twice :
    let d : Dispatcher := ⟨.shared, { capacity := 10 }, some (.ofSettings {}), {}⟩
    let l := narrowLink.report (.dispatcherBuilt 10 true 65536)
    let j := (opening d l).run pageOnce twice
    ∃ a ∈ j.journal, a.served.source = .cache ∧ a.received.body = "<p>hi</p>".toUTF8 ∧
      ∃ e ∈ j.journal, e.served.source = .handler ∧ a.received = e.received := by
  intro d l j
  have hbuild : Dispatcher.build {} {} narrowLink = (l, .ok (d, none)) := rfl
  have hpatient : ∀ id request, (pageOnce id request).Patient := by
    intro id request
    cases id with
    | zero => exact ⟨rfl, fun _ => trivial⟩
    | succ id => exact trivial
  have hhit : ∃ a ∈ j.journal, a.served.source = .cache ∧
      a.received.body = "<p>hi</p>".toUTF8 := by decide +kernel
  obtain ⟨a, ha, hcache, hbody⟩ := hhit
  obtain ⟨-, -, e, hlast, hsource, -, -, -, -, -, hreceived⟩ :=
    received_eq_lastKept hbuild hpatient twice ha hcache
  exact ⟨a, ha, hcache, hbody, e, List.mem_of_mem_take (mem_of_lastKept hlast).1, hsource,
    hreceived⟩

/-- The handler drops its first write when five milliseconds are over, and its second one
succeeds. -/
def impatient : Nat → Request → Program Empty := fun _ _ =>
  .write "abcdef".toUTF8 (some (.ofMillis 5)) fun _ =>
    .sleep (.ofMillis 1) (.write "gh".toUTF8 none fun _ => .finish)

/-- Two requests for one path, of which the second is a hit. -/
def dropped : List (Happening Loopback) :=
  [.start ⟨.get, "/p"⟩, .advance (.ofMillis 5), .resume 0, .outside (.drain ⟨1⟩),
    .advance (.ofMillis 1), .resume 0, .outside (.drain ⟨1⟩), .start ⟨.get, "/p"⟩]

/-- It takes a handler that awaits its writes. Where one is dropped with part of its body accepted,
what is kept has a hole, and so has every hit. -/
theorem received_ne_lastKept_dropped :
    let d : Dispatcher := ⟨.shared, { capacity := 10 }, some (.ofSettings {}), {}⟩
    let l := narrowLink.report (.dispatcherBuilt 10 true 65536)
    let j := (opening d l).run impatient dropped
    ∃ e ∈ j.journal, e.served.source = .handler ∧ e.kept = some "/p" ∧
      e.received.body = "abcdgh".toUTF8 ∧
      ∃ a ∈ j.journal, a.served.source = .cache ∧ a.request.path = "/p" ∧
        a.received.body = "gh".toUTF8 := by
  decide +kernel

end Journaled

end Sluice
