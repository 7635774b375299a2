import Sluice.Proofs.Serving.Drafted
import Sluice.Proofs.Serving.Hits

/-!
# Each dispatch answers its own request

A dispatcher at work on an obliging transport, with steady handlers and no answer from the cache.
What a dispatch comes to is what its handler makes of a blank draft, whatever others do meanwhile:
theirs are other handles, and its own it has to itself from the moment its request is taken up.
-/
namespace Sluice

variable {τ ε : Type} [Transport τ]

/-- What is known of the settings of a dispatcher that was built. -/
structure Dispatcher.Built (settings : Settings) (d : Dispatcher) : Prop where
  settings_eq : d.settings = settings
  chunkSize_ne : settings.writer.chunkSize ≠ 0
  cache : settings.cache.enabled = false → d.cache = none

theorem Dispatcher.built_build {settings : Settings}
    {context : BuildContext} {l l' : Link τ} {d : Dispatcher} {interval : Option Duration}
    (h : build settings context l = (l', .ok (d, interval))) : Built settings d := by
  have hchunk : settings.validate = .ok () → settings.writer.chunkSize ≠ 0 := by
    intro hvalid hzero
    simp [Settings.validate, WriterSettings.validate, hzero] at hvalid
    cases hvalid
  obtain ⟨hvalid, -, hcache, hsettings⟩ := builds_build h
  exact ⟨hsettings, hchunk hvalid, fun hdisabled => by simp [hcache, hdisabled]⟩

/-- The turn in which a request is taken up that is not looked for in the cache. -/
def Service.opened? (s : Service τ) : Option (Turn τ) :=
  match s.dispatcher.pool.checkout s.link with
  | (_, _, .error _) => none
  | (pool, link, .ok handle) =>
    let writer : Writer :=
      { handle, board := s.dispatcher.board, settings := s.dispatcher.settings.writer }
    some ⟨{ s.dispatcher with pool }, ⟨writer, link⟩, none⟩

/-- Such a request is handed to its handler at once. -/
theorem Service.start_of_opened? {s : Service τ} {t : Turn τ} {now : Instant} {request : Request}
    (huncached : s.dispatcher.cache = none ∨ request.cacheKey? = none) (ht : s.opened? = some t)
    (program : Program ε) : s.start now request program = t.run now program := by
  unfold opened? at ht
  split at ht
  · cases ht
  · rename_i pool link handle hcheckout
    cases ht
    simp only [start, hcheckout]
    rcases huncached with hcache | hkey
    · rw [hcache]
    · rw [hkey]
      cases s.dispatcher.cache <;> rfl

variable [Transport.Obliging τ]
open Transport.Faithful

/-- What such a turn begins with. -/
structure Service.Opened (s : Service τ) (t : Turn τ) : Prop where
  checks : s.dispatcher.pool.Checks s.link t.dispatcher.pool t.session.link
    (.ok t.session.writer.handle)
  dispatcher_eq : t.dispatcher = { s.dispatcher with pool := t.dispatcher.pool }
  settings_eq : t.session.writer.settings = s.dispatcher.settings.writer
  key_eq : t.key = none
  draft_eq : t.session.draft = .blank t.session.received

theorem Service.opened_of_opened? {s : Service τ} {t : Turn τ} (ht : s.opened? = some t) :
    s.Opened t := by
  have hchecks := s.dispatcher.pool.checks_checkout s.link
  unfold opened? at ht
  split at ht
  · cases ht
  · rename_i pool link handle hcheckout
    cases ht
    rw [hcheckout] at hchecks
    exact ⟨hchecks, rfl, rfl, rfl, rfl⟩

/-- A dispatch at the moment at which it is over. -/
structure Over where
  /-- The number of its request. -/
  id : Nat
  handle : HandleId
  verdict : Verdict
  /-- What the transport holds on its handle then. -/
  received : Received
deriving DecidableEq

namespace Journaled

variable (handler : Nat → Request → Program ε)

/-- The handle of the dispatch that has a turn. A request for which there is none is not
taken up. -/
def handle? (j : Journaled τ ε) : Happening τ → Option HandleId
  | .start _ => j.service.opened?.map fun t => t.session.writer.handle
  | .resume id | .answer id _ => (j.flights.find? id).map fun f => f.dispatch.writer.handle
  | _ => none

/-- The turn that a happening gives to a dispatch: the number of its request, its handle, and how
far it came. -/
def turnOn? (j : Journaled τ ε) (happening : Happening τ) :
    Option (Nat × HandleId × Service τ × Outcome ε) := do
  let handle ← j.handle? happening
  let (id, _, out) ← j.toDispatches.turn? (j.move handler happening)
  return (id, handle, out)

/-- The dispatch that is over with this happening, if one is. -/
def over? (j : Journaled τ ε) (happening : Happening τ) : Option Over := do
  let (id, handle, s, o) ← j.turnOn? handler happening
  let verdict ← o.verdict?
  return ⟨id, handle, verdict, received s.link.transport handle⟩

/-- In the course of these happenings the request with this number came, and then the transport held
this on the handle. -/
def Came (first : Journaled τ ε) (happenings : List (Happening τ)) (id : Nat) (handle : HandleId)
    (request : Request) (before : Received) : Prop :=
  ∃ earlier later, happenings = earlier ++ .start request :: later ∧
    (first.run handler earlier).started = id ∧
    received (first.run handler earlier).service.link.transport handle = before

variable {handler} {first j : Journaled τ ε} {happenings : List (Happening τ)}

theorem turnOn?_start (j : Journaled τ ε) (request : Request) :
    j.turnOn? handler (.start request) = j.service.opened?.map fun t =>
      (j.started, t.session.writer.handle,
        j.service.start j.now request (handler j.started request)) := by
  unfold turnOn? handle?
  cases j.service.opened? <;> rfl

theorem turnOn?_resume (j : Journaled τ ε) (id : Nat) :
    j.turnOn? handler (.resume id) = (j.flights.find? id).map fun f =>
      (id, f.dispatch.writer.handle, j.service.resume j.now f.dispatch) := by
  simp only [turnOn?, handle?, move, Dispatches.turn?]
  cases j.flights.find? id <;> rfl

theorem turnOn?_answer (j : Journaled τ ε) (id n : Nat) :
    j.turnOn? handler (.answer id n) = (j.flights.find? id).map fun f =>
      (id, f.dispatch.writer.handle, j.service.answer j.now f.dispatch n) := by
  simp only [turnOn?, handle?, move, Dispatches.turn?]
  cases j.flights.find? id <;> rfl

theorem over?_eq_some_iff {x : Happening τ} {ending : Over} :
    j.over? handler x = some ending ↔
      ∃ s o, j.turnOn? handler x = some (ending.id, ending.handle, s, o) ∧
        o.verdict? = some ending.verdict ∧
        received s.link.transport ending.handle = ending.received := by
  unfold over?
  constructor
  · intro h
    obtain ⟨⟨id, handle, s, o⟩, hturn, h⟩ := Option.bind_eq_some_iff.1 h
    obtain ⟨verdict, hverdict, h⟩ := Option.bind_eq_some_iff.1 h
    cases h
    exact ⟨s, o, hturn, hverdict, rfl⟩
  · rintro ⟨s, o, hturn, hverdict, hreceived⟩
    simp [hturn, hverdict, hreceived]

theorem run_concat (first : Journaled τ ε) (happenings : List (Happening τ)) (x : Happening τ) :
    first.run handler (happenings ++ [x]) = (first.run handler happenings).act handler x := by
  simp [run]

theorem Came.concat {id : Nat} {handle : HandleId} {request : Request} {before : Received}
    (h : Came handler first happenings id handle request before) (x : Happening τ) :
    Came handler first (happenings ++ [x]) id handle request before := by
  obtain ⟨earlier, later, rfl, hid, hbefore⟩ := h
  exact ⟨earlier, later ++ [x], by simp, hid, hbefore⟩

end Journaled

/-! ## What the others notice of a turn -/

/-- What a dispatch has on its way is not touched by what others do. -/
theorem Stage.Drafts.of_received {stage : Stage ε} {s s' : Session τ} {goal : Draft × Verdict}
    (h : stage.Drafts s goal) (hwriter : s'.writer = s.writer)
    (hreceived : s'.received = s.received) : stage.Drafts s' goal := by
  have hdraft : s'.draft = s.draft := by
    rw [Session.draft, hwriter, hreceived]
    rfl
  cases stage with
  | writing write patience next =>
    obtain ⟨hpatience, hsteady, out, ⟨hlimit, hle, hout⟩, hgoal⟩ := h
    exact ⟨hpatience, hsteady, out, ⟨hlimit, hle, by rw [hdraft, hout]⟩, hgoal⟩
  | sleeping wake next => exact ⟨h.1, by rw [hdraft, h.2]⟩
  | asking question next => exact ⟨h.1, by rw [hdraft, h.2]⟩
  | _ => exact h

namespace Turn

variable {t : Turn τ} {s : Service τ} {o : Outcome ε} {goal : Draft × Verdict}

/-- A turn changes the response on its own handle only. -/
theorem Brings.frames (h : t.Brings goal s o) :
    t.session.link.Frames t.session.writer.handle s.link := by
  cases h with
  | waits hgoes => exact hgoes.session.link.toFrames
  | ended hgoes hleft => exact hgoes.session.link.toFrames.trans hleft.link.tends.toFrames

/-- It has no business with the cache. -/
theorem Brings.dispatcher_eq (h : t.Brings goal s o) :
    s.dispatcher = { t.dispatcher with pool := s.dispatcher.pool } := by
  cases h with
  | waits hgoes =>
    rw [← hgoes.dispatcher_eq]
  | ended hgoes hleft =>
    rw [← hgoes.dispatcher_eq]
    exact hleft.dispatcher_eq

/-- What the transport holds at the end is what the handler made. -/
theorem Brings.over_eq (h : t.Brings goal s o) {verdict : Verdict}
    (ho : o.verdict? = some verdict) :
    verdict = goal.2 ∧ received s.link.transport t.session.writer.handle = goal.1.received := by
  cases h with
  | waits => cases ho
  | @ended t' _ _ hgoes hleft hdraft hverdict =>
    rw [hverdict] at ho
    cases ho
    refine ⟨rfl, ?_⟩
    rw [hleft.link.received_eq, ← hgoes.session.handle_eq, ← hdraft]
    rfl

end Turn

/-! ## What holds at every moment -/

namespace Journaled

/-- After these happenings each dispatch in flight is on the way to what its handler makes of its
request. -/
structure Composes (handler : Nat → Request → Program ε) (first : Journaled τ ε)
    (happenings : List (Happening τ)) (j : Journaled τ ε) : Prop where
  run_eq : first.run handler happenings = j
  settings_eq : j.service.dispatcher.settings = first.service.dispatcher.settings
  cache : first.service.dispatcher.cache = none → j.service.dispatcher.cache = none
  flying : ∀ id f, j.flights.find? id = some f →
    (f.dispatch.turn j.service).Plain ∧ ∃ request before,
      Came handler first happenings id f.dispatch.writer.handle request before ∧
        f.dispatch.stage.Drafts (⟨f.dispatch.writer, j.service.link⟩ : Session τ)
          ((Draft.blank before).run (handler id request))

/-- From the first moment to the second no dispatch had a turn, and no response changed. -/
structure Idle (j j' : Journaled τ ε) : Prop where
  settings_eq : j'.service.dispatcher.settings = j.service.dispatcher.settings
  cache : j.service.dispatcher.cache = none → j'.service.dispatcher.cache = none
  flights : ∀ id f, j'.flights.find? id = some f → j.flights.find? id = some f
  link : j.service.link.Rests j'.service.link

/-- A turn of the dispatch with this number begins. -/
structure Admits (j : Journaled τ ε) (id : Nat) (t : Turn τ) : Prop where
  settings_eq : t.dispatcher.settings = j.service.dispatcher.settings
  cache : j.service.dispatcher.cache = none → t.dispatcher.cache = none
  rests : j.service.link.Rests t.session.link
  apart : ∀ other f, j.flights.find? other = some f → other ≠ id →
    f.dispatch.writer.handle ≠ t.session.writer.handle

/-- The turn that a happening gives to the dispatch with this number. -/
structure Gives (handler : Nat → Request → Program ε) (first : Journaled τ ε)
    (happenings : List (Happening τ)) (j : Journaled τ ε) (x : Happening τ) (id : Nat) (t : Turn τ)
    (s : Service τ) (o : Outcome ε) : Prop where
  admits : j.Admits id t
  settled : ∃ (base : Journaled τ ε) (ticket : Ticket), base.flights = j.flights ∧ ticket.id = id ∧
    j.act handler x = base.settle id ticket (s, o)
  brings : ∃ request before,
    Came handler first (happenings ++ [x]) id t.session.writer.handle request before ∧
      t.Brings ((Draft.blank before).run (handler id request)) s o

section

variable {handler : Nat → Request → Program ε} {first j j' : Journaled τ ε}
  {happenings : List (Happening τ)} {x : Happening τ} {ttl : Duration} {id : Nat} {t : Turn τ}
  {s : Service τ} {o : Outcome ε}

theorem Idle.refl (j : Journaled τ ε) : Idle j j := ⟨rfl, fun h => h, fun _ _ h => h, .refl _⟩

theorem idle_purge (j : Journaled τ ε) : Idle j { j with service := j.service.purge j.now } := by
  unfold Service.purge
  split
  · exact .refl j
  · rename_i cache hcache
    refine ⟨rfl, fun hnone => ?_, fun _ _ h => h,
      j.service.link.rests_reportAll (cache.keptKey?_purge j.now)⟩
    rw [hcache] at hnone
    cases hnone

/-- A happening that gives no turn. -/
theorem idle_act (hx : j.turnOn? handler x = none) : Idle j (j.act handler x) := by
  cases x with
  | start request =>
    have hchecks := j.service.dispatcher.pool.checks_checkout j.service.link
    rw [turnOn?_start, Option.map_eq_none_iff, Service.opened?] at hx
    rcases hcheckout : j.service.dispatcher.pool.checkout j.service.link with
      ⟨pool, link, e | handle⟩ <;> rw [hcheckout] at hx hchecks
    · simp only [act_start, Service.start, hcheckout]
      cases hchecks with
      | refused hrests => exact ⟨rfl, fun h => h, fun _ _ hf => (Table.of_find?_erase hf).2, hrests⟩
    · cases hx
  | resume id =>
    rw [turnOn?_resume, Option.map_eq_none_iff] at hx
    simp only [act_resume, hx]
    exact .refl j
  | answer id n =>
    rw [turnOn?_answer, Option.map_eq_none_iff] at hx
    simp only [act_answer, hx]
    exact .refl j
  | cancel id =>
    rw [act_cancel]
    cases hf : j.flights.find? id with
    | none => exact .refl j
    | some f =>
      have hleft := (f.dispatch.turn j.service).left_leave
      exact ⟨rfl, fun h => h, fun _ _ hf => (Table.of_find?_erase hf).2, hleft.link⟩
  | advance d => exact ⟨rfl, fun h => h, fun _ _ h => h, .refl _⟩
  | sweep => exact idle_purge j
  | outside o => exact ⟨rfl, fun h => h, fun _ _ h => h, o.rests j.service.link⟩

/-- No dispatch had a turn. -/
theorem Composes.idle (h : Composes handler first happenings j)
    (hidle : Idle j (j.act handler x)) :
    Composes handler first (happenings ++ [x]) (j.act handler x) := by
  refine ⟨?_, hidle.settings_eq.trans h.settings_eq, fun hnone => hidle.cache (h.cache hnone),
    fun id f hf => ?_⟩
  · rw [run_concat, h.run_eq]
  · obtain ⟨hplain, request, before, hcame, hdrafts⟩ := h.flying id f (hidle.flights id f hf)
    exact ⟨⟨hplain.key_eq, hplain.unhurried⟩, request, before, hcame.concat x,
      hdrafts.of_received rfl (hidle.link.received_eq _)⟩

/-- One dispatch had a turn. -/
theorem Composes.gives (h : Composes handler first happenings j)
    (hgives : Gives handler first happenings j x id t s o) :
    Composes handler first (happenings ++ [x]) (j.act handler x) := by
  obtain ⟨base, ticket, hbase, rfl, hact⟩ := hgives.settled
  obtain ⟨request, before, hcame, hbrings⟩ := hgives.brings
  have hadmits := hgives.admits
  have hdispatcher := hbrings.dispatcher_eq
  rw [hact]
  refine ⟨?_, ?_, fun hnone => ?_, fun other f hf => ?_⟩
  · rw [run_concat, h.run_eq, hact]
  · rw [toDispatches_settle, Dispatches.service_settle, hdispatcher]
    exact hadmits.settings_eq.trans h.settings_eq
  · rw [toDispatches_settle, Dispatches.service_settle, hdispatcher]
    exact hadmits.cache (h.cache hnone)
  · rw [toDispatches_settle, Dispatches.service_settle]
    rcases Dispatches.of_find?_settle hf with ⟨rfl, -, ho⟩ | ⟨hne, hold⟩
    · cases hbrings with
      | waits hgoes hplain hdrafts =>
        rw [← Outcome.inFlight.inj ho]
        rw [← hgoes.session.handle_eq] at hcame
        exact ⟨⟨hplain.key_eq, hplain.unhurried⟩, request, before, hcame, hdrafts⟩
      | ended _ _ _ hverdict =>
        rw [ho] at hverdict
        cases hverdict
    · rw [hbase] at hold
      obtain ⟨hplain, request', before', hcame', hdrafts⟩ := h.flying other f hold
      refine ⟨⟨hplain.key_eq, hplain.unhurried⟩, request', before', hcame'.concat x,
        hdrafts.of_received rfl ?_⟩
      have hframes := hbrings.frames.received_ne _ (hadmits.apart other f hold hne)
      exact hframes.trans (hadmits.rests.received_eq _)

/-! ## Happenings -/

/-- A dispatch in flight has a turn. -/
theorem Composes.gives_flight (h : Composes handler first happenings j) (hsound : j.Sound ttl)
    {f : Flight ε Ticket} (hf : j.flights.find? id = some f)
    (hact : j.act handler x = j.settle id f.tag (s, o))
    (hbrings : ∀ goal, (f.dispatch.turn j.service).Plain →
      f.dispatch.stage.Drafts (⟨f.dispatch.writer, j.service.link⟩ : Session τ) goal →
      (f.dispatch.turn j.service).Brings goal s o) :
    Gives handler first happenings j x id (f.dispatch.turn j.service) s o := by
  obtain ⟨hplain, request, before, hcame, hdrafts⟩ := h.flying id f hf
  have hid := (hsound.flies id f hf).1
  have hfree := (hsound.begins hf).free
  rw [hid] at hfree
  exact ⟨⟨rfl, fun hnone => hnone, .refl _, hfree.apart⟩, ⟨j, f.tag, rfl, hid, hact⟩,
    request, before, hcame.concat x, hbrings _ hplain hdrafts⟩

/-- A request is taken up. -/
theorem Composes.gives_start (h : Composes handler first happenings j) (hsound : j.Sound ttl)
    (hsteady : ∀ id request, (handler id request).Steady)
    (hunhurried : first.service.dispatcher.settings.writer.Unhurried) {request : Request}
    (huncached : first.service.dispatcher.cache = none ∨ request.cacheKey? = none)
    (ht : j.service.opened? = some t)
    (hstart : j.service.start j.now request (handler j.started request) = (s, o)) :
    Gives handler first happenings j (.start request) j.started t s o := by
  have hopened := Service.opened_of_opened? ht
  have hlends := hopened.checks.lends hsound.tidy
  have hdispatcher := hopened.dispatcher_eq
  have huncached' : j.service.dispatcher.cache = none ∨ request.cacheKey? = none :=
    huncached.imp_left h.cache
  have hplain : t.Plain := by
    refine ⟨hopened.key_eq, ?_⟩
    rwa [hopened.settings_eq, h.settings_eq]
  have hact : j.act handler (.start request) =
      j.next.settle j.started (j.ticket request) (s, o) := by
    rw [← hstart]
    rfl
  rw [Service.start_of_opened? huncached' ht] at hstart
  have hbrings := (Turn.runs_run hstart).brings (hsteady j.started request) hplain
  rw [hopened.draft_eq] at hbrings
  refine ⟨⟨by rw [hdispatcher], fun hnone => by rw [hdispatcher]; exact hnone, hlends.rests, ?_⟩,
    ⟨j.next, j.ticket request, rfl, rfl, hact⟩, request, t.session.received, ?_, hbrings⟩
  · exact fun other f hf _ => hlends.ne _ (hsound.flies other f hf).2.lent
  · refine ⟨happenings, [], rfl, by rw [h.run_eq], ?_⟩
    rw [h.run_eq]
    exact (hlends.rests.received_eq _).symm

/-- A happening gives a turn, or it changes no response. -/
theorem Composes.gives_turn (h : Composes handler first happenings j) (hsound : j.Sound ttl)
    (hsteady : ∀ id request, (handler id request).Steady)
    (hunhurried : first.service.dispatcher.settings.writer.Unhurried)
    (huncached : ∀ request, x = .start request →
      first.service.dispatcher.cache = none ∨ request.cacheKey? = none) {handle : HandleId}
    (hx : j.turnOn? handler x = some (id, handle, s, o)) :
    ∃ t : Turn τ, t.session.writer.handle = handle ∧
      Gives handler first happenings j x id t s o := by
  cases x with
  | start request =>
    simp only [turnOn?_start, Option.map_eq_some_iff, Prod.mk.injEq] at hx
    obtain ⟨t, ht, rfl, rfl, hstart⟩ := hx
    exact ⟨t, rfl, h.gives_start hsound hsteady hunhurried (huncached request rfl) ht hstart⟩
  | resume id' =>
    simp only [turnOn?_resume, Option.map_eq_some_iff, Prod.mk.injEq] at hx
    obtain ⟨f, hf, rfl, rfl, hresume⟩ := hx
    refine ⟨_, rfl, h.gives_flight hsound hf ?_ fun goal hplain hdrafts =>
      Service.brings_resume hplain hdrafts hresume⟩
    simp only [act_resume, hf, hresume]
  | answer id' n =>
    simp only [turnOn?_answer, Option.map_eq_some_iff, Prod.mk.injEq] at hx
    obtain ⟨f, hf, rfl, rfl, hanswer⟩ := hx
    refine ⟨_, rfl, h.gives_flight hsound hf ?_ fun goal hplain hdrafts =>
      Service.brings_answer hplain hdrafts hanswer⟩
    simp only [act_answer, hf, hanswer]
  | _ => cases hx

/-- Whatever happens, dispatches in flight stay on their way. -/
theorem Composes.act (h : Composes handler first happenings j) (hsound : j.Sound ttl)
    (hsteady : ∀ id request, (handler id request).Steady)
    (hunhurried : first.service.dispatcher.settings.writer.Unhurried)
    (huncached : ∀ request, x = .start request →
      first.service.dispatcher.cache = none ∨ request.cacheKey? = none) :
    Composes handler first (happenings ++ [x]) (j.act handler x) := by
  cases hx : j.turnOn? handler x with
  | some turn =>
    obtain ⟨id, handle, s, o⟩ := turn
    obtain ⟨t, -, hgives⟩ := h.gives_turn hsound hsteady hunhurried huncached hx
    exact h.gives hgives
  | none => exact h.idle (idle_act hx)

/-- What a dispatch that is over came to is what its handler makes of its request. -/
theorem Composes.over_eq (h : Composes handler first happenings j) (hsound : j.Sound ttl)
    (hsteady : ∀ id request, (handler id request).Steady)
    (hunhurried : first.service.dispatcher.settings.writer.Unhurried)
    (huncached : ∀ request, x = .start request →
      first.service.dispatcher.cache = none ∨ request.cacheKey? = none) {ending : Over}
    (hending : j.over? handler x = some ending) :
    ∃ request before,
      Came handler first (happenings ++ [x]) ending.id ending.handle request before ∧
      ((Draft.blank before).run (handler ending.id request)).2 = ending.verdict ∧
      ((Draft.blank before).run (handler ending.id request)).1.received = ending.received := by
  obtain ⟨s, o, hturn, hverdict, hreceived⟩ := over?_eq_some_iff.1 hending
  obtain ⟨t, hhandle, hgives⟩ := h.gives_turn hsound hsteady hunhurried huncached hturn
  obtain ⟨request, before, hcame, hbrings⟩ := hgives.brings
  obtain ⟨hgoal, hheld⟩ := hbrings.over_eq hverdict
  rw [hhandle] at hcame hheld
  exact ⟨request, before, hcame, hgoal.symm, hheld.symm.trans hreceived⟩

theorem Composes.run (h : Composes handler first happenings j) (hsound : j.Sound ttl)
    (hsteady : ∀ id request, (handler id request).Steady)
    (hunhurried : first.service.dispatcher.settings.writer.Unhurried) (more : List (Happening τ))
    (huncached : ∀ request, .start request ∈ more →
      first.service.dispatcher.cache = none ∨ request.cacheKey? = none) :
    Composes handler first (happenings ++ more) (j.run handler more) := by
  induction more generalizing happenings j with
  | nil => simpa [Journaled.run] using h
  | cons x rest ih =>
    have hstep : Composes handler first (happenings ++ [x]) (j.act handler x) := by
      refine h.act hsound hsteady hunhurried fun request hx => ?_
      subst hx
      exact huncached request List.mem_cons_self
    have hsound' := hsound.act (fun id request => (hsteady id request).patient) x
    have hrest := ih hstep hsound' fun request hmem =>
      huncached request (List.mem_cons_of_mem _ hmem)
    rwa [List.append_assoc, List.singleton_append] at hrest

theorem composes_opening (handler : Nat → Request → Program ε) (d : Dispatcher) (l : Link τ) :
    Composes handler (opening d l) [] (opening d l) :=
  ⟨rfl, rfl, fun h => h, fun _ _ hf => by cases hf⟩

/-- Whatever happens at a dispatcher that was just built, what a dispatch comes to is what its
handler makes of a blank draft. -/
theorem over_eq_run_blank {settings : Settings} {context : BuildContext} {l l' : Link τ}
    {d : Dispatcher} {interval : Option Duration}
    (hbuild : Dispatcher.build settings context l = (l', .ok (d, interval)))
    (hunhurried : settings.writer.Unhurried) (hsteady : ∀ id request, (handler id request).Steady)
    (happenings : List (Happening τ)) (last : Happening τ)
    (huncached : ∀ request, .start request ∈ happenings ++ [last] →
      d.cache = none ∨ request.cacheKey? = none) {ending : Over}
    (hending : ((opening d l').run handler happenings).over? handler last = some ending) :
    ∃ request before,
      Came handler (opening d l') (happenings ++ [last]) ending.id ending.handle request before ∧
        ((Draft.blank before).run (handler ending.id request)).2 = ending.verdict ∧
        ((Draft.blank before).run (handler ending.id request)).1.received = ending.received := by
  have hsound : (opening d l' : Journaled τ ε).Sound settings.cache.ttl := sound_opening hbuild
  have hunhurried' : d.settings.writer.Unhurried := by
    rwa [(Dispatcher.built_build hbuild).settings_eq]
  have hcomposes := (composes_opening handler d l').run hsound hsteady hunhurried' happenings
    fun request hmem => huncached request (List.mem_append_left _ hmem)
  have hsound' := hsound.run (fun id request => (hsteady id request).patient) happenings
  refine hcomposes.over_eq hsound' hsteady hunhurried' (fun request hlast => ?_) hending
  subst hlast
  exact huncached request (by simp)

end

end Journaled

end Sluice
