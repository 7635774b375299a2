import Sluice.Proofs.Serving.Kept
import Sluice.Proofs.Serving.Notes

/-!
# What a turn leaves in the cache

A turn of a handler ends in a wait, or its dispatch is over. The notes of the handler tell whether
the answer is stored then, and what: a handler that was through with status 200 and whose recorder
was not given up has its answer stored under the key of the request. In every other case the turn
leaves the cache as it found it.
-/
namespace Sluice

namespace ActNote

/-- The handler is not through. -/
def Pending (notes : List ActNote) : Prop := ∀ n ∈ notes, n.act.isReturn = false

/-- The handler was through, with status 200 and an answer that a recorder with this limit has. -/
structure Complete (limit : Nat) (notes : List ActNote) : Prop where
  returned : ∃ n ∈ notes, n.act = .returns (.ok ()) ∧ n.view.sent = some .ok
  inTime : late notes = false
  fits : total notes ≤ limit

variable {notes : List ActNote} {n : ActNote} {limit : Nat}

instance : Decidable (Complete limit notes) :=
  decidable_of_iff
    ((∃ n ∈ notes, n.act = .returns (.ok ()) ∧ n.view.sent = some .ok) ∧ late notes = false ∧
      total notes ≤ limit)
    ⟨fun ⟨hreturned, hlate, hfits⟩ => ⟨hreturned, hlate, hfits⟩,
      fun ⟨hreturned, hlate, hfits⟩ => ⟨hreturned, hlate, hfits⟩⟩

theorem pending_nil : Pending [] := nofun

theorem Pending.concat (h : Pending notes) (hn : n.act.isReturn = false) :
    Pending (notes ++ [n]) := by
  intro m hm
  rcases List.mem_append.1 hm with hm | hm
  · exact h m hm
  · obtain rfl := List.mem_singleton.1 hm
    exact hn

theorem Pending.not_complete (h : Pending notes) : ¬ Complete limit notes := by
  intro hcomplete
  obtain ⟨n, hn, hact, -⟩ := hcomplete.returned
  have hpending := h n hn
  rw [hact] at hpending
  cases hpending

/-- Only the last note can say that the handler was through. -/
theorem Pending.complete_concat_iff (h : Pending notes) :
    Complete limit (notes ++ [n]) ↔ n.act = .returns (.ok ()) ∧ n.view.sent = some .ok ∧
      late (notes ++ [n]) = false ∧ total (notes ++ [n]) ≤ limit := by
  constructor
  · intro hcomplete
    obtain ⟨m, hm, hact, hsent⟩ := hcomplete.returned
    rcases List.mem_append.1 hm with hm | hm
    · have hpending := h m hm
      rw [hact] at hpending
      cases hpending
    · obtain rfl := List.mem_singleton.1 hm
      exact ⟨hact, hsent, hcomplete.inTime, hcomplete.fits⟩
  · rintro ⟨hact, hsent, hlate, hfits⟩
    exact ⟨⟨n, List.mem_append_right _ List.mem_cons_self, hact, hsent⟩, hlate, hfits⟩

end ActNote

/-- A handler is at work. -/
def Stage.isLive {ε : Type} : Stage ε → Bool
  | .replaying .. | .endless => false
  | .writing .. | .sleeping .. | .asking .. => true

/-- The dispatch is over. -/
def Outcome.isOver {ε : Type} : Outcome ε → Bool
  | .inFlight _ => false
  | .returned _ | .crashed _ => true

namespace Turn

variable {τ ε : Type}

/-- The most body bytes that are recorded in the turn, if there is a recorder. -/
def limit? (t : Turn τ) : Option Nat := t.key.map fun _ => t.dispatcher.settings.cache.maxBodyBytes

/-- A key is there only beside a cache. -/
def Keyed (t : Turn τ) : Prop := t.key ≠ none → ∃ cache, t.dispatcher.cache = some cache

/-- The turn went on to another, and kept nothing. -/
structure Flows (t t' : Turn τ) : Prop where
  dispatcher_eq : t'.dispatcher = t.dispatcher
  key_eq : t'.key = t.key
  kept_eq : t'.session.link.kept = t.session.link.kept

/-- What a turn comes to in which a handler was at work, with the notes of the handler so far. -/
inductive Leads (now : Instant) (t : Turn τ) (notes : List ActNote) :
    Service τ → Outcome ε → Prop where
  | waits {s d} : s.dispatcher = t.dispatcher → s.link.kept = t.session.link.kept →
      d.key = t.key → ActNote.Pending notes →
      (d.stage.isLive = true → d.writer.Tracks t.limit? notes) → Leads now t notes s (.inFlight d)
  | ends {s o} : s.dispatcher = { t.dispatcher with pool := s.dispatcher.pool } →
      s.link.kept = t.session.link.kept → o.isOver = true →
      (t.key ≠ none → ¬ ActNote.Complete t.dispatcher.settings.cache.maxBodyBytes notes) →
      Leads now t notes s o
  | stores {s cache key header served} : t.dispatcher.cache = some cache → t.key = some key →
      ActNote.Complete t.dispatcher.settings.cache.maxBodyBytes notes →
      ActNote.header? notes = some header → now.nanos + cache.ttl.nanos < Instant.limit →
      s.dispatcher = { t.dispatcher with
        pool := s.dispatcher.pool
        cache := some (cache.set now key
          ⟨⟨.ok, header, joined (ActNote.bodies notes)⟩, now.after cache.ttl⟩).1 } →
      s.link.kept = t.session.link.kept ++ [key] → served.status = .ok → served.source = .handler →
      Leads now t notes s (.returned (.ok served))
  | overflows {s cache key} : t.dispatcher.cache = some cache → t.key = some key →
      ActNote.Complete t.dispatcher.settings.cache.maxBodyBytes notes →
      Instant.limit ≤ now.nanos + cache.ttl.nanos →
      s.dispatcher = { t.dispatcher with pool := s.dispatcher.pool } →
      s.link.kept = t.session.link.kept ++ [key] → Leads now t notes s (.crashed Cache.overflow)

variable {t t₁ t₂ : Turn τ} {now : Instant} {notes before : List ActNote} {s : Service τ}
  {o : Outcome ε}

theorem Flows.refl (t : Turn τ) : t.Flows t := ⟨rfl, rfl, rfl⟩

theorem Flows.trans (h : t.Flows t₁) (h' : t₁.Flows t₂) : t.Flows t₂ :=
  ⟨h'.dispatcher_eq.trans h.dispatcher_eq, h'.key_eq.trans h.key_eq, h'.kept_eq.trans h.kept_eq⟩

theorem flows_session {session : Session τ} (h : session.link.kept = t.session.link.kept) :
    t.Flows { t with session } :=
  ⟨rfl, rfl, h⟩

theorem flows_report (t : Turn τ) {e : Event} (h : e.keptKey? = none) : t.Flows (t.report e) :=
  flows_session (Session.kept_report t.session h)

/-- A turn comes to what the turn it went on to comes to. -/
theorem Leads.after (h : t.Flows t₁) (h' : t₁.Leads now notes s o) : t.Leads now notes s o := by
  obtain ⟨hdispatcher, hkey, hkept⟩ := h
  have hlimit : t₁.limit? = t.limit? := by rw [limit?, limit?, hdispatcher, hkey]
  cases h' with
  | waits hd hk hkey' hpending htracks =>
    rw [hdispatcher] at hd
    rw [hlimit] at htracks
    exact .waits hd (hk.trans hkept) (hkey'.trans hkey) hpending htracks
  | ends hd hk ho hnot =>
    rw [hdispatcher] at hd hnot
    rw [hkey] at hnot
    exact .ends hd (hk.trans hkept) ho hnot
  | stores hcache hkey' hcomplete hheader hrange hd hk hstatus hsource =>
    rw [hdispatcher] at hcache hcomplete hd
    rw [hkey] at hkey'
    rw [hkept] at hk
    exact .stores hcache hkey' hcomplete hheader hrange hd hk hstatus hsource
  | overflows hcache hkey' hcomplete hrange hd hk =>
    rw [hdispatcher] at hcache hcomplete hd
    rw [hkey] at hkey'
    rw [hkept] at hk
    exact .overflows hcache hkey' hcomplete hrange hd hk

variable [Transport τ]

/-- The dispatch is over, and stores nothing. -/
theorem leads_leave (hflows : t.Flows t₁)
    (hnot : t.key ≠ none → ¬ ActNote.Complete t.dispatcher.settings.cache.maxBodyBytes notes)
    (ho : o.isOver = true) : t.Leads now notes t₁.leave o := by
  refine .ends ?_ (t₁.kept_leave.trans hflows.kept_eq) ho hnot
  rw [t₁.dispatcher_leave, hflows.dispatcher_eq]

/-! ## The end of a handler -/

omit [Transport τ] in
/-- A recorder that was given up hands nothing over. -/
theorem take_eq_none {limit : Nat} {session : Session τ}
    (htracks : session.writer.Tracks (some limit) notes)
    (h : ActNote.late notes = true ∨ limit < ActNote.total notes) :
    session.takeRecording.2 = none := by
  show session.writer.recorder.bind _ = none
  rw [htracks.recorder_eq]
  show (Recorder.ofNotes limit notes).finish? _ = none
  rw [Recorder.ofNotes_eq_abandoned h]
  rfl

omit [Transport τ] in
/-- One that was not hands over what the notes say. -/
theorem take_eq_some {limit : Nat} {session : Session τ} {status : Http.Status}
    (htracks : session.writer.Tracks (some limit) notes)
    (hsent : session.writer.sent = some status) (hlate : ActNote.late notes = false)
    (hfits : ActNote.total notes ≤ limit) :
    ∃ header, ActNote.header? notes = some header ∧
      session.takeRecording.2 = some ⟨status, header, joined (ActNote.bodies notes)⟩ := by
  have hheader : ActNote.header? notes ≠ none := by
    rw [Ne, ActNote.header?_eq_none_iff, ← htracks.sent_eq, hsent]
    exact Option.some_ne_none status
  obtain ⟨header, hheader⟩ := Option.ne_none_iff_exists'.1 hheader
  refine ⟨header, hheader, ?_⟩
  show session.writer.recorder.bind (fun r => r.finish? session.writer.sent) = _
  rw [htracks.recorder_eq]
  show (Recorder.ofNotes limit notes).finish? session.writer.sent = _
  rw [Recorder.ofNotes_eq_active hlate hfits, hheader, hsent]
  rfl

omit [Transport τ] in
/-- An answer with status 200 that is handed over is complete. -/
theorem complete_of_take {limit : Nat} {r : Recording} (hpending : ActNote.Pending before)
    (htracks : t.session.writer.Tracks (some limit)
      (before ++ [t.session.note (.returns (.ok ()))]))
    (hsent : t.session.writer.sent = some .ok) (htake : t.session.takeRecording.2 = some r) :
    ActNote.Complete limit (before ++ [t.session.note (.returns (.ok ()))]) := by
  rcases Recorder.ofNotes_cases limit (before ++ [t.session.note (.returns (.ok ()))]) with
    hgone | ⟨hlate, hfits⟩
  · rw [take_eq_none htracks hgone] at htake
    cases htake
  · exact hpending.complete_concat_iff.2 ⟨rfl, hsent, hlate, hfits⟩

/-- A complete answer is stored, unless the clock cannot name the end of its time. -/
theorem leads_store {cache : Cache} {key : String} {header : Fields}
    (hcache : t.dispatcher.cache = some cache) (hkey : t.key = some key)
    (hcomplete : ActNote.Complete t.dispatcher.settings.cache.maxBodyBytes notes)
    (hheader : ActNote.header? notes = some header)
    (htake : t.session.takeRecording.2 = some ⟨.ok, header, joined (ActNote.bodies notes)⟩)
    (h : t.keep now .ok = (s, o)) : t.Leads now notes s o := by
  have htaken : t.session.takeRecording =
      (t.unrecorded.session, some ⟨.ok, header, joined (ActNote.bodies notes)⟩) :=
    Prod.ext rfl htake
  have hreported (size : Nat) : (t.session.link.report (.responseCached key size)).kept =
      t.session.link.kept ++ [key] :=
    t.session.link.kept_report _
  simp only [keep, hcache, hkey, if_true, htaken] at h
  rcases Nat.lt_or_ge (now.nanos + cache.ttl.nanos) Instant.limit with hrange | hrange
  · have hstore : cache.store? now key ⟨.ok, header, joined (ActNote.bodies notes)⟩ =
        some (cache.set now key
          ⟨⟨.ok, header, joined (ActNote.bodies notes)⟩, now.after cache.ttl⟩) := by
      rw [Cache.store?, Instant.after?_eq_some_iff.2 ⟨hrange, rfl⟩]
      rfl
    simp only [hstore, finish] at h
    cases h
    refine .stores hcache hkey hcomplete hheader hrange rfl ?_ rfl rfl
    refine (kept_leave _).trans ?_
    exact (Link.kept_reportAll _ (cache.keptKey?_set now key _)).trans (hreported _)
  · have hstore : cache.store? now key ⟨.ok, header, joined (ActNote.bodies notes)⟩ = none := by
      rw [Cache.store?, Instant.after?, if_neg (Nat.not_lt.2 hrange)]
      rfl
    simp only [hstore] at h
    cases h
    refine .overflows hcache hkey hcomplete hrange rfl ?_
    exact (kept_leave _).trans (hreported _)

/-- An answer that is not complete is not stored. -/
theorem leads_files {status : Http.Status} (hpending : ActNote.Pending before)
    (htracks : t.session.writer.Tracks (some t.dispatcher.settings.cache.maxBodyBytes)
      (before ++ [t.session.note (.returns (.ok ()))]))
    (hsent : t.session.writer.sent = some status)
    (hnot : ¬ ActNote.Complete t.dispatcher.settings.cache.maxBodyBytes
      (before ++ [t.session.note (.returns (.ok ()))]))
    (h : Files now status t s o) :
    t.Leads now (before ++ [t.session.note (.returns (.ok ()))]) s o := by
  cases h with
  | passes => exact leads_leave (.refl t) (fun _ => hnot) rfl
  | declines =>
    have hflows : t.Flows t.unrecorded := flows_session rfl
    exact leads_leave (hflows.trans (flows_report _ rfl)) (fun _ => hnot) rfl
  | overflows _ _ hok htake =>
    exact absurd (complete_of_take hpending htracks (hok ▸ hsent) htake) hnot
  | keeps _ _ hok htake =>
    exact absurd (complete_of_take hpending htracks (hok ▸ hsent) htake) hnot

/-- The end of a handler, once everything has gone out. -/
theorem leads_keep {status : Http.Status} (hkeyed : t.Keyed) (hpending : ActNote.Pending before)
    (htracks : t.session.writer.Tracks t.limit? (before ++ [t.session.note (.returns (.ok ()))]))
    (hsent : t.session.writer.sent = some status) (h : t.keep now status = (s, o)) :
    t.Leads now (before ++ [t.session.note (.returns (.ok ()))]) s o := by
  have hfiles := files_keep h
  cases hkey : t.key with
  | none =>
    obtain ⟨rfl, rfl⟩ := hfiles.eq_of_key_eq_none hkey
    exact leads_leave (.refl t) (fun hne => absurd hkey hne) rfl
  | some key =>
    obtain ⟨cache, hcache⟩ := hkeyed (hkey ▸ Option.some_ne_none key)
    have hlimit : t.limit? = some t.dispatcher.settings.cache.maxBodyBytes := by
      rw [limit?, hkey]
      rfl
    rw [hlimit] at htracks
    by_cases hcomplete : ActNote.Complete t.dispatcher.settings.cache.maxBodyBytes
        (before ++ [t.session.note (.returns (.ok ()))])
    · obtain ⟨-, hok, hlate, hfits⟩ := hpending.complete_concat_iff.1 hcomplete
      obtain rfl : status = .ok := Option.some.inj (hsent.symm.trans hok)
      obtain ⟨header, hheader, htake⟩ := take_eq_some htracks hsent hlate hfits
      exact leads_store hcache hkey hcomplete hheader htake h
    · exact leads_files hpending htracks hsent hcomplete hfiles

/-- The handler is through: what is left unsent goes out first. -/
theorem leads_complete (hkeyed : t.Keyed) (hpending : ActNote.Pending before)
    (htracks : t.session.writer.Tracks t.limit? before) (h : t.complete now = (s, o)) :
    t.Leads now (before ++ t.session.notes now (.finish : Program ε)) s o := by
  have hflush := t.session.flushes_flush
  revert h hflush
  unfold complete Session.notes
  rcases t.session.flush with ⟨session, e | ⟨⟨⟩⟩⟩ <;> intro h hflush
  · cases h
    refine leads_leave (flows_session hflush.kept_eq) (fun _ hcomplete => ?_) rfl
    obtain ⟨hact, -⟩ := hpending.complete_concat_iff.1 hcomplete
    cases hact
  · obtain ⟨status, hsent⟩ := Option.ne_none_iff_exists'.1 hflush.sent_ne_none
    have hnoted := hflush.opens.noted (.returns (.ok ())) rfl rfl
    dsimp only at h
    rw [hsent, Option.getD_some] at h
    have hkeep : ({ t with session } : Turn τ).Leads now
        (before ++ [session.note (.returns (.ok ()))]) s o :=
      leads_keep hkeyed hpending (htracks.concat hnoted) hsent h
    exact hkeep.after (flows_session hflush.kept_eq)

theorem Fails.flows {cause : HandlerError} (h : Fails cause t t₁) : t.Flows t₁ := by
  have hfailed : t.Flows (t.failed cause) := t.flows_report rfl
  cases h with
  | late => exact hfailed
  | answers _ hheads => exact hfailed.trans (flows_session hheads.kept_eq)
  | gaveUp _ hheads =>
    exact (hfailed.trans (flows_session hheads.kept_eq)).trans (flows_report _ rfl)

/-! ## Handlers -/

omit [Transport τ] in
/-- One act of the handler, and what comes after it. -/
theorem Leads.cons {session : Session τ} {n : ActNote} {rest : List ActNote}
    (h : ({ t with session } : Turn τ).Leads now (before ++ [n] ++ rest) s o)
    (hkept : session.link.kept = t.session.link.kept) :
    t.Leads now (before ++ n :: rest) s o := by
  rw [List.append_cons]
  exact h.after (flows_session hkept)

/-- Wherever the program is carried out, its notes tell what the turn comes to. -/
def Followed (τ : Type) [Transport τ] (now : Instant) (program : Program ε) : Prop :=
  ∀ (t : Turn τ) (before : List ActNote) (s : Service τ) (o : Outcome ε), t.Keyed →
    ActNote.Pending before → t.session.writer.Tracks t.limit? before →
    t.run now program = (s, o) → t.Leads now (before ++ t.session.notes now program) s o

/-- A handler does something and is carried out from there on. -/
theorem Followed.next {program : Program ε} (hfollowed : Followed τ now program)
    {session : Session τ} {act : Act} (hkeyed : t.Keyed) (hpending : ActNote.Pending before)
    (htracks : t.session.writer.Tracks t.limit? before)
    (hnoted : Writer.Noted (session.note act) t.session.writer session.writer)
    (hact : act.isReturn = false) (hkept : session.link.kept = t.session.link.kept)
    (h : ({ t with session } : Turn τ).run now program = (s, o)) :
    t.Leads now (before ++ session.note act :: session.notes now program) s o := by
  have hnext := hfollowed { t with session } _ s o hkeyed (hpending.concat hact)
    (htracks.concat hnoted) h
  exact hnext.cons hkept

/-- A write is over at once, or the handler waits for it. -/
theorem followed_write {body : ByteArray} {patience : Option Duration}
    {next : WriteReply → Program ε} (hnext : ∀ result, Followed τ now (next (.finished result))) :
    Followed τ now (.write body patience next) := by
  intro t before s o hkeyed hpending htracks h
  have hwrites := t.session.writes_write now body
  revert h hwrites
  simp only [run, Session.notes]
  rcases t.session.write now body with ⟨session, result | write | _⟩ <;> intro h hwrites
  · exact (hnext result).next hkeyed hpending htracks hwrites.wrote rfl hwrites.kept_eq h
  · cases h
    have hopens : t.session.writer.Opens session.writer := hwrites.wrote
    have hnoted := hopens.noted .waits rfl rfl
    exact .waits rfl hwrites.kept_eq rfl (hpending.concat rfl) fun _ => htracks.concat hnoted
  · cases h
    rw [List.append_nil]
    exact .waits rfl hwrites.kept_eq rfl hpending fun hlive => absurd hlive Bool.false_ne_true

/-- A handler is carried out from the moment of these notes on. -/
theorem followed (program : Program ε) : Followed τ now program := by
  -- the notes so far and what the writer is by them carry the induction
  induction program with
  | finish => exact fun t before s o => leads_complete
  | fail cause =>
    intro t before s o _ hpending _ h
    obtain ⟨t', hfails, rfl, rfl⟩ := fails_fail h
    rw [Session.notes, List.append_nil]
    exact leads_leave hfails.flows (fun _ => hpending.not_complete) rfl
  | crash message =>
    intro t before s o _ hpending _ h
    cases h
    rw [Session.notes, List.append_nil]
    exact leads_leave (.refl t) (fun _ => hpending.not_complete) rfl
  | edit change next ih =>
    intro t before s o hkeyed hpending htracks h
    exact ih.next hkeyed hpending htracks (t.session.noted_edit change) rfl rfl h
  | inspect next ih => exact fun t before s o => ih _ t before s o
  | writeHeader status next ih =>
    intro t before s o hkeyed hpending htracks h
    have hheads := t.session.heads_writeHeader status
    revert h hheads
    simp only [run, Session.notes]
    rcases t.session.writeHeader status with ⟨session, result⟩
    intro h hheads
    exact (ih result).next hkeyed hpending htracks (hheads.opens.noted (.sends result) rfl rfl) rfl
      hheads.kept_eq h
  | flush next ih =>
    intro t before s o hkeyed hpending htracks h
    have hflush := t.session.flushes_flush
    revert h hflush
    simp only [run, Session.notes]
    rcases t.session.flush with ⟨session, result⟩
    intro h hflush
    exact (ih result).next hkeyed hpending htracks (hflush.opens.noted (.sends result) rfl rfl) rfl
      hflush.kept_eq h
  | write body patience next ih => exact followed_write fun result => ih (.finished result)
  | sleep length next ih =>
    intro t before s o _ hpending htracks h
    cases h
    rw [Session.notes, List.append_nil]
    exact .waits rfl rfl rfl hpending fun _ => htracks
  | ask question next ih =>
    intro t before s o _ hpending htracks h
    cases h
    rw [Session.notes, List.append_nil]
    exact .waits rfl rfl rfl hpending fun _ => htracks

theorem leads_run {program : Program ε} (hkeyed : t.Keyed) (hpending : ActNote.Pending before)
    (htracks : t.session.writer.Tracks t.limit? before) (h : t.run now program = (s, o)) :
    t.Leads now (before ++ t.session.notes now program) s o :=
  followed program t before s o hkeyed hpending htracks h

/-! ## What is carried on -/

/-- A recording that is sent again stores nothing, and there is no handler then. -/
structure Idles (t : Turn τ) (s : Service τ) (o : Outcome ε) : Prop where
  dispatcher_eq : s.dispatcher = { t.dispatcher with pool := s.dispatcher.pool }
  kept_eq : s.link.kept = t.session.link.kept
  waits : ∀ d, o = .inFlight d → d.stage.isLive = false

theorem idles_replayed {recording : Recording} {progress : Progress} {session : Session τ}
    (hkept : session.link.kept = t.session.link.kept)
    (h : ({ t with session } : Turn τ).replayed recording progress = (s, o)) : t.Idles s o := by
  have hleft : (Turn.leave { t with session }).link.kept = t.session.link.kept :=
    (kept_leave _).trans hkept
  rcases progress with (e | n) | write | _
  · cases h
    refine ⟨rfl, hleft, fun d hd => ?_⟩
    cases hd
  · cases h
    refine ⟨rfl, hleft, fun d hd => ?_⟩
    cases hd
  · cases h
    refine ⟨rfl, hkept, ?_⟩
    rintro d ⟨⟩
    rfl
  · cases h
    refine ⟨rfl, hkept, ?_⟩
    rintro d ⟨⟩
    rfl

end Turn

namespace Service

variable {τ ε : Type} [Transport τ] {s s' : Service τ} {d : Dispatch ε} {o : Outcome ε}
  {now : Instant} {before : List ActNote}

omit [Transport τ] in
/-- A handler that cannot go on waits. -/
theorem leads_rest (hpending : ActNote.Pending before)
    (htracks : d.writer.Tracks (d.turn s).limit? before) :
    (d.turn s).Leads now (before ++ []) s (.inFlight d) := by
  rw [List.append_nil]
  exact .waits rfl rfl rfl hpending fun _ => htracks

/-- A handler that writes is carried on. -/
theorem leads_writing {write : PendingWrite} {patience : Option Instant}
    {next : WriteReply → Program ε} (hkeyed : (d.turn s).Keyed) (hpending : ActNote.Pending before)
    (htracks : d.writer.Tracks (d.turn s).limit? before) (hready : d.isReady s now = true)
    (hstage : d.stage = .writing write patience next) (h : s.resume now d = (s', o)) :
    (d.turn s).Leads now (before ++ s.resumeNotes now d) s' o := by
  have hresumes := (d.turn s).session.resumes_resume now write
  revert h hresumes
  simp only [resume, resumeNotes, hready, hstage, if_true]
  rcases (d.turn s).session.resume now write with ⟨session, result | write' | _⟩ <;>
    intro h hresumes
  · exact (Turn.followed _).next hkeyed hpending htracks hresumes.wrote rfl hresumes.kept_eq h
  · have halike : d.writer.Alike session.writer := hresumes.alike
    have hopens : d.writer.Opens session.writer := hresumes.wrote
    by_cases hover : Dispatch.isOver patience now = true
    · simp only [hover, if_true] at h ⊢
      exact (Turn.followed _).next hkeyed hpending htracks (hopens.noted .drops rfl rfl) rfl
        hresumes.kept_eq h
    · simp only [hover, Bool.false_eq_true, if_false, List.append_nil] at h ⊢
      cases h
      exact .waits rfl hresumes.kept_eq rfl hpending fun _ =>
        htracks.of_same halike.sent_eq halike.recorder_eq
  · cases h
    rw [List.append_nil]
    exact .waits rfl hresumes.kept_eq rfl hpending fun hlive => absurd hlive Bool.false_ne_true

/-- A handler that waits is carried on. -/
theorem leads_resume (hlive : d.stage.isLive = true) (hkeyed : (d.turn s).Keyed)
    (hpending : ActNote.Pending before) (htracks : d.writer.Tracks (d.turn s).limit? before)
    (h : s.resume now d = (s', o)) :
    (d.turn s).Leads now (before ++ s.resumeNotes now d) s' o := by
  cases hready : d.isReady s now with
  | false =>
    simp only [resume, resumeNotes, hready, Bool.false_eq_true, if_false] at h ⊢
    cases h
    exact leads_rest hpending htracks
  | true =>
    cases hstage : d.stage with
    | writing write patience next =>
      exact leads_writing hkeyed hpending htracks hready hstage h
    | sleeping wake next =>
      simp only [resume, resumeNotes, hready, hstage, if_true] at h ⊢
      exact Turn.leads_run hkeyed hpending htracks h
    | asking question next =>
      simp only [resume, resumeNotes, hready, hstage, if_true] at h ⊢
      cases h
      rw [List.append_nil]
      exact .waits rfl rfl rfl hpending fun _ => htracks
    | _ =>
      rw [hstage] at hlive
      cases hlive

/-- A handler that asked has its answer. -/
theorem leads_answer {n : Nat} (hkeyed : (d.turn s).Keyed) (hpending : ActNote.Pending before)
    (htracks : d.writer.Tracks (d.turn s).limit? before)
    (h : s.answer now d n = (s', o)) :
    (d.turn s).Leads now (before ++ s.answerNotes now d n) s' o := by
  unfold answer at h
  unfold answerNotes
  cases hstage : d.stage with
  | asking question next =>
    rw [hstage] at h
    exact Turn.leads_run (t := d.turn s) hkeyed hpending htracks h
  | _ =>
    rw [hstage] at h
    cases h
    rw [List.append_nil]
    exact .waits rfl rfl rfl hpending fun _ => htracks

omit [Transport τ] in
theorem idles_rest (hdead : d.stage.isLive = false) :
    (d.turn s).Idles s (.inFlight d) := by
  refine ⟨rfl, rfl, ?_⟩
  rintro d' ⟨⟩
  exact hdead

/-- Where there is no handler there is nothing to note. -/
theorem idles_resume (hdead : d.stage.isLive = false) (h : s.resume now d = (s', o)) :
    (d.turn s).Idles s' o ∧ s.resumeNotes now d = [] := by
  have hrests := idles_rest (s := s) hdead
  unfold resume at h
  unfold resumeNotes
  dsimp only at h
  split at h
  · rename_i hready
    rw [if_pos hready]
    cases hstage : d.stage with
    | replaying recording write =>
      rw [hstage] at h
      exact ⟨Turn.idles_replayed ((d.turn s).session.resumes_resume now write).kept_eq h, rfl⟩
    | endless =>
      rw [hstage] at h
      cases h
      exact ⟨⟨rfl, rfl, by rintro d' ⟨⟩; rfl⟩, rfl⟩
    | _ =>
      rw [hstage] at hdead
      cases hdead
  · rename_i hready
    cases h
    rw [if_neg hready]
    exact ⟨hrests, rfl⟩

theorem idles_answer {n : Nat} (hdead : d.stage.isLive = false)
    (h : s.answer now d n = (s', o)) :
    (d.turn s).Idles s' o ∧ s.answerNotes now d n = [] := by
  unfold answer at h
  unfold answerNotes
  cases hstage : d.stage with
  | asking question next =>
    rw [hstage] at hdead
    cases hdead
  | _ =>
    rw [hstage] at h
    cases h
    exact ⟨idles_rest hdead, rfl⟩

end Service

end Sluice
