import Sluice.Proofs.Loopback.History

/-!
# Which header calls a loopback transport accepts

What was seen of a handle tells how its header calls are answered. A response counts as initialized
once there is an exchange, and an offer makes one as well as the beginning of a response does. So a
handle that was only ever offered bytes takes fields, and sends a header section that has no status.
-/
namespace Sluice

namespace Loopback

/-- Bytes are offered on the handle. -/
def Op.offers (handle : HandleId) : Op → Bool
  | .offer other _ => other = handle
  | _ => false

/-- The header section of the handle was sent. -/
def Entry.sends (handle : HandleId) (entry : Entry) : Bool :=
  entry.op = .send handle ∧ entry.answer = .header (.ok ())

/-- A response was begun on the handle. -/
def Begun (handle : HandleId) (seen : List Entry) : Prop :=
  ∃ entry ∈ seen, entry.op.begins handle = true

/-- Bytes were offered on the handle. -/
def Offered (handle : HandleId) (seen : List Entry) : Prop :=
  ∃ entry ∈ seen, entry.op.offers handle = true

/-- The header section of the handle was sent, and no response was begun there since. -/
def Closed (handle : HandleId) (seen : List Entry) : Prop :=
  ∃ before sent after, seen = before ++ sent :: after ∧ sent.sends handle = true ∧
    ∀ entry ∈ after, entry.op.begins handle = false

instance (handle : HandleId) (seen : List Entry) : Decidable (Begun handle seen) :=
  inferInstanceAs (Decidable (∃ entry ∈ seen, entry.op.begins handle = true))

variable {capacity : Option Nat} {handle : HandleId} {seen : List Entry} {entry : Entry}
  {before after : Option Exchange}

theorem begun_concat :
    Begun handle (seen ++ [entry]) ↔ Begun handle seen ∨ entry.op.begins handle = true := by
  simp [Begun, or_and_right, exists_or]

theorem offered_concat :
    Offered handle (seen ++ [entry]) ↔ Offered handle seen ∨ entry.op.offers handle = true := by
  simp [Offered, or_and_right, exists_or]

/-- A header section is closed by its sending, and stays so until a response begins. -/
theorem closed_concat :
    Closed handle (seen ++ [entry]) ↔
      entry.sends handle = true ∨ Closed handle seen ∧ entry.op.begins handle = false := by
  constructor
  · rintro ⟨before, sent, after, hseen, hsent, hlater⟩
    rcases List.eq_nil_or_concat after with rfl | ⟨after, last, rfl⟩
    · obtain ⟨-, hlast⟩ := List.append_inj' hseen rfl
      cases hlast
      exact .inl hsent
    · rw [List.concat_eq_append] at hseen hlater
      rw [← List.cons_append, ← List.append_assoc] at hseen
      obtain ⟨hfirst, hlast⟩ := List.append_inj' hseen rfl
      cases hlast
      exact .inr ⟨⟨before, sent, after, hfirst, hsent, fun e he =>
        hlater e (List.mem_append_left _ he)⟩, hlater _ List.mem_concat_self⟩
  · rintro (hsent | ⟨⟨before, sent, after, rfl, hsent, hlater⟩, hstays⟩)
    · exact ⟨seen, entry, [], rfl, hsent, fun _ h => absurd h List.not_mem_nil⟩
    · refine ⟨before, sent, after ++ [entry], List.append_assoc .., hsent, fun e he => ?_⟩
      rcases List.mem_append.1 he with he | he
      · exact hlater e he
      · rw [List.mem_singleton.1 he]
        exact hstays

/-- Whether there is an exchange, and how far its header section got, is what was seen of the
handle. -/
structure Preamble (handle : HandleId) (seen : List Entry) (o : Option Exchange) : Prop where
  isSome_iff : o.isSome ↔ Begun handle seen ∨ Offered handle seen
  headersSent_iff : (o.getD {}).headersSent ↔ Closed handle seen
  status_iff : (o.getD {}).status.isSome ↔ Begun handle seen

theorem preamble_nil (handle : HandleId) : Preamble handle [] none where
  isSome_iff := by simp [Begun, Offered]
  headersSent_iff := by simp [Closed]
  status_iff := by simp [Begun]

/-- An entry that neither begins a response nor offers bytes nor sends the header section leaves
everything as it was seen. -/
theorem Preamble.concat_of_idle (h : Preamble handle seen before)
    (hbegins : entry.op.begins handle = false) (hoffers : entry.op.offers handle = false)
    (hsends : entry.sends handle = false) (hsome : after.isSome = before.isSome)
    (hsent : (after.getD {}).headersSent = (before.getD {}).headersSent)
    (hstatus : (after.getD {}).status = (before.getD {}).status) :
    Preamble handle (seen ++ [entry]) after where
  isSome_iff := by simp [begun_concat, offered_concat, hbegins, hoffers, hsome, h.isSome_iff]
  headersSent_iff := by simp [closed_concat, hbegins, hsends, hsent, h.headersSent_iff]
  status_iff := by simp [begun_concat, hbegins, hstatus, h.status_iff]

theorem Preamble.turns (h : Preamble handle seen before)
    (hturns : Turns capacity handle before entry after) :
    Preamble handle (seen ++ [entry]) after := by
  cases hturns with
  | apart hne hall =>
    obtain ⟨op, answer, signals⟩ := entry
    refine h.concat_of_idle ?_ ?_ ?_ rfl rfl rfl
    · cases op <;> simp_all [Op.begins, Op.handle?]
    · cases op <;> simp_all [Op.offers, Op.handle?]
    · cases op <;> simp_all [Entry.sends, Op.handle?]
  | begun =>
    exact ⟨by simp [begun_concat, Op.begins], by simp [closed_concat, Op.begins, Entry.sends],
      by simp [begun_concat, Op.begins]⟩
  | named => exact h.concat_of_idle rfl rfl rfl rfl rfl rfl
  | namedLate => exact h.concat_of_idle rfl rfl rfl rfl rfl rfl
  | namedEarly => exact h.concat_of_idle rfl rfl rfl rfl rfl rfl
  | sent =>
    obtain ⟨hsome, -, hstatus⟩ := h
    exact ⟨by simpa [begun_concat, offered_concat, Op.begins, Op.offers] using hsome,
      by simp [closed_concat, Entry.sends], by simpa [begun_concat, Op.begins] using hstatus⟩
  | sentEarly => exact h.concat_of_idle rfl rfl (by simp [Entry.sends]) rfl rfl rfl
  | offered he =>
    obtain ⟨-, hsent, hstatus⟩ := h
    rw [he] at hsent hstatus
    exact ⟨by simp [offered_concat, Op.offers],
      by simpa [closed_concat, Op.begins, Entry.sends] using hsent,
      by simpa [begun_concat, Op.begins] using hstatus⟩
  | drained =>
    exact h.concat_of_idle rfl rfl rfl Option.isSome_map (by cases before <;> rfl)
      (by cases before <;> rfl)
  | drainedAll =>
    exact h.concat_of_idle rfl rfl rfl Option.isSome_map (by cases before <;> rfl)
      (by cases before <;> rfl)

/-! ## The answers -/

/-- A field is taken where there is an exchange whose header section is open. -/
theorem addField_eq_ok_iff (t : Loopback) (handle : HandleId) (name value : ByteArray) :
    (t.addField handle name value).2 = .ok () ↔
      (t.exchanges.find? handle).isSome ∧ ¬ (t.exchange handle).headersSent := by
  unfold addField exchange
  cases t.exchanges.find? handle with
  | none => simp
  | some e => cases hsent : e.headersSent <;> simp [hsent]

/-- A field is refused for one of two causes. -/
theorem addField_eq_error_iff (t : Loopback) (handle : HandleId) (name value : ByteArray)
    (e : TransportError) :
    (t.addField handle name value).2 = .error e ↔
      (t.exchange handle).headersSent ∧ e = .rejected .addField "headers already sent" ∨
      ¬ (t.exchanges.find? handle).isSome ∧
        e = .rejected .addField "response not initialized" := by
  unfold addField exchange
  cases t.exchanges.find? handle with
  | none => simp [eq_comm]
  | some x => cases hsent : x.headersSent <;> simp [hsent, eq_comm]

theorem sendHeaders_eq_ok_iff (t : Loopback) (handle : HandleId) :
    (t.sendHeaders handle).2 = .ok () ↔ (t.exchanges.find? handle).isSome := by
  unfold sendHeaders
  cases t.exchanges.find? handle <;> simp

theorem sendHeaders_eq_error_iff (t : Loopback) (handle : HandleId) (e : TransportError) :
    (t.sendHeaders handle).2 = .error e ↔
      ¬ (t.exchanges.find? handle).isSome ∧
        e = .rejected .sendHeaders "response not initialized" := by
  unfold sendHeaders
  cases t.exchanges.find? handle <;> simp [eq_comm]

namespace Observed

theorem preamble_run (capacity : Option Nat) (routing : Option AckRouting) (ops : List Op)
    (handle : HandleId) :
    Preamble handle ((start capacity routing).run ops).seen
      (((start capacity routing).run ops).transport.exchanges.find? handle) :=
  run_induct (P := fun w => Preamble handle w.seen (w.transport.exchanges.find? handle))
    (fun w op h => h.turns (w.transport.turns_act op handle)) (preamble_nil handle) ops

/-- After any history the header calls on a handle are answered by what was seen of it. A field is
taken if a response was begun there or bytes were offered, and the header section was not sent since
the last response began; the section is sent under the first of these alone. A call that is refused
says why and changes nothing at all. Under that first condition there is an exchange. Its header
section counts as sent if it was since the last response began, and it has a status exactly if a
response was ever begun. -/
theorem accepts_header_iff (capacity : Option Nat) (routing : Option AckRouting) (ops : List Op)
    (handle : HandleId) :
    let t := ((start capacity routing).run ops).transport
    let seen := ((start capacity routing).run ops).seen
    (∀ name value, (t.addField handle name value).2 = .ok () ↔
      (Begun handle seen ∨ Offered handle seen) ∧ ¬ Closed handle seen) ∧
    ((t.sendHeaders handle).2 = .ok () ↔ Begun handle seen ∨ Offered handle seen) ∧
    (∀ name value e, (t.addField handle name value).2 = .error e →
      (t.addField handle name value).1 = t ∧
        (Closed handle seen ∧ e = .rejected .addField "headers already sent" ∨
          ¬ Begun handle seen ∧ ¬ Offered handle seen ∧
            e = .rejected .addField "response not initialized")) ∧
    (∀ e, (t.sendHeaders handle).2 = .error e →
      (t.sendHeaders handle).1 = t ∧ ¬ Begun handle seen ∧ ¬ Offered handle seen ∧
        e = .rejected .sendHeaders "response not initialized") ∧
    ((t.exchanges.find? handle).isSome ↔ Begun handle seen ∨ Offered handle seen) ∧
    ∀ e, t.exchanges.find? handle = some e →
      (e.headersSent ↔ Closed handle seen) ∧ (e.status.isSome ↔ Begun handle seen) := by
  intro t seen
  obtain ⟨hsome, hsent, hstatus⟩ := preamble_run capacity routing ops handle
  refine ⟨fun name value => ?_, ?_, fun name value e he => ⟨?_, ?_⟩, fun e he => ⟨?_, ?_⟩, hsome,
    fun e he => ?_⟩
  · rw [addField_eq_ok_iff, ← hsome, ← hsent]
    rfl
  · rw [sendHeaders_eq_ok_iff, ← hsome]
  · exact addField_eq_error (Prod.ext rfl he)
  · rcases (t.addField_eq_error_iff handle name value e).1 he with ⟨hlate, rfl⟩ | ⟨hnone, rfl⟩
    · exact .inl ⟨hsent.1 hlate, rfl⟩
    · obtain ⟨hbegun, hoffered⟩ := not_or.1 (mt hsome.2 hnone)
      exact .inr ⟨hbegun, hoffered, rfl⟩
  · exact sendHeaders_eq_error (Prod.ext rfl he)
  · obtain ⟨hnone, rfl⟩ := (t.sendHeaders_eq_error_iff handle e).1 he
    obtain ⟨hbegun, hoffered⟩ := not_or.1 (mt hsome.2 hnone)
    exact ⟨hbegun, hoffered, rfl⟩
  · have hexchange : t.exchanges.find? handle = some e := he
    rw [hexchange] at hsent hstatus
    exact ⟨hsent, hstatus⟩

/-- A response that was sent, and the next one begun on the same handle. -/
def reopened : List Op :=
  [.init ⟨1⟩ .ok ⟨1, 2⟩, .field ⟨1⟩ "a".toUTF8 "b".toUTF8, .send ⟨1⟩, .init ⟨1⟩ .ok ⟨0, 0⟩]

/-- The next response takes fields again, and a handle without one takes none. -/
theorem accepts_header_iff_reopened :
    let t := ((start none none).run reopened).transport
    (t.addField ⟨1⟩ "c".toUTF8 "d".toUTF8).2 = .ok () ∧
      ((t.sendHeaders ⟨2⟩).2 = .error (.rejected .sendHeaders "response not initialized") ∧
        (t.sendHeaders ⟨2⟩).1 = t) := by
  intro t
  obtain ⟨hfield, -, -, -, -, hexchange⟩ := accepts_header_iff none none reopened ⟨1⟩
  obtain ⟨-, -, -, hrefused, -⟩ := accepts_header_iff none none reopened ⟨2⟩
  have hbegun : Begun ⟨1⟩ ((start none none).run reopened).seen := by decide +kernel
  have hopen : (t.exchanges.find? ⟨1⟩).map Exchange.headersSent = some false := by decide +kernel
  obtain ⟨e, he, hopen⟩ := Option.map_eq_some_iff.1 hopen
  have hearly : (t.sendHeaders ⟨2⟩).2 =
      .error (.rejected .sendHeaders "response not initialized") := by decide +kernel
  have hunsent : ¬ Closed ⟨1⟩ ((start none none).run reopened).seen := fun hclosed =>
    ne_true_of_eq_false hopen ((hexchange e he).1.2 hclosed)
  exact ⟨(hfield _ _).2 ⟨.inl hbegun, hunsent⟩, hearly, (hrefused _ hearly).1⟩

/-- No response was ever begun on the handle, yet it takes a field and sends a header section, which
has no status. -/
theorem accepts_unbegun :
    let w := (start none none).run [.offer ⟨1⟩ "x".toUTF8]
    let e := (w.act (.send ⟨1⟩)).transport.exchange ⟨1⟩
    ¬ Begun ⟨1⟩ w.seen ∧ (w.transport.addField ⟨1⟩ "a".toUTF8 "b".toUTF8).2 = .ok () ∧
      (w.transport.sendHeaders ⟨1⟩).2 = .ok () ∧ e.headersSent = true ∧ e.status = none := by
  decide +kernel

end Observed

end Loopback

end Sluice
