import Sluice.Transport.Faithful

/-!
# Obliging transports

An obliging transport takes every header section, whatever is on the handle already. The loopback
transport is one, whatever its capacity.
-/
namespace Sluice

namespace Transport

class Obliging (τ : Type) [Transport τ] extends Orderly τ where
  sendSection_ok : ∀ (t : τ) handle status layout fields,
    (sendSection t handle status layout fields).2 = .ok ()

end Transport

namespace Loopback

/-- While an exchange is open every field is taken, and it stays open. -/
theorem addFields_ok (t : Loopback) (handle : HandleId) (fields : List (FieldName × FieldValue))
    {e : Exchange} (he : t.exchanges.find? handle = some e) (hopen : e.headersSent = false) :
    (Transport.addFields t handle fields).2 = .ok () ∧
      ∃ e', (Transport.addFields t handle fields).1.exchanges.find? handle = some e' := by
  induction fields generalizing t e with
  | nil => exact ⟨rfl, e, he⟩
  | cons f rest ih =>
    let e' : Exchange := { e with fields := e.fields ++ [(f.1.bytes, f.2.bytes)] }
    have hadd : Transport.addField t handle f.1.bytes f.2.bytes = (t.set handle e', .ok ()) := by
      show t.addField handle f.1.bytes f.2.bytes = _
      simp [addField, he, hopen, e']
    simp only [Transport.addFields, hadd]
    exact ih (t.set handle e') (Table.find?_insert_self ..) hopen

theorem sendSection_ok (t : Loopback) (handle : HandleId) (status : Http.Status) (layout : Layout)
    (fields : List (FieldName × FieldValue)) :
    (Transport.sendSection t handle status layout fields).2 = .ok () := by
  have hinit : Transport.initResponse t handle status layout =
      (t.initResponse handle status layout, .ok ()) := rfl
  obtain ⟨hadd, e, he⟩ := addFields_ok (t.initResponse handle status layout) handle fields
    (Table.find?_insert_self ..) rfl
  revert hadd he
  simp only [Transport.sendSection, hinit]
  rcases Transport.addFields (t.initResponse handle status layout) handle fields with ⟨t', answer⟩
  rintro rfl he
  show (t'.sendHeaders handle).2 = .ok ()
  have he' : t'.exchanges.find? handle = some e := he
  simp [sendHeaders, he']

instance : Transport.Obliging Loopback := ⟨sendSection_ok⟩

end Loopback

end Sluice
