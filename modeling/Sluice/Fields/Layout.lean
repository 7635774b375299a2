import Sluice.Error
import Sluice.Fields.Basic
import Sluice.Text.Lossy

/-!
# The size of a header section

The transport wants to know the number of fields and their summed length before it sees the
first one. It keeps the length of a name in one byte and both sums in 32 bits, so a section
that does not fit is refused before anything is sent.
-/
namespace Sluice

/-- What a header section takes: the number of field instances, and the bytes of all their names
and values. -/
structure Layout where
  count : Nat
  size : Nat
deriving DecidableEq, Inhabited

namespace Layout

/-- The longest field name. -/
def maxName : Nat := 255

/-- The largest sum. -/
def maxSum : Nat := 4294967295

/-- Adds one field to what was measured so far. -/
def add (l : Layout) (name : FieldName) (value : FieldValue) : Except FieldFault Layout :=
  let bytes := name.bytes.size + value.bytes.size
  if maxName < name.bytes.size then .error (.nameTooLong name.bytes.size)
  else if maxSum < bytes then .error (.fieldTooLong (Text.ofBytes name.bytes))
  else if maxSum < l.count + 1 then .error .tooMany
  else if maxSum < l.size + bytes then .error .tooLarge
  else .ok ⟨l.count + 1, l.size + bytes⟩

/-- Adds fields in order, up to the first that does not fit. -/
def addAll (l : Layout) : List (FieldName × FieldValue) → Except FieldFault Layout
  | [] => .ok l
  | (name, value) :: rest =>
    match l.add name value with
    | .ok l => l.addAll rest
    | .error fault => .error fault

/-- The layout of a section, where it has one. -/
def measure (f : Fields) : Except FieldFault Layout := addAll ⟨0, 0⟩ f.instances

/-- What the fields take, whether it fits or not. -/
def ofInstances (fields : List (FieldName × FieldValue)) : Layout where
  count := fields.length
  size := fields.foldr (fun f size => f.1.bytes.size + f.2.bytes.size + size) 0

theorem add_eq_ok {l l' : Layout} {name : FieldName} {value : FieldValue}
    (h : l.add name value = .ok l') :
    l' = ⟨l.count + 1, l.size + (name.bytes.size + value.bytes.size)⟩ := by
  simp only [add] at h
  repeat
    split at h
    · cases h
  cases h
  rfl

theorem addAll_eq_ok {l l' : Layout} {fields : List (FieldName × FieldValue)}
    (h : l.addAll fields = .ok l') :
    l' = ⟨l.count + (ofInstances fields).count, l.size + (ofInstances fields).size⟩ := by
  induction fields generalizing l with
  | nil =>
    cases h
    rfl
  | cons f rest ih =>
    obtain ⟨name, value⟩ := f
    simp only [addAll] at h
    split at h
    · rename_i l₁ hadd
      rw [ih h, add_eq_ok hadd]
      simp only [ofInstances, List.length_cons, List.foldr_cons, mk.injEq]
      omega
    · cases h

/-- A section that fits takes what its fields take. -/
theorem measure_eq_ok {f : Fields} {l : Layout} (h : measure f = .ok l) :
    l = ofInstances f.instances := by
  rw [addAll_eq_ok h]
  simp

/-- The default content type alone fits. -/
theorem measure_withContentType_empty :
    measure Fields.empty.withContentType = .ok ⟨1, 36⟩ := rfl

end Layout

end Sluice
