import Sluice.Http.Token
import Sluice.Table

/-!
# Header fields

A header section maps field names to one or more values each. Names stand in the order of their
first insertion, and all values of a name stand together, so `instances`, the sequence that is
sent, lists a name once per value.
-/
namespace Sluice

/-- Bytes are compared by the test of the core library. -/
instance instDecidableEqBytes : DecidableEq ByteArray := ByteArray.decEq

/-- A field name is a token in small letters, at most 65535 bytes long. -/
structure FieldName where
  bytes : ByteArray
  nonempty : 0 < bytes.size
  short : bytes.size ≤ 65535
  token : bytes.data.toList.all (fun b => Http.isToken b.toNat && !Http.isUpper b.toNat) = true
deriving DecidableEq

namespace FieldName

/-- Every byte of the name as a small letter. -/
def lowered (bytes : ByteArray) : ByteArray :=
  ⟨bytes.data.map fun b => UInt8.ofNat (Http.lower b.toNat)⟩

/-- Capitals are read as small letters. -/
def ofBytes? (bytes : ByteArray) : Option FieldName :=
  let name := lowered bytes
  if h : 0 < name.size ∧ name.size ≤ 65535 ∧
      name.data.toList.all (fun b => Http.isToken b.toNat && !Http.isUpper b.toNat) = true then
    some ⟨name, h.1, h.2.1, h.2.2⟩
  else
    none

/-- Names the form of the body. -/
def contentType : FieldName :=
  ⟨"content-type".toUTF8, by decide, by decide, by decide⟩

instance : Inhabited FieldName := ⟨contentType⟩

end FieldName

/-- A field value has no control character but the tab. -/
structure FieldValue where
  bytes : ByteArray
  visible : bytes.data.toList.all (fun b => b == 9 || (32 ≤ b && b != 127)) = true
deriving DecidableEq

namespace FieldValue

def ofBytes? (bytes : ByteArray) : Option FieldValue :=
  if h : bytes.data.toList.all (fun b => b == 9 || (32 ≤ b && b != 127)) = true then some ⟨bytes, h⟩
  else none

/-- The form of a body whose handler named none. -/
def defaultContentType : FieldValue := ⟨"text/html; charset=utf-8".toUTF8, by decide⟩

instance : Inhabited FieldValue := ⟨defaultContentType⟩

end FieldValue

/-- The values of one name, in the order they were added. There is at least one. -/
structure FieldValues where
  head : FieldValue
  more : List FieldValue := []
deriving DecidableEq, Inhabited

namespace FieldValues

def toList (v : FieldValues) : List FieldValue := v.head :: v.more

def append (v : FieldValues) (added : List FieldValue) : FieldValues :=
  { v with more := v.more ++ added }

end FieldValues

/-- A header section. -/
structure Fields where
  table : Table FieldName FieldValues
deriving DecidableEq, Inhabited

namespace Fields

def empty : Fields := ⟨Table.empty⟩

def contains (f : Fields) (name : FieldName) : Bool := f.table.contains name

/-- The values of a name, in order; none if it is absent. -/
def valuesOf (f : Fields) (name : FieldName) : List FieldValue :=
  match f.table.find? name with
  | some values => values.toList
  | none => []

/-- Every name with every one of its values: the sequence in which fields are sent. -/
def instances (f : Fields) : List (FieldName × FieldValue) :=
  f.table.entries.flatMap fun e => e.2.toList.map fun v => (e.1, v)

/-- Gives the name this value alone. A name that is present keeps its place. -/
def insert (f : Fields) (name : FieldName) (value : FieldValue) : Fields :=
  ⟨f.table.insert name { head := value }⟩

/-- Adds a value `times` times after those the name has. -/
def append (f : Fields) (name : FieldName) (value : FieldValue) (times : Nat) : Fields :=
  match times with
  | 0 => f
  | n + 1 =>
    match f.table.find? name with
    | some values => ⟨f.table.insert name (values.append (List.replicate (n + 1) value))⟩
    | none => ⟨f.table.insert name { head := value, more := List.replicate n value }⟩

/-- Removes a name with all its values. The last name takes its place. -/
def remove (f : Fields) (name : FieldName) : Fields := ⟨f.table.swapErase name⟩

/-- Each name of `other` loses the values it has and takes those it has in `other`. -/
def extend (f other : Fields) : Fields :=
  ⟨other.table.entries.foldl (fun t e => t.insert e.1 e.2) f.table⟩

/-- A section without a content type gets the default one, at the end. -/
def withContentType (f : Fields) : Fields :=
  if f.contains .contentType then f else f.insert .contentType .defaultContentType

theorem contains_withContentType (f : Fields) :
    f.withContentType.contains .contentType = true := by
  unfold withContentType
  split
  · assumption
  · simp [contains, insert, Table.contains]

theorem withContentType_of_contains {f : Fields} (h : f.contains .contentType = true) :
    f.withContentType = f :=
  if_pos h

/-- The default content type is sent last, and only where there is none. -/
theorem instances_withContentType (f : Fields) :
    f.withContentType.instances =
      if f.contains .contentType then f.instances
      else f.instances ++ [(.contentType, .defaultContentType)] := by
  unfold withContentType
  split
  · rfl
  · rename_i habsent
    have hnew : FieldName.contentType ∉ f.table.entries.map Prod.fst := fun hmem =>
      habsent (Table.contains_iff.2 hmem)
    have hentries : (f.insert .contentType .defaultContentType).table.entries =
        f.table.entries ++ [(.contentType, { head := .defaultContentType })] :=
      Table.upsert_of_not_mem hnew _
    rw [instances, hentries, List.flatMap_append]
    rfl

/-- An empty section that takes the fields of another becomes that one, order included. -/
theorem empty_extend (f : Fields) : empty.extend f = f := by
  have hentries := Table.entries_foldl_insert (t := Table.empty) f.table.distinct
  exact congrArg mk (Table.ext hentries)

end Fields

end Sluice
