import Mathlib.Algebra.Ring.Nat
import Mathlib.Data.List.Induction
import Sluice.Fields.Layout

/-!
# Which header sections have a layout

A section has a layout exactly if every name is short enough for its length to be told in one byte
and both sums are small enough for 32 bits. The layout is then that of the fields, in whatever order
they were added. A machine adds in words, which wrap. But it looks at every sum before it keeps it,
so after each field its words are the sums themselves.
-/
namespace Sluice

namespace Layout

variable {l l' : Layout} {name : FieldName} {value : FieldValue}
  {fields order : List (FieldName × FieldValue)}

/-- Fields that the transport's preamble has room for. -/
structure Fits (fields : List (FieldName × FieldValue)) : Prop where
  names : ∀ field ∈ fields, field.1.bytes.size ≤ 255
  count : (ofInstances fields).count ≤ 2 ^ 32 - 1
  size : (ofInstances fields).size ≤ 2 ^ 32 - 1

/-! ## What fields take -/

theorem ofInstances_eq_of_perm (h : order.Perm fields) :
    ofInstances order = ofInstances fields := by
  have hsize : (ofInstances order).size = (ofInstances fields).size :=
    h.foldr_eq' (fun _ _ _ _ _ => by omega) 0
  simp only [ofInstances, mk.injEq] at hsize ⊢
  exact ⟨h.length_eq, hsize⟩

theorem Fits.of_perm (hfits : Fits order) (h : order.Perm fields) : Fits fields where
  names field hfield := hfits.names field (h.mem_iff.2 hfield)
  count := ofInstances_eq_of_perm h ▸ hfits.count
  size := ofInstances_eq_of_perm h ▸ hfits.size

theorem fits_iff_of_perm (h : order.Perm fields) : Fits order ↔ Fits fields :=
  ⟨fun hfits => hfits.of_perm h, fun hfits => hfits.of_perm h.symm⟩

/-- The last field comes on top of what those before it take. -/
theorem ofInstances_concat :
    ofInstances (fields ++ [(name, value)]) =
      ⟨(ofInstances fields).count + 1,
        (ofInstances fields).size + (name.bytes.size + value.bytes.size)⟩ := by
  rw [ofInstances_eq_of_perm (List.perm_append_singleton _ _),
    Nat.add_comm (ofInstances fields).size]
  rfl

theorem fits_concat_iff :
    Fits (fields ++ [(name, value)]) ↔
      Fits fields ∧ name.bytes.size ≤ 255 ∧ (ofInstances fields).count + 1 ≤ 2 ^ 32 - 1 ∧
        (ofInstances fields).size + (name.bytes.size + value.bytes.size) ≤ 2 ^ 32 - 1 := by
  constructor
  · rintro ⟨hnames, hcount, hsize⟩
    obtain ⟨hnames, hname⟩ := List.forall_mem_append.1 hnames
    simp only [ofInstances_concat] at hcount hsize
    exact ⟨⟨hnames, by omega, by omega⟩, hname _ List.mem_cons_self, hcount, hsize⟩
  · rintro ⟨⟨hnames, -, -⟩, hname, hcount, hsize⟩
    refine ⟨List.forall_mem_append.2 ⟨hnames, List.forall_mem_singleton.2 hname⟩, ?_, ?_⟩
    · rwa [ofInstances_concat]
    · rwa [ofInstances_concat]

/-! ## Adding fields up -/

/-- That a field alone is not too long need not be said: it follows from the sum. -/
theorem add_eq_ok_iff :
    l.add name value = .ok l' ↔
      name.bytes.size ≤ maxName ∧ l.count + 1 ≤ maxSum ∧
        l.size + (name.bytes.size + value.bytes.size) ≤ maxSum ∧
        l' = ⟨l.count + 1, l.size + (name.bytes.size + value.bytes.size)⟩ := by
  constructor
  · intro h
    obtain rfl := add_eq_ok h
    unfold add at h
    grind
  · rintro ⟨hname, hcount, hsize, rfl⟩
    unfold add
    rw [if_neg (by omega), if_neg (by omega), if_neg (by omega), if_neg (by omega)]

theorem addAll_concat_eq_ok_iff :
    l.addAll (fields ++ [(name, value)]) = .ok l' ↔
      ∃ l₁, l.addAll fields = .ok l₁ ∧ l₁.add name value = .ok l' := by
  induction fields generalizing l with
  | nil =>
    simp only [addAll, List.nil_append, Except.ok.injEq, exists_eq_left']
    cases l.add name value <;> rfl
  | cons field rest ih =>
    obtain ⟨first, _⟩ := field
    simp only [addAll, List.cons_append]
    cases l.add first _ with
    | error fault => simp
    | ok l₁ => exact ih

/-- Fields can be added to the last one exactly if they fit. -/
theorem addAll_eq_ok_iff :
    addAll ⟨0, 0⟩ fields = .ok l ↔ Fits fields ∧ l = ofInstances fields := by
  -- from the end: whether the last field can be added is a matter of the sums before it
  induction fields using List.reverseRecOn generalizing l with
  | nil =>
    have hfits : Fits [] := ⟨fun _ h => absurd h List.not_mem_nil, by decide, by decide⟩
    simp only [addAll, hfits, true_and, Except.ok.injEq, eq_comm]
    rfl
  | append_singleton fields field ih =>
    obtain ⟨name, value⟩ := field
    rw [addAll_concat_eq_ok_iff, fits_concat_iff, ofInstances_concat]
    simp only [ih]
    constructor
    · rintro ⟨_, ⟨hfits, rfl⟩, hadd⟩
      obtain ⟨hname, hcount, hsize, rfl⟩ := add_eq_ok_iff.1 hadd
      exact ⟨⟨hfits, hname, hcount, hsize⟩, rfl⟩
    · rintro ⟨⟨hfits, hname, hcount, hsize⟩, rfl⟩
      exact ⟨_, ⟨hfits, rfl⟩, add_eq_ok_iff.2 ⟨hname, hcount, hsize, rfl⟩⟩

/-! ## Adding in words

The numbers of a layout have no bound of their own, so adding them says nothing about a sum that
wraps. Here the same checks are made on words, and the same comes of them. -/

/-- The sums as a machine keeps them. -/
structure Words where
  count : UInt32
  size : UInt32

namespace Words

def toLayout (w : Words) : Layout := ⟨w.count.toNat, w.size.toNat⟩

@[simp] theorem toLayout_count (w : Words) : w.toLayout.count = w.count.toNat := rfl

@[simp] theorem toLayout_size (w : Words) : w.toLayout.size = w.size.toNat := rfl

/-- The sum of two words, unless it wrapped: then it is less than what was added to. -/
def plus (fault : FieldFault) (a b : UInt32) : Except FieldFault UInt32 :=
  if a + b < a then .error fault else .ok (a + b)

/-- A word of half the width, where the number fits into it. -/
def narrow (fault : FieldFault) (n : UInt64) : Except FieldFault UInt32 :=
  if 4294967295 < n then .error fault else .ok n.toUInt32

/-- Adds one field to what was measured so far. Lengths are words of 64 bits. -/
def add (w : Words) (name : FieldName) (value : FieldValue) : Except FieldFault Words := do
  let length := name.bytes.size.toUInt64
  if 255 < length then throw (.nameTooLong length.toNat)
  let bytes ← narrow (.fieldTooLong (Text.ofBytes name.bytes)) (length + value.bytes.size.toUInt64)
  let count ← plus .tooMany w.count 1
  let size ← plus .tooLarge w.size bytes
  return ⟨count, size⟩

/-- Adds fields in order, up to the first that does not fit. -/
def addAll (w : Words) : List (FieldName × FieldValue) → Except FieldFault Words
  | [] => .ok w
  | (name, value) :: rest =>
    match w.add name value with
    | .ok w => w.addAll rest
    | .error fault => .error fault

variable {fault : FieldFault}

/-- Two words wrap once at most, so that it shows in the sum whether they did. -/
theorem plus_eq (a b : UInt32) :
    plus fault a b = if maxSum < a.toNat + b.toNat then .error fault else .ok (a + b) := by
  have ha := a.toNat_lt
  have hb := b.toNat_lt
  have hwraps : a + b < a ↔ maxSum < a.toNat + b.toNat := by
    rw [UInt32.lt_iff_toNat_lt, UInt32.toNat_add, maxSum]
    omega
  simp only [plus, hwraps]

theorem toNat_add_of_le {a b : UInt32} (h : a.toNat + b.toNat ≤ maxSum) :
    (a + b).toNat = a.toNat + b.toNat := by
  rw [UInt32.toNat_add]
  exact Nat.mod_eq_of_lt (Nat.lt_succ_of_le h)

/-- Words that were added to without a wrap are the sums. -/
theorem toLayout_sums {w : Words} {bytes : UInt32} (hcount : w.count.toNat + 1 ≤ maxSum)
    (hsize : w.size.toNat + bytes.toNat ≤ maxSum) :
    toLayout ⟨w.count + 1, w.size + bytes⟩ = ⟨w.count.toNat + 1, w.size.toNat + bytes.toNat⟩ := by
  have hcounted : (w.count + 1).toNat = w.count.toNat + 1 := toNat_add_of_le hcount
  rw [toLayout, hcounted, toNat_add_of_le hsize]

theorem narrow_eq (n : UInt64) :
    narrow fault n = if maxSum < n.toNat then .error fault else .ok n.toUInt32 := by
  have hwide : 4294967295 < n ↔ maxSum < n.toNat := UInt64.lt_iff_toNat_lt
  simp only [narrow, hwide]

theorem toNat_toUInt32_of_le {n : UInt64} (h : n.toNat ≤ maxSum) : n.toUInt32.toNat = n.toNat := by
  rw [UInt64.toNat_toUInt32]
  exact Nat.mod_eq_of_lt (Nat.lt_succ_of_le h)

/-- No run of bytes in memory is longer than half of what a word of 64 bits can tell. -/
def InMemory (fields : List (FieldName × FieldValue)) : Prop :=
  ∀ field ∈ fields, field.2.bytes.size < 2 ^ 63

theorem toNat_length (name : FieldName) : name.bytes.size.toUInt64.toNat = name.bytes.size :=
  UInt64.toNat_ofNat_of_lt' (Nat.lt_of_le_of_lt name.short (by decide))

/-- The length of a field never wraps. -/
theorem toNat_fieldLength (h : value.bytes.size < 2 ^ 63) :
    (name.bytes.size.toUInt64 + value.bytes.size.toUInt64).toNat =
      name.bytes.size + value.bytes.size := by
  have hshort := name.short
  have hvalue : value.bytes.size.toUInt64.toNat = value.bytes.size :=
    UInt64.toNat_ofNat_of_lt' (Nat.lt_trans h (by decide))
  rw [UInt64.toNat_add, toNat_length, hvalue]
  exact Nat.mod_eq_of_lt (by omega)

/-- A field is added to words, or refused for the same fault, as it is to unbounded numbers. -/
theorem toLayout_add (w : Words) (name : FieldName) (h : value.bytes.size < 2 ^ 63) :
    (w.add name value).map toLayout = w.toLayout.add name value := by
  have hlength : 255 < name.bytes.size.toUInt64 ↔ maxName < name.bytes.size := by
    rw [UInt64.lt_iff_toNat_lt, toNat_length]
    rfl
  unfold add Layout.add
  simp only [hlength, narrow_eq, plus_eq, toNat_length, toNat_fieldLength h, toLayout_count,
    toLayout_size, UInt32.toNat_one]
  -- the checks, each where those before it passed
  by_cases hname : maxName < name.bytes.size
  · simp only [hname, if_true]
    rfl
  by_cases hlong : maxSum < name.bytes.size + value.bytes.size
  · simp only [hname, hlong, if_true, if_false]
    rfl
  have hbytes : (name.bytes.size.toUInt64 + value.bytes.size.toUInt64).toUInt32.toNat =
      name.bytes.size + value.bytes.size := by
    rw [toNat_toUInt32_of_le (toNat_fieldLength h ▸ Nat.not_lt.1 hlong), toNat_fieldLength h]
  simp only [hname, hlong, if_false, bind, Except.bind, hbytes]
  by_cases hcount : maxSum < w.count.toNat + 1
  · simp only [hcount, if_true]
    rfl
  by_cases hsize : maxSum < w.size.toNat + (name.bytes.size + value.bytes.size)
  · simp only [hcount, hsize, if_true, if_false]
    rfl
  have hsums := toLayout_sums (Nat.not_lt.1 hcount) (hbytes.symm ▸ Nat.not_lt.1 hsize)
  rw [hbytes] at hsums
  simp only [hcount, hsize, if_false]
  exact congrArg Except.ok hsums

/-- Adding fields to words comes to what adding them to unbounded numbers does. -/
theorem toLayout_addAll (w : Words) (h : InMemory fields) :
    (w.addAll fields).map toLayout = w.toLayout.addAll fields := by
  induction fields generalizing w with
  | nil => rfl
  | cons field rest ih =>
    obtain ⟨name, value⟩ := field
    obtain ⟨hvalue, hrest⟩ := List.forall_mem_cons.1 h
    have hadd := w.toLayout_add name hvalue
    simp only [addAll, Layout.addAll]
    cases hw : w.add name value with
    | error fault =>
      rw [hw] at hadd
      rw [← hadd]
      rfl
    | ok w₁ =>
      rw [hw] at hadd
      rw [← hadd]
      exact ih w₁ hrest

theorem toLayout_inj {w w' : Words} (h : w.toLayout = w'.toLayout) : w = w' := by
  obtain ⟨hcount, hsize⟩ := Layout.mk.inj h
  cases w
  cases w'
  rw [mk.injEq]
  exact ⟨UInt32.toNat_inj.1 hcount, UInt32.toNat_inj.1 hsize⟩

/-- Words take all the fields exactly if these fit, and are then the sums. -/
theorem addAll_eq_ok_iff {w : Words} (h : InMemory fields) :
    addAll ⟨0, 0⟩ fields = .ok w ↔ Fits fields ∧ w.toLayout = ofInstances fields := by
  have hsame : (addAll ⟨0, 0⟩ fields).map toLayout = Layout.addAll ⟨0, 0⟩ fields :=
    toLayout_addAll ⟨0, 0⟩ h
  rw [← Layout.addAll_eq_ok_iff, ← hsame]
  cases addAll ⟨0, 0⟩ fields with
  | error fault => simp [Except.map]
  | ok w' =>
    simp only [Except.map, Except.ok.injEq]
    exact ⟨congrArg toLayout, toLayout_inj⟩

end Words

/-- A section has a layout exactly if no name is longer than 255 bytes and both the number of its
fields and their summed length fit into 32 bits. Its layout is then these two numbers. Measuring the
fields in any other order gives the same layout, or none again. On a machine, where no value is
longer than memory allows, the two sums are words that wrap. Yet up to any field it takes the fields
exactly if they fit, and then its words are their number and their summed length. -/
theorem measure_eq_ok_iff_fits (f : Fields) :
    (∀ l, measure f = .ok l ↔ Fits f.instances ∧ l = ofInstances f.instances) ∧
    (∀ order, order.Perm f.instances → ∀ l, addAll ⟨0, 0⟩ order = .ok l ↔ measure f = .ok l) ∧
    (Words.InMemory f.instances → ∀ before, before <+: f.instances → ∀ w,
      Words.addAll ⟨0, 0⟩ before = .ok w ↔ Fits before ∧ w.toLayout = ofInstances before) := by
  refine ⟨fun l => addAll_eq_ok_iff, fun order horder l => ?_, fun hmemory before hbefore w => ?_⟩
  · rw [measure, addAll_eq_ok_iff, addAll_eq_ok_iff, fits_iff_of_perm horder,
      ofInstances_eq_of_perm horder]
  · exact Words.addAll_eq_ok_iff fun field hfield => hmemory field (hbefore.subset hfield)

/-! ## A section that just fits -/

/-- So many letters. -/
def letters (n : Nat) : ByteArray := ⟨Array.replicate n 120⟩

theorem size_letters (n : Nat) : (letters n).size = n := Array.size_replicate

theorem all_letters {p : UInt8 → Bool} (h : p 120 = true) (n : Nat) :
    (letters n).data.toList.all p = true := by
  simp [letters, h]

/-- A name of so many letters. -/
def nameOf (n : Nat) (h : 0 < n ∧ n ≤ 65535) : FieldName where
  bytes := letters n
  nonempty := (size_letters n).symm ▸ h.1
  short := (size_letters n).symm ▸ h.2
  token := all_letters (by decide) n

/-- A value of so many letters. -/
def valueOf (n : Nat) : FieldValue := ⟨letters n, all_letters (by decide) n⟩

/-- A section of one name, the longest there is, and two values. -/
def twoValued (n m : Nat) : Fields where
  table.entries := [(nameOf 255 (by decide), { head := valueOf n, more := [valueOf m] })]
  table.distinct := List.pairwise_singleton ..

theorem instances_twoValued (n m : Nat) :
    (twoValued n m).instances =
      [(nameOf 255 (by decide), valueOf n), (nameOf 255 (by decide), valueOf m)] := rfl

theorem ofInstances_twoValued (n m : Nat) :
    ofInstances (twoValued n m).instances = ⟨2, 510 + n + m⟩ := by
  rw [instances_twoValued, ofInstances, mk.injEq]
  refine ⟨rfl, ?_⟩
  simp only [List.foldr_cons, List.foldr_nil, nameOf, valueOf, size_letters]
  omega

theorem fits_twoValued {n m : Nat} (h : n + m ≤ 4294966785) :
    Fits (twoValued n m).instances where
  names := by
    simp only [instances_twoValued, List.forall_mem_cons]
    have hname : (letters 255).size ≤ 255 := Nat.le_of_eq (size_letters 255)
    exact ⟨hname, hname, fun _ h => absurd h List.not_mem_nil⟩
  count := by simp [ofInstances_twoValued]
  size := by
    rw [ofInstances_twoValued]
    show 510 + n + m ≤ 4294967295
    omega

theorem inMemory_twoValued {n m : Nat} (hn : n < 2 ^ 63) (hm : m < 2 ^ 63) :
    Words.InMemory (twoValued n m).instances := by
  simp only [Words.InMemory, instances_twoValued, List.forall_mem_cons]
  refine ⟨?_, ?_, fun _ h => absurd h List.not_mem_nil⟩
  · rwa [valueOf, size_letters]
  · rwa [valueOf, size_letters]

/-- A section that takes all of 32 bits has a layout, also with its values swapped, and in words.
With one byte more it has none. -/
theorem measure_eq_ok_iff_fits_brimful :
    let brimful := twoValued 4294966785 0
    measure brimful = .ok ⟨2, 4294967295⟩ ∧
      addAll ⟨0, 0⟩ brimful.instances.reverse = .ok ⟨2, 4294967295⟩ ∧
      Words.addAll ⟨0, 0⟩ brimful.instances = .ok ⟨2, 4294967295⟩ ∧
      ∀ l, measure (twoValued 4294966785 1) ≠ .ok l := by
  intro brimful
  obtain ⟨hmeasure, horder, hwords⟩ := measure_eq_ok_iff_fits brimful
  obtain ⟨hmore, -, -⟩ := measure_eq_ok_iff_fits (twoValued 4294966785 1)
  have hfits : Fits brimful.instances := fits_twoValued (by decide)
  have hsums : ofInstances brimful.instances = ⟨2, 4294967295⟩ := ofInstances_twoValued _ 0
  have hmemory : Words.InMemory brimful.instances := inMemory_twoValued (by decide) (by decide)
  have hfull : measure brimful = .ok ⟨2, 4294967295⟩ := (hmeasure _).2 ⟨hfits, hsums.symm⟩
  refine ⟨hfull, (horder _ (List.reverse_perm _) _).2 hfull,
    (hwords hmemory _ List.prefix_rfl _).2 ⟨hfits, hsums.symm⟩, fun l hl => ?_⟩
  have hsize := ((hmore l).1 hl).1.size
  rw [ofInstances_twoValued] at hsize
  exact absurd hsize (by decide)

/-- Only which fault is told depends on the order: it is that of the first field in the way. -/
example :
    let field := (nameOf 256 (by decide), valueOf 0)
    let longer := (nameOf 257 (by decide), valueOf 0)
    addAll ⟨0, 0⟩ [field, longer] = .error (.nameTooLong 256) ∧
      addAll ⟨0, 0⟩ [longer, field] = .error (.nameTooLong 257) := by
  decide +kernel

end Layout

end Sluice
