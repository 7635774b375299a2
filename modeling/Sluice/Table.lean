/-!
# Tables

A finite map whose entries keep the order of their first insertion. Writing a key that is
present keeps its place. Every operation is described by what `find?` answers after it, and
the keys stay distinct by construction, so `size` counts keys.
-/
namespace Sluice

/-- Entries with distinct keys, in the order of first insertion. -/
structure Table (κ α : Type) where
  entries : List (κ × α)
  distinct : (entries.map Prod.fst).Nodup

namespace Table

variable {κ α : Type}

instance [DecidableEq κ] [DecidableEq α] : DecidableEq (Table κ α) := fun a b =>
  decidable_of_iff (a.entries = b.entries) (by cases a; cases b; simp)

@[ext] theorem ext {a b : Table κ α} (h : a.entries = b.entries) : a = b := by
  cases a
  cases b
  cases h
  rfl

def empty : Table κ α := ⟨[], by simp⟩

instance : Inhabited (Table κ α) := ⟨empty⟩

instance : EmptyCollection (Table κ α) := ⟨empty⟩

def keys (t : Table κ α) : List κ := t.entries.map Prod.fst

def size (t : Table κ α) : Nat := t.entries.length

def isEmpty (t : Table κ α) : Bool := t.entries.isEmpty

/-- Keeps the entries that pass the test. -/
def filter (p : κ → α → Bool) (t : Table κ α) : Table κ α where
  entries := t.entries.filter fun e => p e.1 e.2
  distinct := t.distinct.sublist (List.filter_sublist.map Prod.fst)

theorem size_eq_length_keys (t : Table κ α) : t.size = t.keys.length :=
  (List.length_map Prod.fst).symm

theorem nodup_entries (t : Table κ α) : t.entries.Nodup := by
  apply List.Pairwise.of_map Prod.fst _ t.distinct
  rintro a b hne rfl
  exact hne rfl

theorem size_filter_le (p : κ → α → Bool) (t : Table κ α) : (t.filter p).size ≤ t.size :=
  List.length_filter_le _ _

variable [DecidableEq κ]

/-- The value of the first entry with this key. -/
def lookup (k : κ) : List (κ × α) → Option α
  | [] => none
  | (k', v) :: rest => if k' = k then some v else lookup k rest

/-- Puts `v` in the place of the value of `k`, or at the end when there is none. -/
def upsert (k : κ) (v : α) : List (κ × α) → List (κ × α)
  | [] => [(k, v)]
  | (k', v') :: rest => if k' = k then (k, v) :: rest else (k', v') :: upsert k v rest

theorem keys_upsert (k : κ) (v : α) (l : List (κ × α)) :
    (upsert k v l).map Prod.fst =
      if k ∈ l.map Prod.fst then l.map Prod.fst else l.map Prod.fst ++ [k] := by
  induction l with
  | nil => simp [upsert]
  | cons e rest ih =>
    obtain ⟨k', v'⟩ := e
    by_cases h : k' = k
    · simp [upsert, h]
    · have h' : k ≠ k' := fun e => h e.symm
      simp only [upsert, h, if_false, List.map_cons, List.mem_cons, h', false_or, ih]
      split <;> simp

theorem nodup_upsert (k : κ) (v : α) {l : List (κ × α)} (h : (l.map Prod.fst).Nodup) :
    ((upsert k v l).map Prod.fst).Nodup := by
  rw [keys_upsert]
  split
  · exact h
  · rename_i hk
    exact List.nodup_append.2 ⟨h, by simp, fun a ha b hb => by
      obtain rfl : b = k := by simpa using hb
      exact fun e => hk (e ▸ ha)⟩

def find? (t : Table κ α) (k : κ) : Option α := lookup k t.entries

def contains (t : Table κ α) (k : κ) : Bool := (t.find? k).isSome

/-- Sets the value of `k`; a new key goes to the end. -/
def insert (t : Table κ α) (k : κ) (v : α) : Table κ α where
  entries := upsert k v t.entries
  distinct := nodup_upsert k v t.distinct

/-- Removes `k` and its value; the other entries keep their order. -/
def erase (t : Table κ α) (k : κ) : Table κ α := t.filter fun k' _ => k' ≠ k

/-- Puts the last entry into the place of the entry of `k`. -/
def swapOut (k : κ) : List (κ × α) → List (κ × α)
  | [] => []
  | e :: rest =>
    if e.1 = k then
      match rest.getLast? with
      | none => []
      | some last => last :: rest.dropLast
    else e :: swapOut k rest

theorem swapOut_perm (k : κ) {l : List (κ × α)} (h : (l.map Prod.fst).Nodup) :
    (swapOut k l).Perm (l.filter fun e => e.1 ≠ k) := by
  induction l with
  | nil => simp [swapOut]
  | cons e rest ih =>
    have hrest : (rest.map Prod.fst).Nodup := (List.nodup_cons.1 h).2
    by_cases hk : e.1 = k
    · have hall : rest.filter (fun e => e.1 ≠ k) = rest := by
        rw [List.filter_eq_self]
        intro x hx
        have hne : x.1 ≠ e.1 := fun heq =>
          (List.nodup_cons.1 h).1 (heq ▸ List.mem_map_of_mem hx)
        simpa [hk] using hne
      rw [List.filter_cons_of_neg (by simp [hk]), hall]
      simp only [swapOut, hk, if_true]
      cases hlast : rest.getLast? with
      | none => simp [List.getLast?_eq_none_iff.1 hlast]
      | some last =>
        obtain ⟨init, rfl⟩ := List.getLast?_eq_some_iff.1 hlast
        simpa using (List.perm_append_comm : ([last] ++ init).Perm (init ++ [last]))
    · simpa [swapOut, hk] using ih hrest

/-- Removes `k` and moves the last entry into its place. -/
def swapErase (t : Table κ α) (k : κ) : Table κ α where
  entries := swapOut k t.entries
  distinct := ((swapOut_perm k t.distinct).map Prod.fst).nodup_iff.2
    (t.erase k).distinct

/-! ## What a look-up finds -/

theorem lookup_upsert (k j : κ) (v : α) (l : List (κ × α)) :
    lookup j (upsert k v l) = if k = j then some v else lookup j l := by
  induction l with
  | nil => simp [upsert, lookup]
  | cons e rest ih =>
    obtain ⟨k', v'⟩ := e
    by_cases h : k' = k
    · by_cases hj : k = j <;> simp [upsert, h, lookup, hj]
    · simp only [upsert, h, if_false, lookup, ih]
      grind

theorem lookup_filter_ne (k j : κ) (l : List (κ × α)) :
    lookup j (l.filter fun e => e.1 ≠ k) = if k = j then none else lookup j l := by
  induction l with
  | nil => simp [lookup]
  | cons e rest ih =>
    by_cases h : e.1 = k <;> by_cases hj : k = j <;> simp_all [lookup]

theorem find?_insert (t : Table κ α) (k j : κ) (v : α) :
    (t.insert k v).find? j = if k = j then some v else t.find? j :=
  lookup_upsert k j v t.entries

theorem find?_erase (t : Table κ α) (k j : κ) :
    (t.erase k).find? j = if k = j then none else t.find? j :=
  lookup_filter_ne k j t.entries

theorem of_find?_insert {t : Table κ α} {k j : κ} {v w : α}
    (h : (t.insert k v).find? j = some w) : j = k ∧ w = v ∨ j ≠ k ∧ t.find? j = some w := by
  rw [find?_insert] at h
  split at h
  · rename_i heq
    exact .inl ⟨heq.symm, (Option.some.inj h).symm⟩
  · rename_i hne
    exact .inr ⟨Ne.symm hne, h⟩

theorem of_find?_erase {t : Table κ α} {k j : κ} {w : α} (h : (t.erase k).find? j = some w) :
    j ≠ k ∧ t.find? j = some w := by
  rw [find?_erase] at h
  split at h
  · cases h
  · rename_i hne
    exact ⟨Ne.symm hne, h⟩

@[simp] theorem find?_insert_self (t : Table κ α) (k : κ) (v : α) :
    (t.insert k v).find? k = some v := by simp [find?_insert]

@[simp] theorem find?_erase_self (t : Table κ α) (k : κ) : (t.erase k).find? k = none := by
  simp [find?_erase]

theorem lookup_eq_some_iff {k : κ} {v : α} {l : List (κ × α)} (h : (l.map Prod.fst).Nodup) :
    lookup k l = some v ↔ (k, v) ∈ l := by
  induction l with
  | nil => simp [lookup]
  | cons e rest ih =>
    obtain ⟨k', v'⟩ := e
    obtain ⟨hk', hrest⟩ := List.nodup_cons.1 h
    by_cases hk : k' = k
    · subst hk
      have hno : (k', v) ∉ rest := fun hm => hk' (List.mem_map.2 ⟨_, hm, rfl⟩)
      simp only [lookup, if_true, Option.some.injEq, List.mem_cons, Prod.mk.injEq, true_and, hno,
        or_false]
      exact eq_comm
    · have hne : ¬ (k = k') := fun e => hk e.symm
      simp [lookup, hk, hne, ih hrest]

/-- Looking a key up finds exactly the entry it stands in. -/
theorem find?_eq_some_iff {t : Table κ α} {k : κ} {v : α} :
    t.find? k = some v ↔ (k, v) ∈ t.entries := lookup_eq_some_iff t.distinct

theorem find?_filter (p : κ → α → Bool) (t : Table κ α) (k : κ) :
    (t.filter p).find? k = (t.find? k).filter (p k) := by
  apply Option.ext
  intro v
  rw [find?_eq_some_iff, Option.filter_eq_some_iff, find?_eq_some_iff]
  simp [filter, List.mem_filter]

theorem lookup_eq_none_iff {k : κ} {l : List (κ × α)} :
    lookup k l = none ↔ k ∉ l.map Prod.fst := by
  induction l with
  | nil => simp [lookup]
  | cons e rest ih =>
    by_cases hk : e.1 = k
    · simp [lookup, hk]
    · have hne : ¬ (k = e.1) := fun h => hk h.symm
      simp only [lookup, hk, if_false, ih, List.map_cons, List.mem_cons, hne, false_or]

theorem contains_iff {t : Table κ α} {k : κ} : t.contains k = true ↔ k ∈ t.keys := by
  rw [contains, Option.isSome_iff_ne_none, Ne, find?, lookup_eq_none_iff]
  exact Decidable.not_not

/-! ## In which order keys stand -/

theorem upsert_of_not_mem {k : κ} {l : List (κ × α)} (h : k ∉ l.map Prod.fst) (v : α) :
    upsert k v l = l ++ [(k, v)] := by
  induction l with
  | nil => rfl
  | cons e rest ih =>
    obtain ⟨hk, hrest⟩ := not_or.1 (mt List.mem_cons.2 h)
    rw [upsert, if_neg (Ne.symm hk), ih hrest]
    rfl

/-- New keys stand in the order in which they are inserted. -/
theorem entries_foldl_insert {t : Table κ α} {l : List (κ × α)}
    (h : ((t.entries ++ l).map Prod.fst).Nodup) :
    (l.foldl (fun t e => t.insert e.1 e.2) t).entries = t.entries ++ l := by
  induction l generalizing t with
  | nil => simp
  | cons e rest ih =>
    have hnew : e.1 ∉ t.entries.map Prod.fst := by
      intro hmem
      rw [List.map_append] at h
      exact (List.nodup_append.1 h).2.2 _ hmem _ (by simp) rfl
    have hinsert : (t.insert e.1 e.2).entries = t.entries ++ [e] := upsert_of_not_mem hnew e.2
    have hrest : (((t.insert e.1 e.2).entries ++ rest).map Prod.fst).Nodup := by
      rw [hinsert, List.append_assoc]
      exact h
    rw [List.foldl_cons, ih hrest, hinsert, List.append_assoc]
    rfl

/-! ## How many keys there are -/

/-- A new key adds one entry; a key that is present adds none. -/
theorem size_insert (t : Table κ α) (k : κ) (v : α) :
    (t.insert k v).size = if t.contains k then t.size else t.size + 1 := by
  have hkeys : (t.insert k v).keys = if k ∈ t.keys then t.keys else t.keys ++ [k] :=
    keys_upsert k v t.entries
  rw [size_eq_length_keys, size_eq_length_keys, hkeys]
  by_cases h : k ∈ t.keys
  · rw [if_pos h, if_pos (contains_iff.2 h)]
  · rw [if_neg h, if_neg fun hc => h (contains_iff.1 hc), List.length_append]
    rfl

/-- An entry that does not pass the test is one less. -/
theorem size_filter_lt {t : Table κ α} {p : κ → α → Bool} {k : κ} {v : α}
    (h : t.find? k = some v) (hp : p k v = false) : (t.filter p).size < t.size := by
  apply List.length_filter_lt_length_iff_exists.2
  exact ⟨(k, v), find?_eq_some_iff.1 h, by simp [hp]⟩

/-! ## Which entries there are, in whatever order -/

/-- Tables in which every look-up finds the same have the same entries. -/
theorem perm_of_find?_eq {t t' : Table κ α} (h : ∀ k, t.find? k = t'.find? k) :
    t.entries.Perm t'.entries := by
  rw [List.perm_ext_iff_of_nodup t.nodup_entries t'.nodup_entries]
  rintro ⟨k, v⟩
  rw [← find?_eq_some_iff, ← find?_eq_some_iff, h]

theorem size_eq_of_find?_eq {t t' : Table κ α} (h : ∀ k, t.find? k = t'.find? k) :
    t.size = t'.size :=
  (perm_of_find?_eq h).length_eq

/-- A table is what stands under one key, and the rest. -/
theorem perm_cons_erase {t : Table κ α} {k : κ} {v : α} (h : t.find? k = some v) :
    t.entries.Perm ((k, v) :: (t.erase k).entries) := by
  have hgone : (k, v) ∉ (t.erase k).entries := by
    rw [← find?_eq_some_iff, find?_erase_self]
    nofun
  rw [List.perm_ext_iff_of_nodup t.nodup_entries
    (List.nodup_cons.2 ⟨hgone, (t.erase k).nodup_entries⟩)]
  rintro ⟨j, w⟩
  rw [List.mem_cons, ← find?_eq_some_iff, ← find?_eq_some_iff, find?_erase]
  by_cases hj : k = j
  · subst hj
    simp [h, eq_comm]
  · simp [hj, Ne.symm hj]

theorem perm_insert (t : Table κ α) (k : κ) (v : α) :
    (t.insert k v).entries.Perm ((k, v) :: (t.erase k).entries) := by
  have hrest : ((t.insert k v).erase k).entries.Perm (t.erase k).entries := by
    apply perm_of_find?_eq
    intro j
    simp only [find?_erase, find?_insert]
    split <;> rfl
  exact (perm_cons_erase (find?_insert_self t k v)).trans (hrest.cons _)

/-- Without an entry there is one less. -/
theorem size_erase_lt {t : Table κ α} {k : κ} {v : α} (h : t.find? k = some v) :
    (t.erase k).size < t.size := by
  have hlength := (perm_cons_erase h).length_eq
  rw [List.length_cons] at hlength
  unfold size
  omega

/-- Where there is nothing to remove the table stays as it is. -/
theorem erase_of_find?_eq_none {t : Table κ α} {k : κ} (h : t.find? k = none) : t.erase k = t := by
  apply Table.ext
  apply List.filter_eq_self.2
  rintro ⟨j, w⟩ hmem
  have hj : j ≠ k := by
    rintro rfl
    rw [← find?_eq_some_iff, h] at hmem
    cases hmem
  simpa using hj

theorem filter_ne_upsert (k : κ) (v : α) (l : List (κ × α)) :
    (upsert k v l).filter (fun e => e.1 ≠ k) = l.filter fun e => e.1 ≠ k := by
  induction l with
  | nil => simp [upsert]
  | cons e rest ih =>
    by_cases h : e.1 = k
    · simp [upsert, h]
    · simp only [upsert, h, if_false, List.filter_cons, ih]

/-- What is removed need not be put in first. -/
theorem erase_insert_self (t : Table κ α) (k : κ) (v : α) : (t.insert k v).erase k = t.erase k :=
  Table.ext (filter_ne_upsert k v t.entries)

end Table

end Sluice
