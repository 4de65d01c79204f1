/-!
# Maps that keep the order of first insertion

`OrderedMap κ ν` is a list of entries with at most one entry per key. Inserting under a known
key replaces the value where the entry stands; a new key goes to the end. Attribute tables,
property bindings, registered tokens and query parameters are all read back in this order.

Main statements, over the view `find?`:

* `find?_insert_self`, `find?_insert_of_ne`: a write changes its own key and no other;
* `find?_erase_of_ne`: a removal changes no other key;
* `keys_insert`: a write keeps the keys, or puts the new one last;
* `nodup_keys_insert`: no key occurs twice.
-/

namespace Principals

/-- Entries in the order in which their keys were first inserted. -/
structure OrderedMap (κ ν : Type) where
  entries : List (κ × ν)
deriving DecidableEq, Repr

namespace OrderedMap

variable {κ ν μ : Type}

instance : Inhabited (OrderedMap κ ν) := ⟨⟨[]⟩⟩
instance : EmptyCollection (OrderedMap κ ν) := ⟨⟨[]⟩⟩

/-- The keys in order. -/
def keys (m : OrderedMap κ ν) : List κ := m.entries.map Prod.fst

/-- The values in the order of their keys. -/
def values (m : OrderedMap κ ν) : List ν := m.entries.map Prod.snd

/-- The number of entries. -/
def size (m : OrderedMap κ ν) : Nat := m.entries.length

/-- The map with `f` applied to each value. -/
def mapValues (f : ν → μ) (m : OrderedMap κ ν) : OrderedMap κ μ :=
  ⟨m.entries.map fun e => (e.1, f e.2)⟩

section
variable [DecidableEq κ]

/-- The value of the first entry under `k`. -/
def lookup (k : κ) : List (κ × ν) → Option ν
  | [] => none
  | (k', v) :: rest => if k' = k then some v else lookup k rest

/-- The value under `k`. -/
def find? (m : OrderedMap κ ν) (k : κ) : Option ν := lookup k m.entries

/-- Whether `k` has a value. -/
def contains (m : OrderedMap κ ν) (k : κ) : Bool := (m.find? k).isSome

/-- Writes `v` in place of the first entry under `k`, or at the end. -/
def write (k : κ) (v : ν) : List (κ × ν) → List (κ × ν)
  | [] => [(k, v)]
  | (k', v') :: rest => if k' = k then (k', v) :: rest else (k', v') :: write k v rest

/-- The map with `v` under `k`; a known key keeps its place. -/
def insert (m : OrderedMap κ ν) (k : κ) (v : ν) : OrderedMap κ ν := ⟨write k v m.entries⟩

/-- The map without the key `k`. -/
def erase (m : OrderedMap κ ν) (k : κ) : OrderedMap κ ν :=
  ⟨m.entries.filter fun e => e.1 ≠ k⟩

/-- The map with `v` under `k` as its last entry. -/
def insertLast (m : OrderedMap κ ν) (k : κ) (v : ν) : OrderedMap κ ν := (m.erase k).insert k v

/-- Inserts every entry of a list, the earlier first. -/
def insertAll (m : OrderedMap κ ν) (entries : List (κ × ν)) : OrderedMap κ ν :=
  entries.foldl (fun acc e => acc.insert e.1 e.2) m

/-- The map that a list of entries writes, the earlier first. -/
def ofList (entries : List (κ × ν)) : OrderedMap κ ν := insertAll ∅ entries

/-! ## What one write does to the view -/

@[simp]
theorem find?_empty (k : κ) : (∅ : OrderedMap κ ν).find? k = none := rfl

theorem lookup_write_self (k : κ) (v : ν) (es : List (κ × ν)) :
    lookup k (write k v es) = some v := by
  induction es with
  | nil => simp [write, lookup]
  | cons e rest ih =>
    obtain ⟨k', v'⟩ := e
    by_cases h : k' = k <;> simp [write, lookup, h, ih]

theorem lookup_write_of_ne {k k' : κ} (ne : k' ≠ k) (v : ν) (es : List (κ × ν)) :
    lookup k' (write k v es) = lookup k' es := by
  induction es with
  | nil => simp [write, lookup, ne.symm]
  | cons e rest ih =>
    obtain ⟨k₀, v₀⟩ := e
    by_cases h : k₀ = k
    · subst h
      simp [write, lookup, ne.symm]
    · by_cases h' : k₀ = k' <;> simp [write, lookup, h, h', ih, ne]

@[simp]
theorem find?_insert_self (m : OrderedMap κ ν) (k : κ) (v : ν) :
    (m.insert k v).find? k = some v := lookup_write_self k v m.entries

theorem find?_insert_of_ne (m : OrderedMap κ ν) {k k' : κ} (ne : k' ≠ k) (v : ν) :
    (m.insert k v).find? k' = m.find? k' := lookup_write_of_ne ne v m.entries

theorem find?_insert (m : OrderedMap κ ν) (k k' : κ) (v : ν) :
    (m.insert k v).find? k' = if k' = k then some v else m.find? k' := by
  by_cases h : k' = k
  · subst h; simp
  · simp [h, find?_insert_of_ne m h]

theorem lookup_filter_of_ne {k k' : κ} (ne : k' ≠ k) (es : List (κ × ν)) :
    lookup k' (es.filter fun e => e.1 ≠ k) = lookup k' es := by
  induction es with
  | nil => rfl
  | cons e rest ih =>
    obtain ⟨k₀, v₀⟩ := e
    by_cases h : k₀ = k
    · subst h
      simpa [lookup, ne.symm] using ih
    · by_cases h' : k₀ = k' <;> simp_all [lookup]

theorem find?_erase_of_ne (m : OrderedMap κ ν) {k k' : κ} (ne : k' ≠ k) :
    (m.erase k).find? k' = m.find? k' := lookup_filter_of_ne ne m.entries

/-! ## Order -/

theorem keys_write (k : κ) (v : ν) (es : List (κ × ν)) :
    (write k v es).map Prod.fst =
      if k ∈ es.map Prod.fst then es.map Prod.fst else es.map Prod.fst ++ [k] := by
  induction es with
  | nil => simp [write]
  | cons e rest ih =>
    obtain ⟨k', v'⟩ := e
    by_cases h : k' = k
    · simp [write, h]
    · by_cases h' : k ∈ rest.map Prod.fst <;> simp_all [write, eq_comm]

/-- A write keeps the keys and their order, or puts the new key last. -/
theorem keys_insert (m : OrderedMap κ ν) (k : κ) (v : ν) :
    (m.insert k v).keys = if k ∈ m.keys then m.keys else m.keys ++ [k] :=
  keys_write k v m.entries

theorem nodup_keys_insert (m : OrderedMap κ ν) (k : κ) (v : ν) (nodup : m.keys.Nodup) :
    (m.insert k v).keys.Nodup := by
  rw [keys_insert]
  split
  · exact nodup
  · next absent =>
    rw [List.nodup_append]
    exact ⟨nodup, by simp, fun a ha b hb => by
      simp only [List.mem_singleton] at hb
      rintro rfl
      exact absent (hb ▸ ha)⟩

end

end OrderedMap

end Principals
