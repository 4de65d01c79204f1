import Mathlib.Data.List.Induction
import Mathlib.Data.List.Nodup
import Mathlib.Tactic.Tauto
import Principals.OrderedMap

/-!
# Maps written from lists

A list of entries is written into a map entry by entry: a key then has what the last entry under it
gave, and every other key what it had.
-/

namespace Principals.OrderedMap

variable {κ ν : Type} [DecidableEq κ] {m : OrderedMap κ ν} {es : List (κ × ν)} {k : κ} {v : ν}

theorem find?_insertAll_of_notMem (absent : k ∉ es.map Prod.fst) :
    (m.insertAll es).find? k = m.find? k := by
  induction es generalizing m with
  | nil => rfl
  | cons e rest ih =>
    rw [List.map_cons, List.mem_cons, not_or] at absent
    have later : ((m.insert e.1 e.2).insertAll rest).find? k = (m.insert e.1 e.2).find? k :=
      ih absent.2
    exact later.trans (find?_insert_of_ne m absent.1 e.2)

theorem find?_insertAll_of_mem (nodup : (es.map Prod.fst).Nodup) (among : (k, v) ∈ es) :
    (m.insertAll es).find? k = some v := by
  induction es generalizing m with
  | nil => cases among
  | cons e rest ih =>
    rw [List.map_cons, List.nodup_cons] at nodup
    rcases List.mem_cons.mp among with rfl | later
    · have kept : ((m.insert k v).insertAll rest).find? k = (m.insert k v).find? k :=
        find?_insertAll_of_notMem nodup.1
      exact kept.trans (find?_insert_self m k v)
    · exact ih (m := m.insert e.1 e.2) nodup.2 later

/-- After a list of writes a key has what the last write under it gave. -/
theorem find?_insertAll (m : OrderedMap κ ν) (es : List (κ × ν)) (k : κ) :
    (m.insertAll es).find? k =
      ((es.filter fun e => e.1 = k).getLast?.map Prod.snd).or (m.find? k) := by
  induction es generalizing m with
  | nil => rfl
  | cons e rest ih =>
    have first : (m.insertAll (e :: rest)).find? k = ((m.insert e.1 e.2).insertAll rest).find? k :=
      rfl
    rw [first, ih]
    by_cases same : e.1 = k
    · subst same
      rw [find?_insert_self, List.filter_cons_of_pos (by simp), List.getLast?_cons]
      cases (rest.filter fun e' => e'.1 = e.1).getLast? <;> rfl
    · rw [find?_insert_of_ne m (Ne.symm same), List.filter_cons_of_neg (by simp [same])]

theorem nodup_keys_insertAll (nodup : m.keys.Nodup) (es : List (κ × ν)) :
    (m.insertAll es).keys.Nodup := by
  induction es generalizing m with
  | nil => exact nodup
  | cons e rest ih => exact ih (nodup_keys_insert m e.1 e.2 nodup)

/-! ## Writing again -/

theorem mem_keys_insert {k' : κ} : k' ∈ (m.insert k v).keys ↔ k' = k ∨ k' ∈ m.keys := by
  rw [keys_insert]
  split
  · next known =>
    constructor
    · exact .inr
    · rintro (rfl | among)
      · exact known
      · exact among
  · rw [List.mem_append, List.mem_singleton, or_comm]

theorem mem_keys_insertAll {k' : κ} :
    k' ∈ (m.insertAll es).keys ↔ k' ∈ es.map Prod.fst ∨ k' ∈ m.keys := by
  induction es generalizing m with
  | nil => simp [insertAll]
  | cons e rest ih =>
    have first : k' ∈ (m.insertAll (e :: rest)).keys ↔
        k' ∈ rest.map Prod.fst ∨ k' ∈ (m.insert e.1 e.2).keys := ih
    rw [first, mem_keys_insert, List.map_cons, List.mem_cons]
    tauto

/-- A key that is written twice has its second value only. -/
theorem insert_insert_self (m : OrderedMap κ ν) (k : κ) (v w : ν) :
    (m.insert k v).insert k w = m.insert k w := by
  have writes (es : List (κ × ν)) : write k w (write k v es) = write k w es := by
    induction es with
    | nil => simp [write]
    | cons e rest ih =>
      obtain ⟨k', v'⟩ := e
      by_cases own : k' = k <;> simp [write, own, ih]
  exact congrArg mk (writes m.entries)

/-- Writes under different keys can be made in either order, if one of the keys has its place. -/
theorem insert_insert_of_ne {k' : κ} (ne : k' ≠ k) (known : k' ∈ m.keys) (w : ν) :
    (m.insert k v).insert k' w = (m.insert k' w).insert k v := by
  have writes (es : List (κ × ν)) (known : k' ∈ es.map Prod.fst) :
      write k' w (write k v es) = write k v (write k' w es) := by
    induction es with
    | nil => cases known
    | cons e rest ih =>
      obtain ⟨j, u⟩ := e
      by_cases first : j = k
      · subst first
        simp [write, Ne.symm ne]
      · by_cases second : j = k'
        · subst second
          simp [write, first]
        · have later : k' ∈ rest.map Prod.fst :=
            (List.mem_cons.mp known).resolve_left (Ne.symm second)
          simp [write, first, second, ih later]
  exact congrArg mk (writes m.entries known)

/-- What is written under a key does not outlast a later write under it, whatever is written under
known keys in between. -/
theorem insert_insertAll_insert (known : ∀ e ∈ es, e.1 ∈ m.keys) (k : κ) (v w : ν) :
    ((m.insert k v).insertAll es).insert k w = (m.insertAll es).insert k w := by
  induction es generalizing m with
  | nil => exact insert_insert_self m k v w
  | cons e rest ih =>
    obtain ⟨first, later⟩ := List.forall_mem_cons.mp known
    have laterKnown : ∀ e' ∈ rest, e'.1 ∈ (m.insert e.1 e.2).keys := fun e' among =>
      mem_keys_insert.mpr (.inr (later e' among))
    change (((m.insert k v).insert e.1 e.2).insertAll rest).insert k w =
      ((m.insert e.1 e.2).insertAll rest).insert k w
    by_cases own : e.1 = k
    · rw [← own, insert_insert_self]
    · rw [insert_insert_of_ne own first, ih laterKnown]

theorem insertAll_append (m : OrderedMap κ ν) (es es' : List (κ × ν)) :
    m.insertAll (es ++ es') = (m.insertAll es).insertAll es' := List.foldl_append

/-- Entries are not seen any more once others are written under the same keys. -/
theorem insertAll_insertAll {es' : List (κ × ν)} (same : es.map Prod.fst = es'.map Prod.fst) :
    (m.insertAll es).insertAll es' = m.insertAll es' := by
  induction es using List.reverseRecOn generalizing es' with
  | nil =>
    rw [List.map_nil, eq_comm, List.map_eq_nil_iff] at same
    subst same
    rfl
  | append_singleton front e ih =>
    rw [List.map_append, List.map_cons, List.map_nil, eq_comm, List.map_eq_append_iff] at same
    obtain ⟨front', last, rfl, sameFront, sameLast⟩ := same
    obtain ⟨e', rfl, sameKey⟩ := List.map_eq_singleton_iff.mp sameLast
    have known : ∀ e ∈ front', e.1 ∈ (m.insertAll front).keys := fun e among =>
      mem_keys_insertAll.mpr (.inl (sameFront ▸ List.mem_map_of_mem among))
    have absorbed := insert_insertAll_insert known e.1 e.2 e'.2
    rw [insertAll_append, insertAll_append, insertAll_append]
    change (((m.insertAll front).insert e.1 e.2).insertAll front').insert e'.1 e'.2 =
      (m.insertAll front').insert e'.1 e'.2
    rw [sameKey, absorbed, ih sameFront.symm]

/-- A value that is found is that of an entry. -/
theorem mem_of_find? (found : m.find? k = some v) : (k, v) ∈ m.entries := by
  obtain ⟨entries⟩ := m
  change lookup k entries = some v at found
  induction entries with
  | nil => cases found
  | cons e rest ih =>
    rw [lookup] at found
    split at found
    · next own =>
      cases found
      rw [← own]
      exact List.mem_cons_self
    · exact List.mem_cons_of_mem _ (ih found)

/-- An entry is found under its key if no other entry has that key. -/
theorem find?_of_mem (nodup : m.keys.Nodup) (among : (k, v) ∈ m.entries) : m.find? k = some v := by
  obtain ⟨entries⟩ := m
  change (entries.map Prod.fst).Nodup at nodup
  change lookup k entries = some v
  induction entries with
  | nil => cases among
  | cons e rest ih =>
    rw [List.map_cons, List.nodup_cons] at nodup
    rw [lookup]
    rcases List.mem_cons.mp among with rfl | later
    · exact if_pos rfl
    · have other : e.1 ≠ k := fun same => nodup.1 (same ▸ List.mem_map_of_mem later)
      rw [if_neg other]
      exact ih later nodup.2

theorem mem_entries_iff (nodup : m.keys.Nodup) : (k, v) ∈ m.entries ↔ m.find? k = some v :=
  ⟨find?_of_mem nodup, mem_of_find?⟩

/-- A map made of entries with different keys has each of them. -/
theorem find?_ofList_of_mem (nodup : (es.map Prod.fst).Nodup) (among : (k, v) ∈ es) :
    (ofList es).find? k = some v := find?_insertAll_of_mem nodup among

/-- A new key goes to the end of the entries. -/
theorem write_of_notMem {es : List (κ × ν)} (absent : k ∉ es.map Prod.fst) :
    write k v es = es ++ [(k, v)] := by
  induction es with
  | nil => rfl
  | cons e rest ih =>
    rw [List.map_cons, List.mem_cons, not_or] at absent
    rw [write, if_neg (Ne.symm absent.1), ih absent.2, List.cons_append]

/-- A map made of entries with different keys consists of them. -/
theorem ofList_of_nodup (nodup : (es.map Prod.fst).Nodup) : ofList es = ⟨es⟩ := by
  have later : ∀ front : List (κ × ν), ((front ++ es).map Prod.fst).Nodup →
      insertAll ⟨front⟩ es = ⟨front ++ es⟩ := by
    clear nodup
    induction es with
    | nil =>
      intro front _
      rw [List.append_nil]
      rfl
    | cons e rest ih =>
      intro front nodup
      have absent : e.1 ∉ front.map Prod.fst := by
        intro among
        rw [List.map_append, List.nodup_append] at nodup
        exact nodup.2.2 _ among _ List.mem_cons_self rfl
      rw [List.append_cons] at nodup ⊢
      rw [← ih (front ++ [e]) nodup]
      change insertAll ⟨write e.1 e.2 front⟩ rest = _
      rw [write_of_notMem absent]
  exact later [] nodup

end Principals.OrderedMap
