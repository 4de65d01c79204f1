import Mathlib.Data.List.Nodup
import Mathlib.Logic.Relation
import Principals.Principal.Attributes
import Principals.Proofs.Principal.Construction

/-!
# Attributes as pairs of names and values

The attributes of a principal are a mapping of names to lists of values. Going through it gives
pairs, each name with each of its values; adding the values of pairs one by one gives a mapping
again, which has the same values under every name.

* `Entries.Listed`, `Principal.Attributed`: attributes that are such a mapping;
* `attributed_of_changes`: the constructors and the methods leave nothing else;
* `Principal.pairs`, `getAttribute_of_attributed`: the pairs, and what they say of every name;
* `Principal.Gathers`, `Gathers.append`, `Gathers.getAttribute`: adding pairs one by one.
-/

namespace Principals

/-! ## Mappings of names to values -/

namespace Entries

variable {k : Value.Key} {name v : Value} {es : List (Value × Value)}

/-- Names with different keys, each with values that can be gone through. -/
structure Listed (es : List (Value × Value)) : Prop where
  keyed : ∀ e ∈ es, e.1.key? ≠ none
  apart : (es.map fun e => e.1.key?).Nodup
  items : ∀ e ∈ es, ∃ vs, Principal.itemsOf e.2 = .ok vs

/-- A write keeps the keys of the names, or puts the new one last. -/
theorem keys_write (key : name.key? = some k) (v : Value) (es : List (Value × Value)) :
    (write name k v es).map (fun e => e.1.key?) =
      if some k ∈ es.map (fun e => e.1.key?) then es.map (fun e => e.1.key?)
      else es.map (fun e => e.1.key?) ++ [some k] := by
  induction es with
  | nil => simp [write, key]
  | cons e rest ih =>
    obtain ⟨name', v'⟩ := e
    by_cases here : name'.key? = some k
    · simp [write, here]
    · have other : some k ≠ name'.key? := fun same => here same.symm
      by_cases later : some k ∈ rest.map fun e => e.1.key?
      · rw [if_pos later] at ih
        rw [write, if_neg here, List.map_cons, List.map_cons, ih,
          if_pos (List.mem_cons_of_mem _ later)]
      · rw [if_neg later] at ih
        rw [write, if_neg here, List.map_cons, List.map_cons, ih, if_neg, List.cons_append]
        exact fun among => (List.mem_cons.mp among).elim other later

/-- An entry after a write was there before, or has the value that was written. -/
theorem mem_write {e : Value × Value} (among : e ∈ write name k v es) :
    e ∈ es ∨ e.2 = v := by
  induction es with
  | nil =>
    rw [write, List.mem_singleton] at among
    exact .inr (by rw [among])
  | cons e' rest ih =>
    obtain ⟨name', v'⟩ := e'
    by_cases here : name'.key? = some k
    · rw [write, if_pos here] at among
      rcases List.mem_cons.mp among with rfl | later
      · exact .inr rfl
      · exact .inl (List.mem_cons_of_mem _ later)
    · rw [write, if_neg here] at among
      rcases List.mem_cons.mp among with rfl | later
      · exact .inl List.mem_cons_self
      · exact (ih later).imp_left (List.mem_cons_of_mem _)

theorem Listed.write (listed : Listed es) (key : name.key? = some k)
    (items : ∃ vs, Principal.itemsOf v = .ok vs) : Listed (write name k v es) := by
  have keys := keys_write key v es
  refine ⟨fun e among => ?_, ?_, fun e among => ?_⟩
  · have isKey : e.1.key? ∈ (Entries.write name k v es).map fun e => e.1.key? :=
      List.mem_map_of_mem among
    have keyed : ∀ o ∈ es.map fun e => e.1.key?, o ≠ none := List.forall_mem_map.mpr listed.keyed
    rw [keys] at isKey
    split at isKey
    · exact keyed _ isKey
    · rcases List.mem_append.mp isKey with before | new
      · exact keyed _ before
      · rw [List.mem_singleton.mp new]
        exact Option.some_ne_none k
  · rw [keys]
    split
    · exact listed.apart
    · next absent =>
      exact List.nodup_append.mpr ⟨listed.apart, List.nodup_singleton _, fun a before b new same =>
        absent (List.mem_singleton.mp new ▸ same ▸ before)⟩
  · rcases mem_write among with before | written
    · exact listed.items e before
    · rwa [written]

theorem Listed.erase (listed : Listed es) (k : Value.Key) : Listed (erase k es) where
  keyed := fun e among => listed.keyed e (List.mem_filter.mp among).1
  apart := listed.apart.sublist (List.filter_sublist.map _)
  items := fun e among => listed.items e (List.mem_filter.mp among).1

end Entries

namespace Principal

variable {d d' : Principal} {name v : Value} {values : List Value}

/-- A principal whose attributes map names to values. -/
def Attributed (d : Principal) : Prop :=
  ∃ es, d.attributes = .mapping es ∧ Entries.Listed es

/-- The constructors give such principals. -/
theorem Attributed.of_create {now : Time.DateTime} {kind : Kind} {fields : List (String × Value)}
    (made : Principal.create now kind fields = .ok d) : d.Attributed := by
  obtain ⟨m, attributes, nodup, -⟩ := attributes_of_create made
  refine ⟨_, attributes, ?_, ?_, ?_⟩
  · exact List.forall_mem_map.mpr fun e _ => Option.some_ne_none _
  · rw [List.map_map]
    have keys : (m.entries.map ((fun e => e.1.key?) ∘
        fun e : String × List Value => (Value.text e.1, Value.list e.2))) =
        m.keys.map fun name => some (.text name) := by
      rw [OrderedMap.keys, List.map_map]
      rfl
    rw [keys]
    refine nodup.map fun s t same => ?_
    simpa using same
  · exact List.forall_mem_map.mpr fun e _ => ⟨e.2, rfl⟩

theorem keyOf_eq_ok {k : Value.Key} (key : keyOf name = .ok k) : name.key? = some k := by
  unfold keyOf at key
  cases found : name.key? with
  | none =>
    rw [found] at key
    cases key
  | some j =>
    rw [found] at key
    cases key
    rfl

theorem Attributed.setAttribute (attributed : d.Attributed)
    (done : d.setAttribute name values = .ok d') : d'.Attributed := by
  obtain ⟨es, attributes, listed⟩ := attributed
  rw [Principal.setAttribute, attributes] at done
  obtain ⟨k, key, done⟩ := bind_eq_ok.mp done
  cases done
  exact ⟨_, rfl, listed.write (keyOf_eq_ok key) ⟨values, rfl⟩⟩

theorem Attributed.appendAttribute (attributed : d.Attributed)
    (done : d.appendAttribute name v = .ok d') : d'.Attributed := by
  obtain ⟨es, attributes, listed⟩ := attributed
  rw [Principal.appendAttribute, attributes] at done
  obtain ⟨k, key, done⟩ := bind_eq_ok.mp done
  dsimp only at done
  split at done
  · cases done
    exact ⟨_, rfl, listed.write (keyOf_eq_ok key) ⟨[v], rfl⟩⟩
  · cases done
    exact ⟨_, rfl, listed.write (keyOf_eq_ok key) ⟨_, rfl⟩⟩
  · cases done

theorem Attributed.removeAttribute (attributed : d.Attributed)
    (done : d.removeAttribute name = .ok d') : d'.Attributed := by
  obtain ⟨es, attributes, listed⟩ := attributed
  rw [Principal.removeAttribute, attributes] at done
  cases es with
  | nil =>
    cases done
    exact ⟨_, attributes, listed⟩
  | cons e rest =>
    obtain ⟨k, -, done⟩ := bind_eq_ok.mp done
    cases done
    exact ⟨_, rfl, listed.erase k⟩

/-- A change that one of the methods for attributes makes. -/
inductive ChangesTo (d d' : Principal) : Prop
  | set (name : Value) (values : List Value) (done : d.setAttribute name values = .ok d')
  | append (name v : Value) (done : d.appendAttribute name v = .ok d')
  | remove (name : Value) (done : d.removeAttribute name = .ok d')

theorem Attributed.changesTo (attributed : d.Attributed) (change : d.ChangesTo d') :
    d'.Attributed := by
  cases change with
  | set name values done => exact attributed.setAttribute done
  | append name v done => exact attributed.appendAttribute done
  | remove name done => exact attributed.removeAttribute done

/-- Whatever the methods make of a constructed principal, its attributes map names to values. -/
theorem attributed_of_changes {now : Time.DateTime} {kind : Kind} {fields : List (String × Value)}
    {d₀ : Principal} (made : Principal.create now kind fields = .ok d₀)
    (changes : Relation.ReflTransGen ChangesTo d₀ d) : d.Attributed := by
  induction changes with
  | refl => exact .of_create made
  | tail _ change ih => exact ih.changesTo change

/-! ## Pairs -/

/-- The pairs of names and values that are met in going through attributes, up to a name whose values
cannot be gone through. -/
def pairsMet : List (Value × Value) → List (Value × Value)
  | [] => []
  | (name, values) :: rest =>
    match itemsOf values with
    | .ok items => items.map (name, ·) ++ pairsMet rest
    | .error _ => []

/-- The pairs of names and values of a principal that are met in going through its attributes. -/
def pairs (d : Principal) : List (Value × Value) :=
  match d.attributes with
  | .mapping entries => pairsMet entries
  | _ => []

/-- The values that pairs give under a key, in order. -/
def valuesUnder (k : Value.Key) (pairs : List (Value × Value)) : List Value :=
  (pairs.filter fun p => p.1.key? = some k).map Prod.snd

theorem valuesUnder_append (k : Value.Key) (ps qs : List (Value × Value)) :
    valuesUnder k (ps ++ qs) = valuesUnder k ps ++ valuesUnder k qs := by
  rw [valuesUnder, List.filter_append, List.map_append]
  rfl

theorem valuesUnder_of_key {k : Value.Key} (key : name.key? = some k) (items : List Value) :
    valuesUnder k (items.map (name, ·)) = items := by
  have all : (items.map (name, ·)).filter (fun p => p.1.key? = some k) = items.map (name, ·) := by
    rw [List.filter_eq_self]
    exact List.forall_mem_map.mpr fun v _ => decide_eq_true key
  rw [valuesUnder, all, List.map_map]
  exact List.map_id items

theorem valuesUnder_of_forall_ne {k : Value.Key} {ps : List (Value × Value)}
    (other : ∀ p ∈ ps, p.1.key? ≠ some k) : valuesUnder k ps = [] := by
  rw [valuesUnder, List.map_eq_nil_iff, List.filter_eq_nil_iff]
  intro p among same
  exact other p among (of_decide_eq_true same)

/-- The names of the pairs that are met are names of the attributes. -/
theorem mem_pairsMet {p : Value × Value} {es : List (Value × Value)} (among : p ∈ pairsMet es) :
    ∃ e ∈ es, e.1 = p.1 := by
  induction es with
  | nil => cases among
  | cons e rest ih =>
    obtain ⟨name, values⟩ := e
    rw [pairsMet] at among
    split at among
    · rcases List.mem_append.mp among with here | later
      · obtain ⟨v, -, rfl⟩ := List.mem_map.mp here
        exact ⟨_, List.mem_cons_self, rfl⟩
      · obtain ⟨e, inRest, same⟩ := ih later
        exact ⟨e, List.mem_cons_of_mem _ inRest, same⟩
    · cases among

/-- The names of the pairs of a principal have keys. -/
theorem keyed_of_attributed (attributed : d.Attributed) : ∀ p ∈ d.pairs, p.1.key? ≠ none := by
  obtain ⟨es, attributes, listed⟩ := attributed
  intro p among
  rw [pairs, attributes] at among
  obtain ⟨e, inEntries, isName⟩ := mem_pairsMet among
  rw [← isName]
  exact listed.keyed e inEntries

/-- The pairs give under every key the values that are there. -/
theorem lookup_pairsMet {es : List (Value × Value)} (listed : Entries.Listed es) (k : Value.Key) :
    (match Entries.lookup k es with
      | some v => itemsOf v
      | none => .ok []) = .ok (valuesUnder k (pairsMet es)) := by
  induction es with
  | nil => rfl
  | cons e rest ih =>
    obtain ⟨name, values⟩ := e
    obtain ⟨items, read⟩ := listed.items _ List.mem_cons_self
    obtain ⟨first, later⟩ := List.nodup_cons.mp listed.apart
    have restListed : Entries.Listed rest :=
      ⟨fun e among => listed.keyed e (List.mem_cons_of_mem _ among), later,
        fun e among => listed.items e (List.mem_cons_of_mem _ among)⟩
    simp only at read
    rw [pairsMet, read, Entries.lookup]
    dsimp only
    rw [valuesUnder_append]
    by_cases here : name.key? = some k
    · have others : valuesUnder k (pairsMet rest) = [] := by
        refine valuesUnder_of_forall_ne fun p among same => first ?_
        obtain ⟨e, inRest, isName⟩ := mem_pairsMet among
        have sameKey : e.1.key? = name.key? := by rw [isName, same, here]
        exact List.mem_map.mpr ⟨e, inRest, sameKey⟩
      rw [if_pos here, valuesUnder_of_key here, others, List.append_nil]
      exact read
    · have none_here : valuesUnder k (items.map (name, ·)) = [] :=
        valuesUnder_of_forall_ne (List.forall_mem_map.mpr fun v _ => here)
      rw [if_neg here, none_here, List.nil_append]
      exact ih restListed

/-- The pairs of a principal say of every name what its values are. -/
theorem getAttribute_of_attributed (attributed : d.Attributed) (n : Value) :
    d.getAttribute n = (keyOf n).map (valuesUnder · d.pairs) := by
  obtain ⟨es, attributes, listed⟩ := attributed
  rw [getAttribute, pairs, attributes]
  cases keyOf n with
  | error e => rfl
  | ok k => exact lookup_pairsMet listed k

/-! ## Adding pairs one by one -/

/-- A principal whose attributes are what pairs give: under every key a list of the values, if there
are any. -/
def Gathers (d : Principal) (ps : List (Value × Value)) : Prop :=
  ∃ es, d.attributes = .mapping es ∧
    ∀ k, Entries.lookup k es = if valuesUnder k ps = [] then none else some (.list (valuesUnder k ps))

theorem gathers_nil (empty : d.attributes = .mapping []) : d.Gathers [] :=
  ⟨[], empty, fun _ => rfl⟩

/-- Adding a value under a name gathers one more pair. -/
theorem Gathers.append {ps : List (Value × Value)} (gathers : d.Gathers ps)
    (keyed : name.key? ≠ none) (v : Value) :
    ∃ d', d.appendAttribute name v = .ok d' ∧ d'.Gathers (ps ++ [(name, v)]) := by
  obtain ⟨es, attributes, lookups⟩ := gathers
  obtain ⟨k, key⟩ := Option.ne_none_iff_exists'.mp keyed
  have isKey : keyOf name = .ok k := by rw [keyOf, key]
  have own : valuesUnder k [(name, v)] = [v] := valuesUnder_of_key key [v]
  have others : ∀ j, j ≠ k → valuesUnder j [(name, v)] = [] := by
    intro j ne
    refine valuesUnder_of_forall_ne (List.forall_mem_singleton.mpr ?_)
    rw [key]
    exact fun same => ne (Option.some.inj same).symm
  -- Under the key of the name the list has grown by the value; under no other did it change.
  have grown : ∀ j, Entries.lookup j (Entries.write name k (.list (valuesUnder k ps ++ [v])) es) =
      if valuesUnder j (ps ++ [(name, v)]) = [] then none
      else some (.list (valuesUnder j (ps ++ [(name, v)]))) := by
    intro j
    by_cases same : j = k
    · subst same
      rw [Entries.lookup_write_self key, valuesUnder_append, own,
        if_neg (List.append_ne_nil_of_right_ne_nil _ (List.cons_ne_nil v []))]
    · rw [Entries.lookup_write_of_ne key same, valuesUnder_append, others j same, List.append_nil]
      exact lookups j
  refine ⟨{ d with attributes := .mapping (Entries.write name k (.list (valuesUnder k ps ++ [v])) es) },
    ?_, _, rfl, grown⟩
  rw [appendAttribute, attributes]
  simp only [isKey, ok_bind, lookups k]
  by_cases none_yet : valuesUnder k ps = []
  · rw [if_pos none_yet, none_yet]
    rfl
  · rw [if_neg none_yet]

/-- What was gathered is what the attributes give under every name. -/
theorem Gathers.getAttribute {ps : List (Value × Value)} (gathers : d.Gathers ps) (n : Value) :
    d.getAttribute n = (keyOf n).map (valuesUnder · ps) := by
  obtain ⟨es, attributes, lookups⟩ := gathers
  rw [Principal.getAttribute, attributes]
  cases keyOf n with
  | error e => rfl
  | ok k =>
    simp only [ok_bind, lookups k]
    by_cases none_there : valuesUnder k ps = []
    · rw [if_pos none_there]
      exact congrArg Except.ok none_there.symm
    · rw [if_neg none_there]
      rfl

end Principal

end Principals
