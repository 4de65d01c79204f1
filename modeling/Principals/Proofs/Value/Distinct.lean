import Mathlib.Data.List.Basic
import Principals.Value.Basic

/-!
# Values that count once

`Value.distinct?` keeps the first of the values that share a key. What it keeps are some of the
values in their order, no two of them with one key, and one for every key that there was.

* `exists_distinct?_iff`: the values of which repetitions can be told;
* `distinct?_spec`: all of this at once;
* `mem_distinct?_texts`: of texts it keeps each one that there was;
* `distinct?_texts`: of texts it keeps the first of each.
-/

namespace Principals.Value

variable {seen : List Key} {values kept : List Value}

/-- What is kept of some values, given the keys that were seen before. -/
structure KeepsFirst (seen : List Key) (values kept : List Value) : Prop where
  sublist : kept.Sublist values
  apart : kept.Pairwise fun v w => v.key? ≠ w.key?
  unseen : ∀ w ∈ kept, ∀ k ∈ seen, w.key? ≠ some k
  covers : ∀ v ∈ values, (∃ k ∈ seen, v.key? = some k) ∨ ∃ w ∈ kept, w.key? = v.key?

theorem distinct?_go_spec (done : distinct?.go seen values = some kept) :
    KeepsFirst seen values kept := by
  induction values generalizing seen kept with
  | nil =>
    cases done
    exact ⟨.slnil, .nil, nofun, nofun⟩
  | cons v rest ih =>
    cases key : v.key? with
    | none => simp [distinct?.go, key] at done
    | some k =>
      by_cases known : k ∈ seen
      · have rest_done : distinct?.go seen rest = some kept := by
          simpa [distinct?.go, key, known] using done
        have spec := ih rest_done
        refine ⟨spec.sublist.cons v, spec.apart, spec.unseen, fun w among => ?_⟩
        rcases List.mem_cons.mp among with rfl | later
        · exact .inl ⟨k, known, key⟩
        · exact spec.covers w later
      · obtain ⟨more, rest_done, rfl⟩ :
            ∃ more, distinct?.go (k :: seen) rest = some more ∧ v :: more = kept := by
          simpa [distinct?.go, key, known] using done
        have spec := ih rest_done
        refine ⟨spec.sublist.cons_cons v, ?_, ?_, ?_⟩
        · refine List.pairwise_cons.mpr ⟨fun w among => ?_, spec.apart⟩
          rw [key]
          exact (spec.unseen w among k List.mem_cons_self).symm
        · intro w among j before
          rcases List.mem_cons.mp among with rfl | later
          · rw [key]
            rintro ⟨⟩
            exact known before
          · exact spec.unseen w later j (List.mem_cons_of_mem _ before)
        · intro w among
          rcases List.mem_cons.mp among with rfl | later
          · exact .inr ⟨w, List.mem_cons_self, rfl⟩
          · rcases spec.covers w later with ⟨j, before, same⟩ | ⟨u, u_mem, same⟩
            · rcases List.mem_cons.mp before with rfl | earlier
              · exact .inr ⟨v, List.mem_cons_self, key.trans same.symm⟩
              · exact .inl ⟨j, earlier, same⟩
            · exact .inr ⟨u, List.mem_cons_of_mem _ u_mem, same⟩

theorem distinct?_spec (done : distinct? values = some kept) : KeepsFirst [] values kept :=
  distinct?_go_spec done

theorem exists_distinct?_go_iff :
    (∃ kept, distinct?.go seen values = some kept) ↔ ∀ v ∈ values, v.key? ≠ none := by
  induction values generalizing seen with
  | nil => exact ⟨fun _ => nofun, fun _ => ⟨[], rfl⟩⟩
  | cons v rest ih =>
    rw [List.forall_mem_cons]
    cases key : v.key? with
    | none => simp [distinct?.go, key]
    | some k =>
      by_cases known : k ∈ seen
      · have later : (∃ kept, distinct?.go seen rest = some kept) ↔ _ := ih
        rw [← later]
        simp [distinct?.go, key, known]
      · have later : (∃ kept, distinct?.go (k :: seen) rest = some kept) ↔ _ := ih
        rw [← later]
        simp [distinct?.go, key, known]

/-- Repetitions can be told among values that all have a key. -/
theorem exists_distinct?_iff :
    (∃ kept, distinct? values = some kept) ↔ ∀ v ∈ values, v.key? ≠ none :=
  exists_distinct?_go_iff

/-- The first value is always kept. -/
theorem head?_of_distinct? (done : distinct? values = some kept) :
    kept.head? = values.head? := by
  cases values with
  | nil =>
    cases done
    rfl
  | cons v rest =>
    rw [distinct?, distinct?.go] at done
    cases key : v.key? with
    | none =>
      rw [key] at done
      cases done
    | some k =>
      simp only [key, List.not_mem_nil, if_false] at done
      obtain ⟨more, -, rfl⟩ := Option.map_eq_some_iff.mp done
      rfl

/-- Of texts, exactly those that there were are kept. -/
theorem mem_distinct?_texts (texts : ∀ v ∈ values, ∃ s, v = .text s)
    (done : distinct? values = some kept) {v : Value} : v ∈ kept ↔ v ∈ values := by
  have spec := distinct?_spec done
  constructor
  · exact fun among => spec.sublist.subset among
  · intro among
    rcases spec.covers v among with ⟨k, before, -⟩ | ⟨w, w_mem, same⟩
    · cases before
    · obtain ⟨s, rfl⟩ := texts v among
      obtain ⟨t, rfl⟩ := texts w (spec.sublist.subset w_mem)
      rwa [← key?_text_inj same]

theorem distinct?_go_texts (seen texts : List String) :
    distinct?.go (seen.map .text) (texts.map .text) =
      some ((texts.filter (! seen.contains ·)).eraseDups.map .text) := by
  induction texts generalizing seen with
  | nil => rfl
  | cons t rest ih =>
    have key : (Value.text t).key? = some (.text t) := rfl
    have before : Key.text t ∈ seen.map Key.text ↔ t ∈ seen := by simp
    rw [List.map_cons, distinct?.go, key]
    by_cases known : t ∈ seen
    · simp only [before, known, if_true, ih seen]
      rw [List.filter_cons_of_neg (by simpa using known)]
    · have later := ih (t :: seen)
      rw [List.map_cons] at later
      have apart : ∀ u, (! (t :: seen).contains u) = (! u == t && ! seen.contains u) := by
        intro u
        rw [List.contains_cons, Bool.not_or]
      simp only [before, known, if_false, later, apart]
      rw [List.filter_cons_of_pos (by simpa using known), List.eraseDups_cons, List.filter_filter]
      rfl

/-- Of texts, the first of each is kept. -/
theorem distinct?_texts (texts : List String) :
    distinct? (texts.map .text) = some (texts.eraseDups.map .text) := by
  have all : texts.filter (! ([] : List String).contains ·) = texts := by simp
  have done := distinct?_go_texts [] texts
  rwa [all] at done

/-- The first of each text are different texts. -/
theorem nodup_eraseDups_texts (texts : List String) : texts.eraseDups.Nodup := by
  have apart := List.pairwise_map.mp (distinct?_spec (distinct?_texts texts)).apart
  exact apart.imp fun differ same => differ (by rw [same])

end Principals.Value
