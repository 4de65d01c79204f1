import Mathlib.Data.List.DropRight
import Principals.Text.Blank

/-!
# Trimming twice

What trimming leaves begins and ends with no blank, so trimming it again changes nothing. A text
that was read and trimmed once is therefore read back as it is.

* `trim_trim`: trimming is idempotent;
* `trim_append_of_trim`, `trim_append_of_solid`: a text in front of a trimmed one is kept, if it holds
  no blank;
* `trimWhile_dropWhile`, `trimWhile_dropEndWhile`: one end trimmed before both.
-/

namespace Principals.Text

variable {p : Char → Bool} {cs : List Char}

/-- The part that trimming leaves at the end begins as the characters do. -/
theorem dropWhile_dropEndWhile (p : Char → Bool) (cs : List Char)
    (head : cs.dropWhile p = cs) : (dropEndWhile p cs).dropWhile p = dropEndWhile p cs := by
  have kept : dropEndWhile p cs <+: cs := List.rdropWhile_prefix p cs
  rw [List.dropWhile_eq_self_iff] at head ⊢
  intro nonempty
  have longer : 0 < cs.length := nonempty.trans_le kept.length_le
  have first : (dropEndWhile p cs)[0] = cs[0] := kept.getElem nonempty
  rw [first]
  exact head longer

theorem trimWhile_trimWhile (p : Char → Bool) (cs : List Char) :
    trimWhile p (trimWhile p cs) = trimWhile p cs := by
  have front : (trimWhile p cs).dropWhile p = trimWhile p cs :=
    dropWhile_dropEndWhile p _ (List.dropWhile_idempotent p cs)
  rw [trimWhile, front]
  exact List.rdropWhile_idempotent p (cs.dropWhile p)

/-- Trimming a second time changes nothing. -/
theorem trim_trim (s : String) : trim (trim s) = trim s := by
  simp only [trim, String.toList_ofList, trimWhile_trimWhile]

/-- The end of a trimmed text is not blank. -/
theorem dropEndWhile_of_trimWhile (trimmed : trimWhile p cs = cs) : dropEndWhile p cs = cs := by
  rw [← trimmed]
  exact List.rdropWhile_idempotent p (cs.dropWhile p)

/-- Where nothing is to be dropped, trimming changes nothing. -/
theorem trimWhile_of_forall (kept : ∀ c ∈ cs, p c = false) : trimWhile p cs = cs := by
  have front : cs.dropWhile p = cs := List.dropWhile_eq_self_iff.mpr fun nonempty => by
    rw [kept _ (List.getElem_mem nonempty)]
    exact Bool.false_ne_true
  rw [trimWhile, front]
  refine List.rdropWhile_eq_self_iff.mpr fun nonempty => ?_
  rw [kept _ (List.getLast_mem nonempty)]
  exact Bool.false_ne_true

/-! ## One end at a time -/

/-- The end of a list with a head: what was in front of it stays, unless all of it goes. -/
theorem dropEndWhile_cons (p : Char → Bool) (c : Char) (cs : List Char) :
    dropEndWhile p (c :: cs) =
      if dropEndWhile p cs = [] ∧ p c = true then [] else c :: dropEndWhile p cs := by
  unfold dropEndWhile
  rw [List.reverse_cons, List.dropWhile_append]
  cases rest : cs.reverse.dropWhile p with
  | nil => cases blank : p c <;> simp [blank]
  | cons d ds => simp

/-- The two ends can be trimmed in either order. -/
theorem dropWhile_dropEndWhile_comm (p : Char → Bool) (cs : List Char) :
    (dropEndWhile p cs).dropWhile p = dropEndWhile p (cs.dropWhile p) := by
  induction cs with
  | nil => rfl
  | cons c rest ih =>
    cases blank : p c with
    | false =>
      rw [List.dropWhile_cons_of_neg (by simp [blank]), dropEndWhile_cons,
        if_neg (by simp [blank]), List.dropWhile_cons_of_neg (by simp [blank])]
    | true =>
      rw [List.dropWhile_cons_of_pos blank, ← ih, dropEndWhile_cons]
      split
      · next gone => rw [gone.1]
      · rw [List.dropWhile_cons_of_pos blank]

theorem trimWhile_dropWhile (p : Char → Bool) (cs : List Char) :
    trimWhile p (cs.dropWhile p) = trimWhile p cs := by
  rw [trimWhile, List.dropWhile_idempotent, trimWhile]

theorem trimWhile_dropEndWhile (p : Char → Bool) (cs : List Char) :
    trimWhile p (dropEndWhile p cs) = trimWhile p cs := by
  rw [trimWhile, dropWhile_dropEndWhile_comm]
  exact List.rdropWhile_idempotent p (cs.dropWhile p)

/-- Characters that are not all dropped keep what follows them. -/
theorem dropWhile_append_of_ne_nil {rest : List Char} (solid : cs.dropWhile p ≠ []) :
    (cs ++ rest).dropWhile p = cs.dropWhile p ++ rest := by
  rw [List.dropWhile_append, if_neg (by simpa using solid)]

/-- Characters that are not all dropped from the end keep what stands before them. -/
theorem dropEndWhile_append_of_ne_nil {front : List Char} (solid : dropEndWhile p cs ≠ []) :
    dropEndWhile p (front ++ cs) = front ++ dropEndWhile p cs := by
  have reversed : cs.reverse.dropWhile p ≠ [] := by
    intro gone
    apply solid
    rw [dropEndWhile, gone, List.reverse_nil]
  unfold dropEndWhile
  rw [List.reverse_append, dropWhile_append_of_ne_nil reversed, List.reverse_append,
    List.reverse_reverse]

/-! ## Before a trimmed text -/

/-- A text that begins with no blank may stand in front of a trimmed one that is not empty. -/
theorem trim_append_of_trim {c : Char} {s : String} (solid : isWhiteSpace c = false)
    (trimmed : trim s = s) (nonempty : s ≠ "") :
    trim (String.singleton c ++ s) = String.singleton c ++ s := by
  have chars : trimWhile isWhiteSpace s.toList = s.toList := by
    have eq := congrArg String.toList trimmed
    rwa [trim, String.toList_ofList] at eq
  have tail : dropEndWhile isWhiteSpace s.toList = s.toList := dropEndWhile_of_trimWhile chars
  have some_char : s.toList ≠ [] := fun none => nonempty (by simpa using none)
  have whole : dropEndWhile isWhiteSpace (c :: s.toList) = c :: s.toList := by
    change List.rdropWhile isWhiteSpace (c :: s.toList) = c :: s.toList
    rw [List.rdropWhile_eq_self_iff]
    intro _
    rw [List.getLast_cons some_char]
    exact List.rdropWhile_eq_self_iff.mp tail some_char
  have front : (c :: s.toList).dropWhile isWhiteSpace = c :: s.toList := by
    rw [List.dropWhile_cons_of_neg (by simp [solid])]
  have list : (String.singleton c ++ s).toList = c :: s.toList := by simp
  rw [trim, list, trimWhile, front, whole, ← list, String.ofList_toList]

/-- A text without blanks may stand in front of a trimmed one that is not empty. -/
theorem trim_append_of_solid {t s : String} (solid : ∀ c ∈ t.toList, isWhiteSpace c = false)
    (trimmed : trim s = s) (nonempty : s ≠ "") : trim (t ++ s) = t ++ s := by
  suffices fronted : ∀ cs : List Char, (∀ c ∈ cs, isWhiteSpace c = false) →
      trim (String.ofList cs ++ s) = String.ofList cs ++ s ∧ String.ofList cs ++ s ≠ "" by
    have front := (fronted t.toList solid).1
    rwa [String.ofList_toList] at front
  intro cs
  induction cs with
  | nil =>
    intro _
    simpa using ⟨trimmed, nonempty⟩
  | cons c rest ih =>
    intro solid
    obtain ⟨kept, some_char⟩ := ih fun c' inRest => solid c' (List.mem_cons_of_mem _ inRest)
    have split : String.ofList (c :: rest) ++ s = String.singleton c ++ (String.ofList rest ++ s) := by
      rw [← String.toList_inj]
      simp
    rw [split]
    refine ⟨trim_append_of_trim (solid c List.mem_cons_self) kept some_char, fun empty => ?_⟩
    have chars := congrArg String.toList empty
    simp at chars

end Principals.Text
