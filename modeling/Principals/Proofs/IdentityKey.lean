import Mathlib.Data.List.Infix
import Principals.IdentityKey

/-!
# Keys read back

The first separator of a composed key is the one that was put there, provided that the prefix holds
none: neither its end nor the identifier can complete an earlier one, since the separator begins
with a character that it does not go on with. So there is one way at most to take a key apart under
a prefix without a separator.

* `splitFirst_eq_some_iff`, `splitFirst_eq_none_iff`: where a text is split, and when it is not;
* `parse_compose`: parsing undoes composing, whatever the identifier holds;
* `parse_eq_ok_iff`, `parse_eq_error_iff`: a key is parsed into what it splits into, and is malformed
  if it splits into nothing;
* `compose_inj`: keys composed under prefixes without a separator tell apart all that they are
  composed of.
-/

namespace Principals.IdentityKey

variable {cs before after : List Char} {key keyPrefix identifier : String}

/-! ## The first separator -/

/-- After characters without a separator, the first separator is the next one. -/
theorem splitFirst_append (free : splitFirst before = none) :
    splitFirst (before ++ (separator.toList ++ after)) = some (before, after) := by
  fun_induction splitFirst before with
  | case1 => rfl
  | case2 => cases free
  | case3 c rest apart ih =>
    have restFree : splitFirst rest = none := by simpa using free
    have noneStarts : ∀ tail, c = ':' → rest ++ (separator.toList ++ after) = '/' :: '/' :: tail →
        False := by
      intro tail colon slashes
      rcases rest with _ | ⟨x, _ | ⟨y, more⟩⟩
      · cases slashes
      · cases slashes
      · simp only [List.cons_append, List.cons.injEq] at slashes
        exact apart more colon (by rw [slashes.1, slashes.2.1])
    rw [List.cons_append, splitFirst.eq_3 c _ noneStarts, ih restFree]
    rfl

/-- What stands before the first separator holds none. -/
theorem splitFirst_before (split : splitFirst cs = some (before, after)) :
    splitFirst before = none := by
  fun_induction splitFirst cs generalizing before after with
  | case1 => cases split
  | case2 =>
    cases split
    rfl
  | case3 c rest apart ih =>
    obtain ⟨⟨front, back⟩, splitRest, same⟩ := Option.map_eq_some_iff.mp split
    cases same
    have noneStarts : ∀ tail, c = ':' → front = '/' :: '/' :: tail → False := by
      rintro tail colon rfl
      exact apart _ colon (append_of_splitFirst splitRest)
    rw [splitFirst.eq_3 c _ noneStarts, ih splitRest]
    rfl

/-- A text is split around a separator with none before it, wherever that is. -/
theorem splitFirst_eq_some_iff : splitFirst cs = some (before, after) ↔
    cs = before ++ (separator.toList ++ after) ∧ splitFirst before = none := by
  constructor
  · intro split
    exact ⟨by rw [append_of_splitFirst split, List.append_assoc], splitFirst_before split⟩
  · rintro ⟨rfl, free⟩
    exact splitFirst_append free

/-- A text is not split exactly if there is no separator anywhere in it. -/
theorem splitFirst_eq_none_iff : splitFirst cs = none ↔ ¬ separator.toList <:+: cs := by
  fun_induction splitFirst cs with
  | case1 => simp [separator]
  | case2 rest =>
    have starts : separator.toList <+: ':' :: '/' :: '/' :: rest := List.prefix_append _ rest
    simp only [reduceCtorEq, starts.isInfix, not_true_eq_false]
  | case3 c rest apart ih =>
    have noneStarts : ¬ separator.toList <+: c :: rest := by
      rintro ⟨tail, whole⟩
      obtain ⟨colon, slashes⟩ := List.cons.inj whole
      exact apart tail colon.symm slashes.symm
    rw [Option.map_eq_none_iff, ih, List.infix_cons_iff, not_or, and_iff_right noneStarts]

/-! ## Prefix and identifier -/

/-- A text without a separator. -/
def Unseparated (s : String) : Prop := ¬ separator.toList <:+: s.toList

instance (s : String) : Decidable (Unseparated s) := inferInstanceAs (Decidable (¬ _))

theorem unseparated_iff {s : String} : Unseparated s ↔ splitFirst s.toList = none :=
  splitFirst_eq_none_iff.symm

/-- A way to take a key apart: neither part is empty, and the prefix holds no separator. -/
structure SplitsInto (key keyPrefix identifier : String) : Prop where
  composed : key = compose keyPrefix identifier
  prefixed : keyPrefix ≠ ""
  identified : identifier ≠ ""
  free : Unseparated keyPrefix

theorem toList_compose (keyPrefix identifier : String) : (compose keyPrefix identifier).toList =
    keyPrefix.toList ++ (separator.toList ++ identifier.toList) := by
  simp [compose]

theorem splitFirst_compose (free : splitFirst keyPrefix.toList = none) (identifier : String) :
    splitFirst (compose keyPrefix identifier).toList =
      some (keyPrefix.toList, identifier.toList) := by
  rw [toList_compose, splitFirst_append free]

/-- Parsing undoes composing: the prefix must hold no separator, the identifier may. -/
theorem parse_compose (free : splitFirst keyPrefix.toList = none)
    (prefixed : keyPrefix ≠ "") (identified : identifier ≠ "") :
    parse (compose keyPrefix identifier) = .ok (keyPrefix, identifier) := by
  have split := splitFirst_compose free identifier
  have before : keyPrefix.toList.isEmpty = false := by simpa using prefixed
  have after : identifier.toList.isEmpty = false := by simpa using identified
  simp [parse, split, before, after]

/-- A key is parsed into a prefix and an identifier exactly if it splits into them. -/
theorem parse_eq_ok_iff :
    parse key = .ok (keyPrefix, identifier) ↔ SplitsInto key keyPrefix identifier := by
  constructor
  · intro parsed
    unfold parse at parsed
    split at parsed
    · next before after split =>
      split at parsed
      · cases parsed
      · next full =>
        cases parsed
        obtain ⟨chars, free⟩ := splitFirst_eq_some_iff.mp split
        rw [not_or] at full
        refine ⟨?_, by simpa using full.1, by simpa using full.2, ?_⟩
        · rw [← String.toList_inj, chars, toList_compose, String.toList_ofList,
            String.toList_ofList]
        · rwa [unseparated_iff, String.toList_ofList]
    · cases parsed
  · rintro ⟨rfl, prefixed, identified, free⟩
    exact parse_compose (unseparated_iff.mp free) prefixed identified

/-- The prefix may end in part of a separator, and the identifier may begin with the rest of one. -/
example : parse "a:/:///b://c" = .ok ("a:/", "/b://c") := rfl

/-- Parsing fails in one way. -/
theorem parse_cases (key : String) :
    (∃ keyPrefix identifier, parse key = .ok (keyPrefix, identifier)) ∨
      parse key = .error (.malformedKey key) := by
  unfold parse
  split
  · split
    · exact .inr rfl
    · exact .inl ⟨_, _, rfl⟩
  · exact .inr rfl

/-- A key is refused exactly if there is nothing that it splits into, and then as malformed. -/
theorem parse_eq_error_iff {f : Failure} : parse key = .error f ↔
    f = .malformedKey key ∧ ∀ keyPrefix identifier, ¬ SplitsInto key keyPrefix identifier := by
  constructor
  · intro refused
    rcases parse_cases key with ⟨keyPrefix, identifier, parsed⟩ | malformed
    · cases parsed.symm.trans refused
    · cases malformed.symm.trans refused
      refine ⟨rfl, fun keyPrefix identifier splits => ?_⟩
      cases refused.symm.trans (parse_eq_ok_iff.mpr splits)
  · rintro ⟨rfl, unsplit⟩
    refine (parse_cases key).resolve_left ?_
    rintro ⟨keyPrefix, identifier, parsed⟩
    exact unsplit keyPrefix identifier (parse_eq_ok_iff.mp parsed)

/-- Under prefixes without a separator, equal keys were composed of the same. Neither part need be
non-empty for this. -/
theorem compose_inj {keyPrefix' identifier' : String} (free : Unseparated keyPrefix)
    (free' : Unseparated keyPrefix') :
    compose keyPrefix identifier = compose keyPrefix' identifier' ↔
      keyPrefix = keyPrefix' ∧ identifier = identifier' := by
  constructor
  · intro same
    have split := splitFirst_compose (unseparated_iff.mp free) identifier
    rw [same, splitFirst_compose (unseparated_iff.mp free')] at split
    obtain ⟨prefixes, identifiers⟩ := Prod.mk.inj (Option.some.inj split)
    exact ⟨(String.toList_inj.mp prefixes).symm, (String.toList_inj.mp identifiers).symm⟩
  · rintro ⟨rfl, rfl⟩
    rfl

end Principals.IdentityKey
