import Principals.Failure

/-!
# Identity keys

A key is a prefix and an identifier around the separator `://`. Reading one splits at the first
separator, and both parts must be non-empty.

* `append_of_splitFirst`: what splitting gives makes up the key again.
-/

namespace Principals.IdentityKey

/-- What stands between the prefix and the identifier. -/
def separator : String := "://"

/-- The key of an identifier under a prefix. -/
def compose (keyPrefix identifier : String) : String := keyPrefix ++ separator ++ identifier

/-- The characters before and after the first separator. -/
def splitFirst : List Char → Option (List Char × List Char)
  | [] => none
  | ':' :: '/' :: '/' :: rest => some ([], rest)
  | c :: rest => (splitFirst rest).map fun (before, after) => (c :: before, after)

/-- The prefix and the identifier of a key. -/
def parse (key : String) : Except Failure (String × String) :=
  match splitFirst key.toList with
  | some (before, after) =>
    if before.isEmpty ∨ after.isEmpty then .error (.malformedKey key)
    else .ok (String.ofList before, String.ofList after)
  | none => .error (.malformedKey key)

/-- The prefix and the identifier of a value that should be a key. -/
def parseValue : Value → Except Failure (String × String)
  | .text key => parse key
  | .bytes _ => .error .wrongType
  | _ => .error .noSuchPart

theorem append_of_splitFirst {cs before after : List Char}
    (h : splitFirst cs = some (before, after)) : cs = before ++ separator.toList ++ after := by
  fun_induction splitFirst cs generalizing before after with
  | case1 => simp at h
  | case2 rest =>
    simp only [Option.some.injEq, Prod.mk.injEq] at h
    obtain ⟨rfl, rfl⟩ := h
    rfl
  | case3 c rest _ ih =>
    simp only [Option.map_eq_some_iff, Prod.mk.injEq] at h
    obtain ⟨⟨b, a⟩, hb, rfl, rfl⟩ := h
    rw [ih hb]
    rfl

end Principals.IdentityKey
