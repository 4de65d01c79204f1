/-!
# Kinds of principals

Agents, groups and roles are principals, and users are agents. Any kind can be derived further,
under a name and a key prefix of its own. `Kind.isSubkindOf` follows the derivation upwards.

* `isSubkindOf_refl`, `isSubkindOf_trans`: the relation is a preorder.
-/

namespace Principals

/-- The kinds of principals. -/
inductive Kind
  /-- The abstract kind above all others; no principal is of it. -/
  | identity
  | agent
  | user
  | group
  | role
  /-- A kind derived from `base`. -/
  | derived (base : Kind) (name keyPrefix : String)
deriving DecidableEq, Repr

namespace Kind

/-- The name of a kind. -/
def name : Kind → String
  | identity => "IdentityType"
  | agent => "Agent"
  | user => "User"
  | group => "Group"
  | role => "Role"
  | derived _ name _ => name

/-- What the keys of its principals begin with. -/
def keyPrefix : Kind → String
  | identity => ""
  | agent => "AGENT"
  | user => "USER"
  | group => "GROUP"
  | role => "ROLE"
  | derived _ _ p => p

/-- The kind itself and those it is derived from, upwards. -/
def ancestry : Kind → List Kind
  | identity => [identity]
  | agent => [agent, identity]
  | user => [user, agent, identity]
  | group => [group, identity]
  | role => [role, identity]
  | derived base name p => derived base name p :: base.ancestry

/-- Whether a kind is `k` or derived from it. -/
def isSubkindOf (j k : Kind) : Bool := decide (k ∈ j.ancestry)

/-- The built-in kind at the root of a derivation. -/
def stem : Kind → Kind
  | derived base _ _ => base.stem
  | k => k

/-- The kinds that come with the library. -/
def builtins : List Kind := [identity, agent, user, group, role]

theorem self_mem_ancestry (k : Kind) : k ∈ k.ancestry := by
  cases k <;> simp [ancestry]

theorem isSubkindOf_refl (k : Kind) : k.isSubkindOf k = true := by
  simp [isSubkindOf, self_mem_ancestry]

theorem ancestry_subset {j k : Kind} (h : k ∈ j.ancestry) : ∀ i ∈ k.ancestry, i ∈ j.ancestry := by
  induction j with
  | derived base name p ih =>
    rcases List.mem_cons.mp h with rfl | h
    · exact fun i hi => hi
    · exact fun i hi => List.mem_cons_of_mem _ (ih h i hi)
  | identity | agent | user | group | role =>
    intro i hi
    simp only [ancestry, List.mem_cons, List.not_mem_nil, or_false] at h
    rcases h with rfl | rfl | rfl <;> simp_all [ancestry]

theorem isSubkindOf_trans {i j k : Kind} (h : i.isSubkindOf j = true)
    (h' : j.isSubkindOf k = true) : i.isSubkindOf k = true := by
  simp only [isSubkindOf, decide_eq_true_eq] at h h' ⊢
  exact ancestry_subset h k h'

end Kind

end Principals
