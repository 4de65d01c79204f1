import Principals.Decimal.Double
import Principals.Time.Civil

/-!
# Values

The fields of principals and of stored records hold values of one type: assignment after
construction is not checked, attribute lists are open, and a query takes whatever its caller gives.

`Value.Key` is the canonical form under which values are compared and looked up: numbers by what
they denote whether whole, fractional or a truth value, date-times with an offset by their instant.
Lists, mappings and realms have no key.
-/

namespace Principals

/-- A realm: the partition of a store that bounds which principals see each other. -/
structure Realm where
  id : String
  name : Option String
deriving DecidableEq, Repr

/-- The place of a record among the records of a store. -/
abbrev RecordId := Nat

/-- A value of a field, an attribute or a query. -/
inductive Value
  | null
  | bool (b : Bool)
  | int (n : Int)
  | float (x : Decimal.Double)
  | text (s : String)
  | moment (d : Time.DateTime)
  | bytes (b : List UInt8)
  | list (items : List Value)
  | mapping (entries : List (Value × Value))
  | realm (r : Realm)
  /-- A thing that nothing here can look into. -/
  | foreign (tag : Nat)
  | record (id : RecordId)
deriving Repr, Inhabited

namespace Value

mutual

/-- Equality of the representations, which is decidable. -/
def decEq : (a b : Value) → Decidable (a = b)
  | .null, b => by cases b <;> first | exact isTrue rfl | exact isFalse nofun
  | .bool x, b => by cases b with
    | bool y => exact decidable_of_iff (x = y) (by simp)
    | _ => exact isFalse nofun
  | .int x, b => by cases b with
    | int y => exact decidable_of_iff (x = y) (by simp)
    | _ => exact isFalse nofun
  | .float x, b => by cases b with
    | float y => exact decidable_of_iff (x = y) (by simp)
    | _ => exact isFalse nofun
  | .text x, b => by cases b with
    | text y => exact decidable_of_iff (x = y) (by simp)
    | _ => exact isFalse nofun
  | .moment x, b => by cases b with
    | moment y => exact decidable_of_iff (x = y) (by simp)
    | _ => exact isFalse nofun
  | .bytes x, b => by cases b with
    | bytes y => exact decidable_of_iff (x = y) (by simp)
    | _ => exact isFalse nofun
  | .list x, b => by cases b with
    | list y => exact
      match decEqList x y with
      | isTrue h => isTrue (by rw [h])
      | isFalse h => isFalse (by simpa using h)
    | _ => exact isFalse nofun
  | .mapping x, b => by cases b with
    | mapping y => exact
      match decEqEntries x y with
      | isTrue h => isTrue (by rw [h])
      | isFalse h => isFalse (by simpa using h)
    | _ => exact isFalse nofun
  | .realm x, b => by cases b with
    | realm y => exact decidable_of_iff (x = y) (by simp)
    | _ => exact isFalse nofun
  | .foreign x, b => by cases b with
    | foreign y => exact decidable_of_iff (x = y) (by simp)
    | _ => exact isFalse nofun
  | .record x, b => by cases b with
    | record y => exact decidable_of_iff (x = y) (by simp)
    | _ => exact isFalse nofun

/-- Equality of lists of values. -/
def decEqList : (a b : List Value) → Decidable (a = b)
  | [], [] => isTrue rfl
  | [], _ :: _ => isFalse (by simp)
  | _ :: _, [] => isFalse (by simp)
  | a :: as, b :: bs =>
    match decEq a b, decEqList as bs with
    | isTrue h, isTrue h' => isTrue (by rw [h, h'])
    | isFalse h, _ => isFalse (by simp [h])
    | _, isFalse h' => isFalse (by simp [h'])

/-- Equality of the entries of mappings. -/
def decEqEntries : (a b : List (Value × Value)) → Decidable (a = b)
  | [], [] => isTrue rfl
  | [], _ :: _ => isFalse (by simp)
  | _ :: _, [] => isFalse (by simp)
  | (k, v) :: as, (k', v') :: bs =>
    match decEq k k', decEq v v', decEqEntries as bs with
    | isTrue h, isTrue h', isTrue h'' => isTrue (by rw [h, h', h''])
    | isFalse h, _, _ => isFalse (by simp [h])
    | _, isFalse h, _ => isFalse (by simp [h])
    | _, _, isFalse h => isFalse (by simp [h])

end

instance : DecidableEq Value := decEq

/-- Whether there is no value. -/
def isNull : Value → Bool
  | .null => true
  | _ => false

/-- A text, or none. -/
def ofText? : Option String → Value
  | some s => .text s
  | none => .null

/-- Whether a value counts as present where a default may stand in for it. -/
def isTruthy : Value → Bool
  | .null => false
  | .bool b => b
  | .int n => n != 0
  | .float x => x.toInt? != some 0
  | .text s => s != ""
  | .bytes b => ! b.isEmpty
  | .list items => ! items.isEmpty
  | .mapping entries => ! entries.isEmpty
  | .moment _ | .realm _ | .foreign _ | .record _ => true

/-- The canonical form under which values are compared and looked up. -/
inductive Key
  | null
  | number (n : Int)
  | fraction (x : Decimal.Double)
  | text (s : String)
  | instant (micros : Int)
  | wallClock (c : Time.Civil)
  | bytes (b : List UInt8)
  | foreign (tag : Nat)
  | record (id : RecordId)
deriving DecidableEq, Repr

/-- The key of a value, for the values that can be looked up. -/
def key? : Value → Option Key
  | .null => some .null
  | .bool b => some (.number (if b then 1 else 0))
  | .int n => some (.number n)
  | .float x => some (match x.toInt? with
    | some n => .number n
    | none => .fraction x)
  | .text s => some (.text s)
  | .moment d => some (match d.instant? with
    | some t => .instant t
    | none => .wallClock d.civil)
  | .bytes b => some (.bytes b)
  | .foreign tag => some (.foreign tag)
  | .record id => some (.record id)
  | .list _ | .mapping _ | .realm _ => none

/-- The first of each class of values with equal keys, in order; none if a value has no key. -/
def distinct? (values : List Value) : Option (List Value) :=
  go [] values
where
  go (seen : List Key) : List Value → Option (List Value)
    | [] => some []
    | v :: rest =>
      match v.key? with
      | none => none
      | some k => if k ∈ seen then go seen rest else (go (k :: seen) rest).map (v :: ·)

/-! ## Which values share a key -/

theorem key?_text_inj {s t : String} (h : (Value.text s).key? = (Value.text t).key?) : s = t := by
  simpa [key?] using h

theorem distinct?_nil : distinct? [] = some [] := rfl

end Value

end Principals
