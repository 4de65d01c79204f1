import Principals.Store.Basic

/-!
# Writing records to the tables

A flush writes the rows of all stored records that changed and of the new records asked for. It
goes class by class in the order of the catalog, in which a class follows those that it refers to.
References follow their links only here; a table that numbers its rows gives the next number to a
row without one. All of a flush happens, or none of it.

`Store.persist` also writes what the given records lead to: the records they link to and those they
gather. A failed write loses what was assigned to stored records since the last one.
-/

namespace Principals

namespace Record

/-- The cells under which the columns of a class store the values of a record. -/
def storeRow (r : Record) : List Column → Except Failure Row
  | [] => .ok ∅
  | c :: rest => do
    let cell ← c.type.store (r.value c.attr)
    let row ← storeRow r rest
    .ok ⟨(c.attr, cell) :: row.entries⟩

/-- Whether every typed column takes its value. -/
def takesValues (r : Record) : Bool :=
  r.cls.columns.all fun c => match c.type.store (r.value c.attr) with
    | .error .badCell => false
    | _ => true

/-- The records that a record links to or gathers. -/
def neighbours (r : Record) : List RecordId :=
  r.links.values.filterMap id ++ r.gathered.values.flatten

end Record

namespace Store

/-! ## What is written -/

/-- The records reached from a list of records, in the order in which they are met. A record that
the table already has is passed only when it is one of `roots`. -/
def reach (s : Store) (roots : List RecordId) : Nat → List RecordId → List RecordId → List RecordId
  | 0, _, met => met
  | _ + 1, [], met => met
  | fuel + 1, id :: rest, met =>
    match s.record? id with
    | none => reach s roots fuel rest met
    | some r =>
      if met.contains id || (r.isStored && ! roots.contains id) then reach s roots fuel rest met
      else reach s roots fuel (r.neighbours ++ rest) (met ++ [id])

/-- The number of steps that `reach` takes at most. -/
def reachSteps (s : Store) (roots : List RecordId) : Nat :=
  roots.length + (s.records.flatMap Record.neighbours).length + 1

/-- The new records that writing the given ones also writes. -/
def closure (s : Store) (roots : List RecordId) : List RecordId :=
  (s.reach roots (s.reachSteps roots) roots []).filter fun id => s.test id Record.isTransient

/-- The new records that stored ones were linked to since they were written. -/
def linkedNew (s : Store) : List RecordId :=
  s.records.flatMap fun r =>
    if r.isStored then
      r.unwritten.filterMap fun attr => (r.links.find? attr).join.filter fun id =>
        s.test id Record.isTransient
    else []

/-! ## One row -/

/-- The record with its references set to what its links lead to. -/
def syncLinks (s : Store) (r : Record) : Record :=
  let synced := r.unwritten.foldl
    (fun acc attr => match r.cls.relationship? attr with
      | some rel =>
        let v := match (r.links.find? attr).join with
          | some target => s.get target rel.remote
          | none => .null
        acc.setValue rel.localAttr v
      | none => acc)
    r
  { synced with unwritten := [] }

/-- The next number of a table: one above the greatest. -/
def nextNumber (s : Store) (cls : RecordClass) (attr : String) : Int :=
  let numbers := (s.rowsOf cls.name).filterMap fun row => match row.find? attr with
    | some (.integer n) => some n
    | _ => none
  match numbers with
  | [] => 1
  | n :: rest => rest.foldl max n + 1

/-- The record with a number of its own, if its table numbers it and it has none. -/
def number (s : Store) (r : Record) : Record :=
  match r.cls.isNumbered, r.cls.keyAttr? with
  | true, some attr =>
    if (r.value attr).isNull then r.setValue attr (.int (s.nextNumber r.cls attr)) else r
  | _, _ => r

/-- Whether two rows agree on attributes, none of which is empty. -/
def agree (attrs : List String) (a b : Row) : Bool :=
  attrs.all fun attr => ((a.find? attr).getD .null).same ((b.find? attr).getD .null)

/-- Whether a row satisfies the constraints of its table beside the other rows. -/
def admits (cls : RecordClass) (others : List Row) (row : Row) : Bool :=
  cls.columns.all (fun c =>
    (c.nullable || (row.find? c.attr).getD .null != .null) &&
      (! c.unique || ! others.any (agree [c.attr] row))) &&
    ! others.any (agree cls.primaryKey row)

/-- The rows of a class but that of one record. -/
def otherRows (s : Store) (id : RecordId) (cls : RecordClass) : List Row :=
  s.ids.filterMap fun j =>
    if j = id then none
    else (s.record? j).bind fun r => if r.cls.name = cls.name then r.row else none

/-- Writes the row of one record, which is numbered if it is new. -/
def writeRow (s : Store) (id : RecordId) : Except Failure Store :=
  match s.record? id with
  | none => .ok s
  | some r => do
    let r := s.syncLinks r
    let r := if r.isStored then r else s.number r
    let row ← r.storeRow r.cls.columns
    if r.row = some row then .ok (s.modify id fun _ => r)
    else if admits r.cls (s.otherRows id r.cls) row then
      .ok (s.modify id fun _ => { r with row := some row })
    else .error .constraint

/-! ## All rows -/

/-- The records of a class among some. -/
def ofClass (s : Store) (cls : RecordClass) (ids : List RecordId) : List RecordId :=
  ids.filter fun id => s.test id fun r => r.cls.name == cls.name

/-- Writes the rows of some records of a class; values that no column takes are found first. -/
def writeRows (s : Store) (ids : List RecordId) : Except Failure Store :=
  if ids.all fun id => s.test id fun r => (s.syncLinks r).takesValues then
    ids.foldlM (fun s id => s.writeRow id) s
  else .error .badCell

/-- Writes the rows of a class: changes first, then new rows. -/
def writeClass (s : Store) (new : List RecordId) (cls : RecordClass) : Except Failure Store := do
  let s ← s.writeRows (s.storedOf cls.name)
  s.writeRows (s.ofClass cls new)

/-- Writes all changes and the given new records. -/
def flush (s : Store) (new : List RecordId) : Except Failure Store :=
  let new := new ++ (s.closure s.linkedNew).filter (! new.contains ·)
  s.catalog.classes.foldlM (fun s cls => s.writeClass new cls) s

/-! ## Deletion -/

/-- The stored records of a class whose relationship leads to a record. -/
def dependents (s : Store) (r : Record) : List RecordId :=
  s.ids.filter fun id => s.test id fun q =>
    q.isStored && q.cls.relationships.any fun rel =>
      rel.backref.isSome && rel.target == r.cls.name &&
        (q.cell rel.localAttr).same (r.cell rel.remote)

/-- Takes the row of a record out of its table. -/
def remove (s : Store) (id : RecordId) : Store :=
  s.modify id fun r => { r with row := none, removed := true }

/-- Deletes the row of a record and of those that it gathers. -/
def delete (s : Store) (id : RecordId) : Except Failure Store :=
  match s.record? id with
  | some r =>
    if r.isStored then do
      let s ← s.flush []
      match s.record? id with
      | some r => .ok ((s.dependents r).foldl remove (s.remove id))
      | none => .ok s
    else .error .badRecordState
  | none => .error .badRecordState

/-! ## Rows in order -/

/-- Whether the first of two cells is not the later one; empty cells come first. -/
def cellLe (a b : Cell) : Bool :=
  match a.order b with
  | some .gt => false
  | some _ => true
  | none => a == .null

/-- Whether the first of two rows is not the later one by the given attributes. -/
def rowLe : List String → Row → Row → Bool
  | [], _, _ => true
  | attr :: rest, a, b =>
    let x := (a.find? attr).getD .null
    let y := (b.find? attr).getD .null
    if x = y then rowLe rest a b else cellLe x y

/-- The rows of a class by primary key. -/
def sortedRows (s : Store) (cls : RecordClass) : List Row :=
  (s.rowsOf cls.name).mergeSort (rowLe cls.primaryKey)

/-- The values of a row in table order. -/
def rowValues (cls : RecordClass) (row : Row) : List Value :=
  cls.columns.map fun c => c.type.load ((row.find? c.attr).getD .null)

end Store

/-! ## Actions -/

/-- Something done with the store: it may fail, and what it did until then stays done. -/
abbrev StoreM := ExceptT Failure (StateM Store)

namespace StoreM

/-- Gives up. -/
def fail (e : Failure) : StoreM α := ExceptT.mk (pure (.error e))

/-- A result that was reached without the store. -/
def lift (r : Except Failure α) : StoreM α := ExceptT.mk (pure r)

/-- A result read off the store. -/
def ask (f : Store → Except Failure α) : StoreM α := ExceptT.mk (fun s => (f s, s))

/-- A change of the store that happens as a whole or not at all. -/
def change (f : Store → Except Failure Store) : StoreM Unit :=
  ExceptT.mk fun s => match f s with
    | .ok s' => (.ok (), s')
    | .error e => (.error e, s)

/-- A change of the tables; if it fails, stored records are as their rows have them. -/
def transact (f : Store → Except Failure Store) : StoreM Unit :=
  ExceptT.mk fun s => match f s with
    | .ok s' => (.ok (), s')
    | .error e => (.error e, s.reload)

/-- Makes a record. -/
def create (r : Record) : StoreM RecordId := ExceptT.mk fun s => ((.ok (s.add r).1), (s.add r).2)

/-- Writes all changes. -/
def flush : StoreM Unit := transact fun s => s.flush []

/-- Requires a test of a record. -/
def require (id : RecordId) (p : Record → Bool) : StoreM Unit :=
  ask fun s => if s.test id p then .ok () else .error .badRecordState

/-- Writes records and what they lead to. -/
def persist (ids : List RecordId) : StoreM Unit := do
  ids.forM fun id => require id fun r => ! r.removed && r.cls.isMapped
  transact fun s => s.flush (s.closure ids)

/-- Deletes a record. -/
def delete (id : RecordId) : StoreM Unit := do
  require id Record.isStored
  transact fun s => s.delete id

end StoreM

end Principals
