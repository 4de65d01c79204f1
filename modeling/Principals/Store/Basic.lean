import Principals.Store.Cell

/-!
# Records and the store

A `Store` holds every record that was made or read, by number. A record has values in memory and,
once it is written, a row in the table of its class; the tables are the rows of all records. What is
assigned stays in memory as it was assigned until `Store.reload` reads the rows again, and so does a
link that was looked at (`Store.rememberLink`).

A relationship holds a link to a record. Where the other side gathers its related records in a
collection, assigning the link keeps the collection up to date, as far as it is in memory.

* `Store.set_plain`: an assignment to a plain attribute succeeds.
-/

namespace Principals

/-- A row of a table, by attribute. -/
abbrev Row := OrderedMap String Cell

/-- A record. -/
structure Record where
  cls : RecordClass
  /-- The values in memory. -/
  values : OrderedMap String Value := ∅
  /-- The links in memory. -/
  links : OrderedMap String (Option RecordId) := ∅
  /-- The relationships assigned since the record was last written. -/
  unwritten : List String := []
  /-- The collections in memory. -/
  gathered : OrderedMap String (List RecordId) := ∅
  /-- The row that the table has for the record. -/
  row : Option Row := none
  /-- Whether the row was deleted. -/
  removed : Bool := false
deriving DecidableEq, Repr

namespace Record

/-- Whether the table has a row for the record. -/
def isStored (r : Record) : Bool := r.row.isSome

/-- Whether the record was never written. -/
def isTransient (r : Record) : Bool := r.row.isNone && ! r.removed

/-- The value in memory of a plain attribute. -/
def value (r : Record) (attr : String) : Value := (r.values.find? attr).getD .null

/-- The record with a value for a plain attribute. -/
def setValue (r : Record) (attr : String) (v : Value) : Record :=
  { r with values := r.values.insert attr v }

/-- The content of a column in the row. -/
def cell (r : Record) (attr : String) : Cell := (r.row.bind (·.find? attr)).getD .null

/-- The values that a row gives. -/
def valuesOfRow (cls : RecordClass) (row : Row) : OrderedMap String Value :=
  .ofList (cls.columns.map fun c => (c.attr, c.type.load ((row.find? c.attr).getD .null)))

/-- The record as its row has it, without anything that was only in memory. -/
def reload (r : Record) : Record :=
  match r.row with
  | none => r
  | some row =>
    { r with values := valuesOfRow r.cls row, links := ∅, unwritten := [], gathered := ∅ }

/-- A record that a row gives. -/
def ofRow (cls : RecordClass) (row : Row) : Record where
  cls
  values := valuesOfRow cls row
  row := some row

/-- The collection in memory, which a record that was never written always has. -/
def gathered? (r : Record) (attr : String) : Option (List RecordId) :=
  match r.gathered.find? attr with
  | some ids => some ids
  | none => if r.isTransient then some [] else none

@[simp]
theorem value_setValue_self (r : Record) (attr : String) (v : Value) :
    (r.setValue attr v).value attr = v := by
  simp [setValue, value]

theorem value_setValue_of_ne (r : Record) {attr attr' : String} (ne : attr' ≠ attr) (v : Value) :
    (r.setValue attr v).value attr' = r.value attr' := by
  simp [setValue, value, OrderedMap.find?_insert_of_ne _ ne]

end Record

/-- All records, and the realms that were looked up where no table answers for them. -/
structure Store where
  catalog : Catalog
  records : List Record := []
  lookups : List String := []

namespace Store

/-- The record of a number. -/
def record? (s : Store) (id : RecordId) : Option Record := s.records[id]?

/-- The numbers of all records. -/
def ids (s : Store) : List RecordId := List.range s.records.length

/-- The store with one more record, and its number. -/
def add (s : Store) (r : Record) : RecordId × Store :=
  (s.records.length, { s with records := s.records ++ [r] })

/-- The store with a change to one record. -/
def modify (s : Store) (id : RecordId) (f : Record → Record) : Store :=
  { s with records := s.records.modify id f }

/-- Whether a numbered record satisfies a test. -/
def test (s : Store) (id : RecordId) (p : Record → Bool) : Bool := (s.record? id).any p

/-- The numbers of the records of a class that the table has. -/
def storedOf (s : Store) (className : String) : List RecordId :=
  s.ids.filter fun id => s.test id fun r => r.cls.name == className && r.isStored

/-- The rows of a class. -/
def rowsOf (s : Store) (className : String) : List Row :=
  s.records.filterMap fun r => if r.cls.name = className then r.row else none

/-! ## Reading -/

/-- The stored record of a class whose column has the given content. -/
def findStored (s : Store) (className attr : String) (c : Cell) : Option RecordId :=
  (s.storedOf className).find? fun id => s.test id fun r => (r.cell attr).same c

/-- The record that a relationship of a record leads to: the link in memory or, for a record that
the table has, the stored record that its reference names. -/
def linked? (s : Store) (r : Record) (rel : Relationship) : Option RecordId :=
  match r.links.find? rel.attr with
  | some link => link
  | none =>
    if r.isStored then
      match r.cls.column? rel.localAttr with
      | some c => match c.type.store (r.value rel.localAttr) with
        | .ok cell => s.findStored rel.target rel.remote cell
        | .error _ => none
      | none => none
    else none

/-- The value of an attribute of a record that is not a collection. -/
def valueOf (s : Store) (r : Record) (attr : String) : Value :=
  match r.cls.relationship? attr with
  | some rel => match s.linked? r rel with
    | some target => .record target
    | none => .null
  | none => r.value attr

/-- The records that lead to a record of a class through a relationship that `attr` gathers. -/
def related (s : Store) (id : RecordId) (cls : RecordClass) (attr : String) : List RecordId :=
  s.ids.filter fun j => s.test j fun q => ! q.removed && q.cls.relationships.any fun rel =>
    rel.target == cls.name && rel.backref == some attr && s.linked? q rel == some id

/-- The records in a collection of a record: the collection in memory or, where there is none, the
records that lead to it. -/
def collection (s : Store) (id : RecordId) (attr : String) : List RecordId :=
  match s.record? id with
  | some r => (r.gathered? attr).getD (s.related id r.cls attr)
  | none => []

/-- The value of an attribute of a numbered record; an attribute never assigned has none. -/
def get (s : Store) (id : RecordId) (attr : String) : Value :=
  match s.record? id with
  | some r =>
    if r.cls.collections.contains attr then .list ((s.collection id attr).map .record)
    else s.valueOf r attr
  | none => .null

/-- Keeps the link of a stored record in memory, where it stays until the record is reloaded. -/
def rememberLink (s : Store) (id : RecordId) (attr : String) : Store :=
  match s.record? id with
  | some r => match r.cls.relationship? attr with
    | some rel =>
      if r.isStored && ! r.links.contains attr then
        s.modify id fun r => { r with links := r.links.insert attr (s.linked? r rel) }
      else s
    | none => s
  | none => s

/-- Keeps every link of a stored record in memory, as looking at the whole record does. -/
def rememberLinks (s : Store) (id : RecordId) : Store :=
  match s.record? id with
  | some r => r.cls.relationships.foldl (fun s rel => s.rememberLink id rel.attr) s
  | none => s

/-- The line that announces a record: its class and some of its attributes. -/
def headline (s : Store) (r : Record) : String :=
  "<" ++ r.cls.name ++ "(" ++
    ", ".intercalate (r.cls.headline.map fun attr => attr ++ "=" ++ (s.valueOf r attr).plain) ++
    ")>"

/-! ## Assignment -/

/-- Takes a record out of a collection that is in memory. -/
def ungather (s : Store) (owner : RecordId) (attr : String) (id : RecordId) : Store :=
  s.modify owner fun r => match r.gathered.find? attr with
    | some ids => { r with gathered := r.gathered.insert attr (ids.erase id) }
    | none => r

/-- Puts a record at the end of a collection that is in memory. -/
def gather (s : Store) (owner : RecordId) (attr : String) (id : RecordId) : Store :=
  s.modify owner fun r => match r.gathered? attr with
    | some ids => { r with gathered := r.gathered.insert attr (ids ++ [id]) }
    | none => r

/-- Assigns a link and keeps the collections on the other side up to date. -/
def setLink (s : Store) (id : RecordId) (rel : Relationship) (target : Option RecordId) : Store :=
  let before := (s.record? id).bind (s.linked? · rel)
  let s := s.modify id fun r =>
    { r with
      links := r.links.insert rel.attr target
      unwritten :=
        if r.unwritten.contains rel.attr then r.unwritten else r.unwritten ++ [rel.attr] }
  match rel.backref with
  | none => s
  | some attr =>
    if before = target then s
    else
      let s := match before with
        | some owner => s.ungather owner attr id
        | none => s
      match target with
      | some owner => s.gather owner attr id
      | none => s

/-- The records of a list of values, which must all be records. -/
def recordsOf : List Value → Option (List RecordId)
  | [] => some []
  | .record id :: rest => (recordsOf rest).map (id :: ·)
  | _ :: _ => none

/-- Assigns an attribute of a record. -/
def set (s : Store) (id : RecordId) (attr : String) (v : Value) : Except Failure Store :=
  match s.record? id with
  | none => .error .noSuchPart
  | some r =>
    match r.cls.relationship? attr with
    | some rel => match v with
      | .null => .ok (s.setLink id rel none)
      | .record target => .ok (s.setLink id rel (some target))
      | _ => .error .noSuchPart
    | none =>
      if r.cls.collections.contains attr then
        match v with
        | .list items => match recordsOf items with
          | some ids =>
            .ok (s.modify id fun r => { r with gathered := r.gathered.insert attr ids })
          | none => .error .noSuchPart
        | _ => .error .wrongType
      else .ok (s.modify id fun r => r.setValue attr v)

/-- Every stored record as its row has it. -/
def reload (s : Store) : Store := { s with records := s.records.map Record.reload }

/-! ## What an assignment changes -/

theorem set_plain {s : Store} {id : RecordId} {r : Record} {attr : String} (v : Value)
    (found : s.record? id = some r) (plain : r.cls.isPlain attr = true) :
    s.set id attr v = .ok (s.modify id fun r => r.setValue attr v) := by
  simp only [RecordClass.isPlain, Bool.and_eq_true, Option.isNone_iff_eq_none, Bool.not_eq_true',
    List.contains_eq_mem, decide_eq_false_iff_not] at plain
  simp [set, found, plain.1, plain.2]

theorem record?_modify_self {s : Store} {id : RecordId} {r : Record} (f : Record → Record)
    (found : s.record? id = some r) : (s.modify id f).record? id = some (f r) := by
  unfold record? at found
  simp [record?, modify, found]

theorem record?_modify_of_ne {s : Store} {id j : RecordId} (f : Record → Record) (ne : id ≠ j) :
    (s.modify id f).record? j = s.record? j := by
  simp [record?, modify, ne]

end Store

end Principals
