import Principals.Bindings.Basic

/-!
# Attribute records and their owners

An attribute record refers to its owner through the attribute to which the owner property is bound:
a relationship, or the column that holds the reference. `ownerColumn` is the referring column and
`identityColumn` the column of the identity class that it refers to. `assignOwner` links the two; a
bare column can only do so by a relationship built on it, or when the owner already has a key.
-/

namespace Principals.Bindings

/-- The relationship to which the owner property is bound, if it is bound to one. -/
def ownerRelationship (b : Bindings) : Except Failure (Option Relationship) := do
  let attr ← b.attrOf Property.attributeOwner
  b.attributeClass.needTable
  .ok (b.attributeClass.relationship? attr)

/-- The column of attribute records that refers to the owner. -/
def ownerColumn (b : Bindings) : Except Failure String := do
  match ← b.ownerRelationship with
  | some rel => .ok rel.localAttr
  | none => b.attrOf Property.attributeOwner

/-- The column of identity records that attribute records refer to. -/
def identityColumn (b : Bindings) : Except Failure String := do
  b.identityClass.needTable
  match ← b.ownerRelationship with
  | some rel =>
    if rel.target = b.identityClass.name then .ok rel.remote else .error .foreignColumn
  | none => .ok (b.identityClass.keyAttr?.getD "")

/-- The value by which a bare reference names an owner: the first part of its key. -/
def keyValue (b : Bindings) (s : Store) (id : RecordId) : Except Failure Value := do
  b.identityClass.needTable
  let attr := b.identityClass.keyAttr?.getD ""
  if s.test id fun r => r.cls.hasAttr attr || r.values.contains attr then .ok (s.get id attr)
  else .error .noSuchPart

/-- What stands for an owner in an attribute record: the record itself, or its key. -/
def ownerValue (b : Bindings) (s : Store) (id : RecordId) : Except Failure Value := do
  match ← b.ownerRelationship with
  | some _ => .ok (.record id)
  | none => b.keyValue s id

/-- The relationship to the identity class that is built on the bound column. -/
def relationshipOnColumn (b : Bindings) : Except Failure (Option Relationship) := do
  let attr ← b.attrOf Property.attributeOwner
  .ok (b.attributeClass.relationships.find? fun rel =>
    rel.target == b.identityClass.name && rel.localAttr == attr)

/-- The relationship through which attribute records are linked to their owner, if there is one. -/
def linkingRelationship (b : Bindings) : Except Failure (Option Relationship) := do
  match ← b.ownerRelationship with
  | some rel => .ok (some rel)
  | none => b.relationshipOnColumn

/-- The attribute rows that refer to a stored owner, by primary key. -/
def ownedRows (b : Bindings) (s : Store) (owner : RecordId) : Except Failure (List RecordId) := do
  let referring ← b.ownerColumn
  let referred ← b.identityColumn
  let cls := b.attributeClass
  let ids := (s.storedOf cls.name).filter fun id => s.test id fun r =>
    s.test owner fun q => (r.cell referring).same (q.cell referred)
  let rowOf (id : RecordId) : Row := ((s.record? id).bind (·.row)).getD ∅
  .ok (ids.mergeSort fun i j => Store.rowLe cls.primaryKey (rowOf i) (rowOf j))

/-- Links an attribute record to its owner. -/
def assignOwner (b : Bindings) (attributeRecord owner : RecordId) : StoreM Unit := do
  match ← StoreM.lift b.linkingRelationship with
  | some rel => StoreM.change fun s => s.set attributeRecord rel.attr (.record owner)
  | none =>
    let v ← StoreM.ask fun s => b.keyValue s owner
    if v.isNull then StoreM.fail (.configuration .ownerUnsaved)
    else
      let attr ← StoreM.lift (b.attrOf Property.attributeOwner)
      StoreM.change fun s => s.set attributeRecord attr v

end Principals.Bindings
