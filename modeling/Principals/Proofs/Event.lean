import Principals.Principal.Document
import Principals.Publisher
import Principals.Proofs.OrderedMap
import Principals.Proofs.Principal.Construction

/-!
# Events with a document for a payload

The payload of an event is a document that was made before, handed over as a value. Reading it trims
the names of its members and publishing it makes a document again. A document of simple values is its
own document (`Document.Stable`), so what is published is the document that was handed over, as long
as its names are trimmed and different.

* `stable_object`: members that are their own documents make up an object that is;
* `Event.create_of_trimmed`: the event of trimmed texts and a payload;
* `Event.document_of_payload`: what is published of it;
* `Publisher.publish_of_document`: what publishing sends.
-/

namespace Principals

/-! ## Documents taken as values -/

namespace Document

variable {x : Document} {ds : List (String × Document)}

/-- A document that is its own when it is taken as a value. -/
def Stable (x : Document) : Prop := ofValue x.toValue = .ok x

theorem stable_null : Stable .null := rfl

theorem stable_text (s : String) : Stable (.text s) := rfl

theorem ofEntries_toEntries (stable : ∀ e ∈ ds, e.2.Stable) (acc : OrderedMap String Document) :
    ofEntries (toEntries ds) acc = .ok (acc.insertAll ds) := by
  induction ds generalizing acc with
  | nil => rfl
  | cons e rest ih =>
    have first : ofValue e.2.toValue = .ok e.2 := stable e List.mem_cons_self
    have later := ih (fun e' inRest => stable e' (List.mem_cons_of_mem _ inRest))
      (acc.insert e.1 e.2)
    change (do
      let key ← keyOfValue (.text e.1)
      let d ← ofValue e.2.toValue
      ofEntries (toEntries rest) (acc.insert key d)) = _
    rw [first]
    exact later

/-- Members with different names that are their own documents make up an object that is. -/
theorem stable_object (nodup : (ds.map Prod.fst).Nodup) (stable : ∀ e ∈ ds, e.2.Stable) :
    Stable (.object ds) := by
  change (ofEntries (toEntries ds) ∅).map (fun m => Document.object m.entries) = .ok (.object ds)
  rw [ofEntries_toEntries stable, ← OrderedMap.ofList, OrderedMap.ofList_of_nodup nodup]
  rfl

theorem stable_ofRealm (r : Realm) : Stable (ofRealm r) := by
  refine stable_object ?_ ?_
  · change ["id", "name"].Nodup
    decide
  · intro e among
    simp only [List.mem_cons, List.not_mem_nil, or_false] at among
    rcases among with rfl | rfl
    · exact stable_text r.id
    · cases r.name with
      | none => exact stable_null
      | some name => exact stable_text name

theorem toEntries_eq_map (ds : List (String × Document)) :
    toEntries ds = ds.map fun e => (.text e.1, e.2.toValue) := by
  induction ds with
  | nil => rfl
  | cons e rest ih => exact congrArg (_ :: ·) ih

end Document

/-- The values of fields: absence, a truth value, a text, a date-time or a realm. -/
inductive Value.Simple : Value → Prop
  | null : Simple .null
  | bool (b : Bool) : Simple (.bool b)
  | text (s : String) : Simple (.text s)
  | moment (d : Time.DateTime) : Simple (.moment d)
  | realm (r : Realm) : Simple (.realm r)

theorem Value.Simple.ofText? (s : Option String) : (Value.ofText? s).Simple := by
  cases s with
  | none => exact .null
  | some s => exact .text s

/-- A simple value has a document, which is its own. -/
theorem Value.Simple.exists_document {v : Value} (simple : v.Simple) :
    ∃ x, Document.ofValue v = .ok x ∧ x.Stable := by
  cases simple with
  | null => exact ⟨_, rfl, rfl⟩
  | bool b => exact ⟨_, rfl, rfl⟩
  | text s => exact ⟨_, rfl, rfl⟩
  | moment d => exact ⟨_, rfl, rfl⟩
  | realm r => exact ⟨_, rfl, Document.stable_ofRealm r⟩

/-- Named simple values have documents under the same names. -/
theorem Document.exists_ofFields {fields : List (String × Value)}
    (simple : ∀ e ∈ fields, e.2.Simple) :
    ∃ ds, ofFields fields = .ok ds ∧ ds.map Prod.fst = fields.map Prod.fst ∧
      ∀ e ∈ ds, e.2.Stable := by
  induction fields with
  | nil => exact ⟨[], rfl, rfl, nofun⟩
  | cons e rest ih =>
    obtain ⟨x, first, stable⟩ := (simple e List.mem_cons_self).exists_document
    obtain ⟨ds, later, names, stables⟩ := ih fun e' inRest =>
      simple e' (List.mem_cons_of_mem _ inRest)
    refine ⟨(e.1, x) :: ds, ?_, ?_, ?_⟩
    · change (do
        let d ← ofValue e.2
        let ds ← ofFields rest
        .ok ((e.1, d) :: ds)) = _
      rw [first, later]
      rfl
    · rw [List.map_cons, names, List.map_cons]
    · exact List.forall_mem_cons.mpr ⟨stable, stables⟩

/-! ## Reading an event -/

namespace Reader

/-- A mapping whose keys are trimmed texts is read entry by entry. -/
theorem mapping_texts {entries : List (String × Value)}
    (trimmed : ∀ e ∈ entries, Text.trim e.1 = e.1) :
    mapping .ok (.mapping (entries.map fun e => (.text e.1, e.2))) = .ok (.ofList entries) := by
  have later : ∀ acc : OrderedMap String Value,
      mapping.go .ok (entries.map fun e => (.text e.1, e.2)) acc = .ok (acc.insertAll entries) := by
    induction entries with
    | nil => exact fun _ => rfl
    | cons e rest ih =>
      intro acc
      have name : text (.text e.1) = .ok e.1 := by
        rw [text_text, trimmed e List.mem_cons_self]
      simp only [List.map_cons, mapping.go, name, Checked.within, Checked.both]
      exact ih (fun e' inRest => trimmed e' (List.mem_cons_of_mem _ inRest)) (acc.insert e.1 e.2)
  exact later ∅

end Reader

namespace Event

variable {now : Time.DateTime} {name token key : String} {action : LifecycleAction}
  {ds : List (String × Document)}

/-- The payload that the members of an object make up. -/
def payloadOf (ds : List (String × Document)) : OrderedMap String Value :=
  .ofList (ds.map fun e => (e.1, e.2.toValue))

theorem readAction_word (action : LifecycleAction) : readAction (.text action.word) = .ok action := by
  rw [readAction, LifecycleAction.ofWord?_word]

/-- Trimmed texts and an object with trimmed names are read as they are. -/
theorem create_of_trimmed (named : Text.trim name = name) (tokened : Text.trim token = token)
    (keyed : Text.trim key = key) (trimmed : ∀ e ∈ ds, Text.trim e.1 = e.1) :
    create now [("name", .text name), ("action", .text action.word),
        ("discriminator", .text token), ("key", .text key),
        ("payload", (Document.object ds).toValue)] =
      .ok ⟨name, action, token, key, now, payloadOf ds⟩ := by
  have texts : ∀ {s : String}, Text.trim s = s → Reader.text (.text s) = .ok s := by
    intro s same
    rw [Reader.text_text, same]
  have payload : Reader.mapping .ok (Document.object ds).toValue = .ok (payloadOf ds) := by
    have entries : (Document.object ds).toValue =
        .mapping ((ds.map fun e => (e.1, e.2.toValue)).map fun e => (.text e.1, e.2)) := by
      change Value.mapping (Document.toEntries ds) = _
      rw [Document.toEntries_eq_map, List.map_map]
      rfl
    rw [entries]
    refine Reader.mapping_texts fun e among => ?_
    obtain ⟨e', among', rfl⟩ := List.mem_map.mp among
    exact trimmed e' among'
  rw [create, Checked.orInvalid_eq_ok, read,
    Input.required_of_find? (v := .text name) rfl (texts named),
    Input.required_of_find? (v := .text action.word) rfl (readAction_word action),
    Input.required_of_find? (v := .text token) rfl (texts tokened),
    Input.required_of_find? (v := .text key) rfl (texts keyed),
    Input.withDefault_of_absent _ _ rfl, Input.withDefault_of_find? rfl payload]
  rfl

/-- The document of an event around that of its payload. -/
def documentAround (e : Event) (payload : Document) : Document :=
  .object [("name", .text e.name), ("action", .text e.action.word),
    ("discriminator", .text e.discriminator), ("key", .text e.key),
    ("occurred_at", .text e.occurredAt.documentText), ("payload", payload)]

/-- An event is published with the payload that it was made of. -/
theorem document_of_payload (nodup : (ds.map Prod.fst).Nodup) (stable : ∀ e ∈ ds, e.2.Stable) :
    document ⟨name, action, token, key, now, payloadOf ds⟩ =
      .ok (documentAround ⟨name, action, token, key, now, payloadOf ds⟩ (.object ds)) := by
  have nodupPayload : ((ds.map fun e => (e.1, e.2.toValue)).map Prod.fst).Nodup := by
    rw [List.map_map]
    exact nodup
  have payload : payloadValue ⟨name, action, token, key, now, payloadOf ds⟩ =
      (Document.object ds).toValue := by
    change Value.mapping ((payloadOf ds).entries.map _) = .mapping (Document.toEntries ds)
    rw [payloadOf, OrderedMap.ofList_of_nodup nodupPayload, Document.toEntries_eq_map,
      List.map_map]
    rfl
  have itself : Document.ofValue (Document.object ds).toValue = .ok (.object ds) :=
    Document.stable_object nodup stable
  rw [document, payload, itself]
  rfl

end Event

/-! ## Publishing -/

namespace Publisher

variable {e : Event} {doc : Document}

/-- Sends a message over the held connection or a new one; the answer is whether it was sent. -/
def transmit (p : Publisher) (message : String × String) : Bool × Publisher :=
  match p.connect with
  | (none, p) => (false, p)
  | (some n, p) => ((p.broker.send n message).1, { p with broker := (p.broker.send n message).2 })

/-- Connecting keeps the settings. -/
theorem connect_settings (p : Publisher) : p.connect.2.settings = p.settings := by
  unfold connect
  split <;> rfl

/-- Publishing an event that has a document sends its JSON under the event's subject. -/
theorem publish_of_document (given : e.document = .ok doc) (p : Publisher) :
    p.publish e = p.transmit (e.subject p.settings, doc.json) := by
  have settings := connect_settings p
  unfold publish transmit
  rcases connected : p.connect with ⟨_ | n, p'⟩
  · rfl
  · have kept : p'.settings = p.settings := by
      rw [connected] at settings
      exact settings
    simp only [given, kept]

end Publisher

end Principals
