import Principals.Settings.Basic

/-!
# Lifecycle events

An event describes what happened to a principal: its name, the action, the principal's
discriminator and key, when it occurred and a payload. `Event.create` reads one from named values;
`Event.subject` is the subject under which it is published, `Event.document` what is published.
-/

namespace Principals

/-- What can happen to a principal. -/
inductive LifecycleAction
  | created
  | updated
  | deleted
deriving DecidableEq, Repr

namespace LifecycleAction

/-- The word for an action. -/
def word : LifecycleAction → String
  | created => "created"
  | updated => "updated"
  | deleted => "deleted"

/-- All actions. -/
def all : List LifecycleAction := [created, updated, deleted]

/-- The action for a word. -/
def ofWord? (word : String) : Option LifecycleAction := all.find? (·.word == word)

theorem ofWord?_word (a : LifecycleAction) : ofWord? a.word = some a := by
  cases a <;> decide

end LifecycleAction

/-- A lifecycle event. -/
structure Event where
  name : String
  action : LifecycleAction
  discriminator : String
  key : String
  occurredAt : Time.DateTime
  payload : OrderedMap String Value
deriving DecidableEq, Repr

namespace Event

/-- The action that a value names. -/
def readAction : Value → Checked LifecycleAction
  | .text s => match LifecycleAction.ofWord? s with
    | some a => .ok a
    | none => Checked.issue .notAMember
  | _ => Checked.issue .notAMember

/-- Reads the fields of an event, which occurs `now` unless told otherwise. -/
def read (now : Time.DateTime) (input : Input) : Checked Event :=
  (Checked.both (input.required "name" Reader.text)
    (Checked.both (input.required "action" readAction)
      (Checked.both (input.required "discriminator" Reader.text)
        (Checked.both (input.required "key" Reader.text)
          (Checked.both (input.withDefault "occurred_at" now Reader.moment)
            (input.withDefault "payload" ∅ (Reader.mapping .ok))))))).map
              fun (name, action, discriminator, key, occurredAt, payload) =>
                ⟨name, action, discriminator, key, occurredAt, payload⟩

/-- The event that named values describe. -/
def create (now : Time.DateTime) (fields : List (String × Value)) : Except Failure Event :=
  Checked.orInvalid "IdentityEvent" (read now (.ofList fields))

/-- The payload as a value. -/
def payloadValue (e : Event) : Value :=
  .mapping (e.payload.entries.map fun (k, v) => (.text k, v))

/-- The fields of an event by name, in the order in which they are declared. -/
def fields (e : Event) : List (String × Value) :=
  [("name", .text e.name), ("action", .text e.action.word),
    ("discriminator", .text e.discriminator), ("key", .text e.key),
    ("occurred_at", .moment e.occurredAt), ("payload", e.payloadValue)]

/-- The document of an event. -/
def document (e : Event) : Except Failure Document := do
  let payload ← Document.ofValue e.payloadValue
  .ok (.object [("name", .text e.name), ("action", .text e.action.word),
    ("discriminator", .text e.discriminator), ("key", .text e.key),
    ("occurred_at", .text e.occurredAt.documentText), ("payload", payload)])

/-- The subject of an event: the settings' prefix, a point and the event's name. -/
def subject (settings : Settings) (e : Event) : String :=
  settings.eventSubjectPrefix ++ "." ++ e.name

end Event

end Principals
