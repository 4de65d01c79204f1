import Principals.Proofs.Publisher.Runs

/-!
# Accounting for events

A publisher answers for every event whether it was sent, and the answer can be relied upon: one
message went over the connection that is held from then on, or none went over any connection. Nothing
but a publish sends a message, so everything that was ever sent are the events that were answered
with yes, in order.

What was sent is kept by connection. Since a publisher only sends over the connection opened last,
the messages of all connections, one connection after the other, are in the order of their sending.

* `Broker.Quiet`: what it is that nothing was sent;
* `sentOver_publish`: what a publish sends;
* `sent_perform`, `sent_history`: what a step sends, and a run;
* `accounts_for_events`: the answers, and all that was sent.
-/

namespace Principals

/-- The message of an event: the subject under the prefix of the settings, and the JSON. An event
that cannot be written as a document has none. -/
def Event.message? (e : Event) (settings : Settings) : Option (String × String) :=
  match e.document with
  | .ok d => some (settings.eventSubjectPrefix ++ "." ++ e.name, d.json)
  | .error _ => none

/-! ## What was sent -/

namespace Broker

variable {b b' b'' : Broker} {n j : Nat} {m : String × String}

/-- What was sent, by connection. -/
def messages (b : Broker) : List (List (String × String)) := b.connections.map (·.messages)

/-- What was sent over a connection; nothing if there is none of that number. -/
def sentOver (b : Broker) (n : Nat) : List (String × String) := b.messages[n]?.getD []

/-- Everything that was sent, one connection after the other. -/
def sent (b : Broker) : List (String × String) := b.messages.flatten

theorem messages_change (b : Broker) (n : Nat) {f : Connection → Connection}
    (keeps : ∀ c, (f c).messages = c.messages) : (b.change n f).messages = b.messages := by
  have same : Connection.messages ∘ f = Connection.messages := funext keeps
  apply List.ext_getElem?
  intro j
  by_cases own : n = j
  · subst own
    simp [messages, change, same]
  · simp [messages, change, own]

theorem messages_opened (b : Broker) (url : String) : (b.opened url).messages = b.messages ++ [[]] :=
  List.map_append

theorem messages_sentTo (b : Broker) (n : Nat) (m : String × String) :
    (b.sentTo n m).messages = b.messages.modify n (· ++ [m]) := by
  apply List.ext_getElem?
  intro j
  by_cases own : n = j
  · subst own
    simp [messages, sentTo, change, Function.comp_def]
  · simp [messages, sentTo, change, own]

/-- Nothing was sent: there may be new connections, over which nothing went either. -/
def Quiet (b b' : Broker) : Prop := ∃ k, b'.messages = b.messages ++ List.replicate k []

namespace Quiet

theorem of_eq (same : b'.messages = b.messages) : Quiet b b' :=
  ⟨0, same.trans (List.append_nil _).symm⟩

theorem opened (b : Broker) (url : String) : Quiet b (b.opened url) := ⟨1, messages_opened b url⟩

theorem sentOver (quiet : Quiet b b') (j : Nat) : b'.sentOver j = b.sentOver j := by
  obtain ⟨k, eq⟩ := quiet
  unfold Broker.sentOver
  rw [eq, List.getElem?_append]
  split
  · rfl
  · next beyond =>
    rw [List.getElem?_eq_none (Nat.not_lt.mp beyond), List.getElem?_replicate]
    split <;> rfl

theorem sent (quiet : Quiet b b') : b'.sent = b.sent := by
  obtain ⟨k, eq⟩ := quiet
  rw [Broker.sent, eq, List.flatten_append, List.flatten_replicate_nil, List.append_nil, Broker.sent]

end Quiet

/-- A message that is sent over a connection follows what was sent over it before. -/
theorem sentOver_sentTo (isConnection : n < b.connections.length) (m : String × String) (j : Nat) :
    (b.sentTo n m).sentOver j = b.sentOver j ++ if j = n then [m] else [] := by
  have isEntry : n < b.messages.length := by rwa [messages, List.length_map]
  unfold sentOver
  rw [messages_sentTo]
  by_cases own : n = j
  · subst own
    simp [isEntry]
  · simp [own, Ne.symm own]

/-- A message that is sent over the last connection follows everything that was sent before. -/
theorem sent_sentTo (last : n + 1 = b.connections.length) (m : String × String) :
    (b.sentTo n m).sent = b.sent ++ [m] := by
  have length : n + 1 = b.messages.length := by rwa [messages, List.length_map]
  rw [sent, sent, messages_sentTo]
  obtain ⟨front, own, split⟩ : ∃ front own, b.messages = front ++ [own] :=
    ⟨_, _, (List.dropLast_concat_getLast (List.ne_nil_of_length_eq_add_one length.symm)).symm⟩
  have at_end : n = front.length := by
    rw [split, List.length_append, List.length_singleton] at length
    exact Nat.succ.inj length
  subst at_end
  simp [split, List.modify_eq_take_cons_drop]

end Broker

namespace Publisher

variable {p : Publisher} {e : Event} {n : Nat}

/-! ## What a call sends -/

/-- Connecting sends nothing. -/
theorem quiet_connect (p : Publisher) : p.broker.Quiet p.connect.2.broker := by
  rcases p.connect_cases with ⟨n, -, connected⟩ | ⟨-, connected | connected⟩ <;> rw [connected]
  · exact .of_eq rfl
  · exact .of_eq rfl
  · exact .opened p.broker p.settings.natsUrl

/-- Disconnecting sends nothing. -/
theorem quiet_disconnect (p : Publisher) : p.broker.Quiet p.disconnect.2.broker := by
  rcases p.disconnect_cases with ⟨-, ended⟩ | ⟨n, -, ended | ended⟩ <;> rw [ended]
  · exact .of_eq rfl
  · exact .of_eq rfl
  · exact .of_eq (Broker.messages_change p.broker n fun _ => rfl)

/-- No incident sends anything. -/
theorem quiet_incident (b : Broker) (i : Broker.Incident) : b.Quiet (b.befall i) := by
  cases i with
  | turn mood => exact .of_eq rfl
  | falter n rejects failsToDrain outlivesDrain =>
    exact .of_eq (Broker.messages_change b n fun _ => rfl)
  | loss n => exact .of_eq (Broker.messages_change b n fun _ => rfl)

/-- A publish that is answered with no sends nothing; one that is answered with yes has sent the
message of the event over the connection held, which was opened last. -/
theorem publish_sends (last : p.HoldsLast) (e : Event) :
    (p.publish e).1 = false ∧ p.broker.Quiet (p.publish e).2.broker ∨
      (p.publish e).1 = true ∧ ∃ n m b, (p.publish e).2.held = some n ∧
        e.message? p.settings = some m ∧ p.broker.Quiet b ∧ n + 1 = b.connections.length ∧
          (p.publish e).2.broker = b.sentTo n m := by
  rcases p.publish_cases e with published | ⟨n, d, given, document, published⟩ <;> rw [published]
  · exact .inl ⟨rfl, p.quiet_connect⟩
  · have held : p.connect.2.held = some n := p.held_connect.trans given
    have message : e.message? p.settings = some (e.subject p.settings, d.json) := by
      rw [Event.message?, document]
      rfl
    exact .inr ⟨rfl, n, _, p.connect.2.broker, held, message, p.quiet_connect,
      last.connect n held, rfl⟩

/-- The answer to a publish says whether one message, that of the event, went over the connection
that is held then, or none over any connection. -/
theorem sentOver_publish (last : p.HoldsLast) (e : Event) :
    ((p.publish e).1 = true ↔ ∃ n m, (p.publish e).2.held = some n ∧
      e.message? p.settings = some m ∧ ∀ j, (p.publish e).2.broker.sentOver j =
        p.broker.sentOver j ++ if j = n then [m] else []) ∧
      ((p.publish e).1 = false ↔
        ∀ j, (p.publish e).2.broker.sentOver j = p.broker.sentOver j) := by
  rcases publish_sends last e with ⟨no, quiet⟩ | ⟨yes, n, m, b, held, message, quiet, isLast, sent⟩
  · have same := quiet.sentOver
    refine ⟨⟨fun yes => ?_, fun appended => ?_⟩, fun _ => same, fun _ => no⟩
    · rw [no] at yes
      cases yes
    · obtain ⟨n, m, -, -, more⟩ := appended
      have there := (same n).symm.trans (more n)
      simp at there
  · have isConnection : n < b.connections.length := by omega
    have more (j : Nat) : (p.publish e).2.broker.sentOver j =
        p.broker.sentOver j ++ if j = n then [m] else [] := by
      rw [sent, Broker.sentOver_sentTo isConnection, quiet.sentOver]
    refine ⟨⟨fun _ => ⟨n, m, held, message, more⟩, fun _ => yes⟩, fun no => ?_, fun same => ?_⟩
    · rw [yes] at no
      cases no
    · have there := (same n).symm.trans (more n)
      simp at there

/-! ## What a run sends -/

/-- The events that were answered with yes. -/
def accepted (log : List (Step × Answer)) : List Event :=
  log.filterMap fun
    | (.publish e, .sent true) => some e
    | _ => none

theorem accepted_append (log more : List (Step × Answer)) :
    accepted (log ++ more) = accepted log ++ accepted more := List.filterMap_append

/-- A step sends the message of the event that it answers with yes, and nothing else. -/
theorem sent_perform (last : p.HoldsLast) (s : Step) : ∃ messages,
    (p.perform s).2.broker.sent = p.broker.sent ++ messages ∧
      messages.map some = (accepted [(s, (p.perform s).1)]).map (·.message? p.settings) := by
  have nothing (quiet : p.broker.Quiet (p.perform s).2.broker)
      (none_accepted : accepted [(s, (p.perform s).1)] = []) : ∃ messages,
      (p.perform s).2.broker.sent = p.broker.sent ++ messages ∧
        messages.map some = (accepted [(s, (p.perform s).1)]).map (·.message? p.settings) :=
    ⟨[], quiet.sent.trans (List.append_nil _).symm, by rw [none_accepted]; rfl⟩
  cases s with
  | connect => exact nothing p.quiet_connect rfl
  | disconnect => exact nothing p.quiet_disconnect rfl
  | incident i => exact nothing (quiet_incident p.broker i) rfl
  | publish e =>
    have answer : (p.perform (.publish e)).1 = .sent (p.publish e).1 := rfl
    rcases publish_sends last e with ⟨no, quiet⟩ | ⟨yes, n, m, b, -, message, quiet, isLast, sent⟩
    · exact nothing quiet (by rw [answer, no]; rfl)
    · refine ⟨[m], ?_, ?_⟩
      · change (p.publish e).2.broker.sent = _
        rw [sent, Broker.sent_sentTo isLast, quiet.sent]
      · rw [answer, yes]
        change [some m] = [e.message? p.settings]
        rw [message]

/-- A run sends the messages of the events that it answers with yes, in order. -/
theorem sent_history (last : p.HoldsLast) (steps : List Step) : ∃ messages,
    (history steps p).2.broker.sent = p.broker.sent ++ messages ∧
      messages.map some = (accepted (history steps p).1).map (·.message? p.settings) := by
  induction steps generalizing p with
  | nil => exact ⟨[], (List.append_nil _).symm, rfl⟩
  | cons s rest ih =>
    obtain ⟨first, sentFirst, areFirst⟩ := sent_perform last s
    obtain ⟨later, sentLater, areLater⟩ := ih (last.perform s)
    rw [settings_perform] at areLater
    refine ⟨first ++ later, ?_, ?_⟩
    · rw [history_cons, sentLater, sentFirst, List.append_assoc]
    · rw [history_cons, List.map_append, areFirst, areLater, ← List.map_append, ← accepted_append,
        List.singleton_append]

/-- No publish of a run raises. -/
theorem not_raised_of_publish (steps : List Step) (p : Publisher) (e : Event) (f : Failure) :
    (Step.publish e, Answer.raised f) ∉ (history steps p).1 := by
  induction steps generalizing p with
  | nil => exact List.not_mem_nil
  | cons s rest ih =>
    rw [history_cons]
    intro among
    rcases List.mem_cons.mp among with first | later
    · cases s <;> cases first
    · exact ih _ later

/-- After any run of a publisher, with whatever befell the broker in between: no publish has raised,
and none will; an event is answered with yes exactly if one message, its JSON under its subject, went
over the connection that is held then, and with no exactly if nothing went over any connection; and
everything that was sent in the run are the messages of the events that were answered with yes, in
order. -/
theorem accounts_for_events (settings : Settings) (broker : Broker) (steps : List Step) :
    (∀ e f, (Step.publish e, Answer.raised f) ∉ (history steps ⟨settings, none, broker⟩).1) ∧
    (∀ e sent q, (reached settings broker steps).publish e = (sent, q) →
      (sent = true ↔ ∃ n m, q.held = some n ∧ e.message? settings = some m ∧
        ∀ j, q.broker.sentOver j =
          (reached settings broker steps).broker.sentOver j ++ if j = n then [m] else []) ∧
      (sent = false ↔
        ∀ j, q.broker.sentOver j = (reached settings broker steps).broker.sentOver j)) ∧
    ∃ messages, (reached settings broker steps).broker.sent = broker.sent ++ messages ∧
      messages.map some =
        (accepted (history steps ⟨settings, none, broker⟩).1).map (·.message? settings) := by
  refine ⟨not_raised_of_publish steps _, fun e sent q published => ?_,
    sent_history (.start settings broker) steps⟩
  have answers := sentOver_publish (HoldsLast.reached settings broker steps) e
  rwa [settings_reached, published] at answers

end Publisher

end Principals
