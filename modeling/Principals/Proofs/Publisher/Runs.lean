import Principals.Proofs.Event

/-!
# Runs of a publisher

A run is a sequence of calls to a publisher. Between two calls anything may befall the broker: it
changes its mood, a connection begins or ceases to fail or to stay up when it is drained, a
connection goes down. A connection that is down never comes up again.

A call goes in one of a few ways, which depend on whether the held connection is alive and on how the
broker behaves. They are told apart once; what a run keeps is read off them.

* `connect_cases`, `disconnect_cases`, `publish_cases`: the ways in which a call goes;
* `history_keeps`: what every step keeps, a run keeps;
* `HoldsLast`: a publisher only ever holds the connection that was opened last.
-/

namespace Principals

/-! ## The broker between calls -/

namespace Broker

/-- What may befall the broker between two calls. -/
inductive Incident
  /-- Connections are refused from now on, or behave otherwise. -/
  | turn (mood : Mood)
  /-- A connection begins or ceases to reject messages, and to fail or to stay up when it is
  drained. -/
  | falter (n : Nat) (rejects failsToDrain outlivesDrain : Bool)
  /-- A connection goes down. -/
  | loss (n : Nat)
deriving DecidableEq, Repr

/-- The broker after an incident. -/
def befall (b : Broker) : Incident → Broker
  | .turn mood => { b with mood }
  | .falter n rejects failsToDrain outlivesDrain =>
    b.change n fun c => { c with rejects, failsToDrain, outlivesDrain }
  | .loss n => b.lose n

/-- The broker after it was asked for a connection. -/
def asked (b : Broker) (url : String) : Broker := { b with calls := b.calls ++ [url] }

/-- The connection that the broker gives out next. -/
def next (b : Broker) : Connection := ⟨true, b.mood.rejects, b.mood.failsToDrain, false, [], 0⟩

/-- The broker after it was asked for a connection and gave one out. -/
def opened (b : Broker) (url : String) : Broker :=
  { b.asked url with connections := b.connections ++ [b.next] }

/-- The broker after a message was sent over a connection. -/
def sentTo (b : Broker) (n : Nat) (message : String × String) : Broker :=
  b.change n fun c => { c with messages := c.messages ++ [message] }

/-- The broker after a connection was drained. -/
def drained (b : Broker) (n : Nat) : Broker :=
  b.change n fun c => { c with alive := c.alive && c.outlivesDrain, drains := c.drains + 1 }

variable {b : Broker} {n : Nat}

theorem connect_cases (b : Broker) (url : String) :
    b.connect url = (none, b.asked url) ∨
      b.connect url = (some b.connections.length, b.opened url) := by
  unfold connect
  dsimp only
  split
  · exact .inl rfl
  · exact .inr rfl

theorem send_cases (b : Broker) (n : Nat) (message : String × String) :
    b.send n message = (false, b) ∨ b.send n message = (true, b.sentTo n message) := by
  unfold send
  split
  · exact .inl rfl
  · exact .inr rfl

theorem drain_cases (b : Broker) (n : Nat) :
    b.drain n = (.error .collaborator, b) ∨ b.drain n = (.ok (), b.drained n) := by
  unfold drain
  split
  · exact .inl rfl
  · exact .inr rfl

theorem lt_length_of_isAlive (alive : b.isAlive n = true) : n < b.connections.length := by
  unfold isAlive connection? at alive
  cases found : b.connections[n]? with
  | none =>
    rw [found] at alive
    cases alive
  | some c => exact (List.getElem?_eq_some_iff.mp found).1

theorem length_change (b : Broker) (n : Nat) (f : Connection → Connection) :
    (b.change n f).connections.length = b.connections.length := List.length_modify ..

theorem length_opened (b : Broker) (url : String) :
    (b.opened url).connections.length = b.connections.length + 1 := List.length_append

theorem length_befall (b : Broker) (i : Incident) :
    (b.befall i).connections.length = b.connections.length := by
  cases i with
  | turn mood => rfl
  | falter n rejects failsToDrain outlivesDrain => exact length_change ..
  | loss n => exact length_change ..

end Broker

namespace Publisher

variable {p : Publisher} {n : Nat} {e : Event}

/-! ## The ways in which a call goes -/

theorem live?_eq_some_iff : p.live? = some n ↔ p.held = some n ∧ p.broker.isAlive n = true :=
  Option.filter_eq_some_iff

theorem live?_eq_none_iff : p.live? = none ↔ ∀ n, p.held = some n → p.broker.isAlive n = false := by
  simp [live?, Option.filter_eq_none_iff]

/-- A publisher connects over the live connection that it holds, or holds whatever the broker gives
it: a new connection or none. -/
theorem connect_cases (p : Publisher) :
    (∃ n, p.live? = some n ∧ p.connect = (some n, p)) ∨
      p.live? = none ∧
        (p.connect = (none, { p with held := none, broker := p.broker.asked p.settings.natsUrl }) ∨
          p.connect = (some p.broker.connections.length,
            { p with
              held := some p.broker.connections.length
              broker := p.broker.opened p.settings.natsUrl })) := by
  unfold connect
  cases live : p.live? with
  | some n => exact .inl ⟨n, rfl, rfl⟩
  | none =>
    refine .inr ⟨rfl, ?_⟩
    rcases p.broker.connect_cases p.settings.natsUrl with opens | opens <;> dsimp only <;> rw [opens]
    · exact .inl rfl
    · exact .inr rfl

/-- What a publisher is given when it connects is what it holds from then on. -/
theorem held_connect (p : Publisher) : p.connect.2.held = p.connect.1 := by
  rcases p.connect_cases with ⟨n, live, connected⟩ | ⟨-, connected | connected⟩
  · rw [connected]
    exact (live?_eq_some_iff.mp live).1
  · rw [connected]
  · rw [connected]

/-- A live connection is drained and let go, or fails to drain and stays. -/
theorem disconnect_cases (p : Publisher) :
    p.live? = none ∧ p.disconnect = (.ok (), { p with held := none }) ∨
      ∃ n, p.live? = some n ∧
        (p.disconnect = (.error .collaborator, p) ∨
          p.disconnect = (.ok (), { p with held := none, broker := p.broker.drained n })) := by
  unfold disconnect
  cases live : p.live? with
  | none => exact .inl ⟨rfl, rfl⟩
  | some n =>
    refine .inr ⟨n, rfl, ?_⟩
    rcases p.broker.drain_cases n with drain | drain <;> dsimp only <;> rw [drain]
    · exact .inl rfl
    · exact .inr rfl

/-- An event is sent over the connection that the publisher then holds, or nothing is done but to
connect. -/
theorem publish_cases (p : Publisher) (e : Event) :
    p.publish e = (false, p.connect.2) ∨
      ∃ n d, p.connect.1 = some n ∧ e.document = .ok d ∧
        p.publish e = (true, { p.connect.2 with
          broker := p.connect.2.broker.sentTo n (e.subject p.settings, d.json) }) := by
  have settings := p.connect_settings
  unfold publish
  rcases connected : p.connect with ⟨_ | n, q⟩
  · exact .inl rfl
  · rw [connected] at settings
    cases document : e.document with
    | error _ => exact .inl rfl
    | ok d =>
      rcases q.broker.send_cases n (e.subject q.settings, d.json) with send | send <;>
        dsimp only <;> rw [send]
      · exact .inl rfl
      · rw [settings]
        exact .inr ⟨n, d, rfl, rfl, rfl⟩

/-! ## Steps and runs -/

/-- A step of a run: a call, or an incident between two calls. -/
inductive Step
  | connect
  | disconnect
  | publish (e : Event)
  | incident (i : Broker.Incident)

/-- What a step is answered with. -/
inductive Answer
  /-- The connection given, if one is. -/
  | connection (n : Option Nat)
  /-- Whether the event was sent. -/
  | sent (b : Bool)
  | done
  | raised (e : Failure)

/-- Performs a step. -/
def perform (p : Publisher) : Step → Answer × Publisher
  | .connect => (.connection p.connect.1, p.connect.2)
  | .disconnect =>
    (match p.disconnect.1 with
      | .ok () => .done
      | .error e => .raised e, p.disconnect.2)
  | .publish e => (.sent (p.publish e).1, (p.publish e).2)
  | .incident i => (.done, { p with broker := p.broker.befall i })

/-- Performs steps one after the other, also after one that failed. -/
def history : List Step → Publisher → List (Step × Answer) × Publisher
  | [], p => ([], p)
  | s :: rest, p =>
    let (answer, q) := p.perform s
    let (later, t) := history rest q
    ((s, answer) :: later, t)

/-- The publisher after steps in which it held nothing at first. -/
def reached (settings : Settings) (broker : Broker) (steps : List Step) : Publisher :=
  (history steps ⟨settings, none, broker⟩).2

theorem history_cons (s : Step) (rest : List Step) (p : Publisher) :
    history (s :: rest) p =
      ((s, (p.perform s).1) :: (history rest (p.perform s).2).1,
        (history rest (p.perform s).2).2) := rfl

/-- What every step of a run keeps, the run keeps. -/
theorem history_keeps {P : Publisher → Prop} {steps : List Step}
    (keeps : ∀ p, ∀ s ∈ steps, P p → P (p.perform s).2) (before : P p) : P (history steps p).2 := by
  induction steps generalizing p with
  | nil => exact before
  | cons s rest ih =>
    exact ih (fun q t among => keeps q t (List.mem_cons_of_mem s among))
      (keeps p s List.mem_cons_self before)

theorem settings_perform (p : Publisher) (s : Step) : (p.perform s).2.settings = p.settings := by
  cases s with
  | connect => exact p.connect_settings
  | disconnect =>
    change p.disconnect.2.settings = _
    rcases p.disconnect_cases with ⟨-, ended⟩ | ⟨n, -, ended | ended⟩ <;> rw [ended]
  | publish e =>
    change (p.publish e).2.settings = _
    rcases p.publish_cases e with published | ⟨n, d, -, -, published⟩ <;> rw [published]
    · exact p.connect_settings
    · exact p.connect_settings
  | incident i => rfl

theorem settings_reached (settings : Settings) (broker : Broker) (steps : List Step) :
    (reached settings broker steps).settings = settings := by
  have keeps : ∀ q : Publisher, ∀ s ∈ steps, q.settings = settings →
      (q.perform s).2.settings = settings :=
    fun q s _ same => (q.settings_perform s).trans same
  exact history_keeps keeps rfl

/-! ## The connection held -/

/-- Whether the connection held, if there is one, is the one that was opened last. -/
def HoldsLast (p : Publisher) : Prop := ∀ n, p.held = some n → n + 1 = p.broker.connections.length

namespace HoldsLast

theorem start (settings : Settings) (broker : Broker) : HoldsLast ⟨settings, none, broker⟩ := nofun

theorem connect (last : p.HoldsLast) : p.connect.2.HoldsLast := by
  rcases p.connect_cases with ⟨n, -, connected⟩ | ⟨-, connected | connected⟩ <;> rw [connected]
  · exact last
  · exact nofun
  · intro n held
    cases held
    exact (Broker.length_opened ..).symm

theorem perform (last : p.HoldsLast) (s : Step) : (p.perform s).2.HoldsLast := by
  cases s with
  | connect => exact last.connect
  | disconnect =>
    change p.disconnect.2.HoldsLast
    rcases p.disconnect_cases with ⟨-, ended⟩ | ⟨n, -, ended | ended⟩ <;> rw [ended]
    · exact nofun
    · exact last
    · exact nofun
  | publish e =>
    change (p.publish e).2.HoldsLast
    rcases p.publish_cases e with published | ⟨n, d, -, -, published⟩ <;> rw [published]
    · exact last.connect
    · intro m held
      rw [Broker.sentTo, Broker.length_change]
      exact last.connect m held
  | incident i =>
    intro m held
    exact (last m held).trans (Broker.length_befall p.broker i).symm

/-- A publisher that holds nothing at first only ever holds the connection that was opened last. -/
theorem reached (settings : Settings) (broker : Broker) (steps : List Step) :
    (reached settings broker steps).HoldsLast :=
  history_keeps (fun _ s _ last => last.perform s) (start settings broker)

end HoldsLast

end Publisher

end Principals
