import Principals.Event

/-!
# Publishing events

A `Publisher` holds at most one connection to a message broker and opens a new one when it holds
none that is alive. Publishing never fails: it answers whether the broker took the message.

The broker is a collaborator that may refuse a connection, lose it, reject a message or fail to
drain. A drain that succeeds is meant to end the connection; whether it does is up to the broker too,
and what relies on it says so. `Broker` keeps every connection it ever gave out, with what was sent
over it.
-/

namespace Principals

/-- A connection to the broker. -/
structure Connection where
  alive : Bool
  rejects : Bool
  failsToDrain : Bool
  /-- Whether it stays up when it is drained. -/
  outlivesDrain : Bool
  /-- What was sent, as subject and payload. -/
  messages : List (String × String)
  drains : Nat
deriving DecidableEq, Repr

/-- How the broker behaves towards connections opened from now on. -/
structure Broker.Mood where
  refuses : Bool := false
  rejects : Bool := false
  failsToDrain : Bool := false
deriving DecidableEq, Repr

/-- The message broker. -/
structure Broker where
  mood : Broker.Mood := {}
  /-- The addresses under which a connection was asked for. -/
  calls : List String := []
  connections : List Connection := []
deriving DecidableEq, Repr

namespace Broker

/-- A connection by its number. -/
def connection? (b : Broker) (n : Nat) : Option Connection := b.connections[n]?

/-- Whether a numbered connection is alive. -/
def isAlive (b : Broker) (n : Nat) : Bool := (b.connection? n).any (·.alive)

/-- The broker with a change to one connection. -/
def change (b : Broker) (n : Nat) (f : Connection → Connection) : Broker :=
  { b with connections := b.connections.modify n f }

/-- A connection goes down. -/
def lose (b : Broker) (n : Nat) : Broker := b.change n fun c => { c with alive := false }

/-- Asks for a connection. -/
def connect (b : Broker) (url : String) : Option Nat × Broker :=
  let b := { b with calls := b.calls ++ [url] }
  if b.mood.refuses then (none, b)
  else
    let c : Connection := ⟨true, b.mood.rejects, b.mood.failsToDrain, false, [], 0⟩
    (some b.connections.length, { b with connections := b.connections ++ [c] })

/-- Sends a message over a connection, unless it rejects. -/
def send (b : Broker) (n : Nat) (message : String × String) : Bool × Broker :=
  if (b.connection? n).any (·.rejects) then (false, b)
  else (true, b.change n fun c => { c with messages := c.messages ++ [message] })

/-- Drains a connection, which ends it unless it outlives that. -/
def drain (b : Broker) (n : Nat) : Except Failure Unit × Broker :=
  if (b.connection? n).any (·.failsToDrain) then (.error .collaborator, b)
  else (.ok (), b.change n fun c =>
    { c with alive := c.alive && c.outlivesDrain, drains := c.drains + 1 })

end Broker

/-- A publisher and the broker it talks to. -/
structure Publisher where
  settings : Settings
  /-- The connection held. -/
  held : Option Nat := none
  broker : Broker := {}
deriving DecidableEq, Repr

namespace Publisher

/-- The held connection, if it is alive. -/
def live? (p : Publisher) : Option Nat := p.held.filter p.broker.isAlive

/-- The connection to use: the one held if it is alive, or a new one. -/
def connect (p : Publisher) : Option Nat × Publisher :=
  match p.live? with
  | some n => (some n, p)
  | none =>
    let (n, broker) := p.broker.connect p.settings.natsUrl
    (n, { p with held := n, broker })

/-- Drains the held connection if it is alive and lets it go; a failed drain keeps it. -/
def disconnect (p : Publisher) : Except Failure Unit × Publisher :=
  match p.live? with
  | none => (.ok (), { p with held := none })
  | some n =>
    match p.broker.drain n with
    | (.ok (), broker) => (.ok (), { p with held := none, broker })
    | (.error e, broker) => (.error e, { p with broker })

/-- Publishes an event; the answer is whether it was sent. -/
def publish (p : Publisher) (e : Event) : Bool × Publisher :=
  match p.connect with
  | (none, p) => (false, p)
  | (some n, p) =>
    match e.document with
    | .error _ => (false, p)
    | .ok d =>
      let (sent, broker) := p.broker.send n (e.subject p.settings, d.json)
      (sent, { p with broker })

end Publisher

end Principals
