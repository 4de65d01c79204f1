import Principals.Proofs.Publisher.Runs

/-!
# The connections of a publisher

A publisher replaces the connection that it holds when it connects, and lets it go when it
disconnects or is refused. It only does so when the connection is down or was drained: one that fails
to drain is kept. As long as drains end their connections, those that were opened for a publisher and
that it does not hold are thus down, and it asks for one only while it holds none that is alive. A
connection that stays up when it is drained would leak.

* `isAlive_opened`, `isAlive_change`: which connections are alive;
* `EndsDrained`, `Incident.IsOrderly`: that drains end their connections;
* `LeaksNone.perform`: letting go of what is down, step by step;
* `calls_perform`: when the broker is asked for a connection;
* `leaks_no_connection`: the connections after any run.
-/

namespace Principals

namespace Broker

variable {b : Broker} {n j : Nat} {f : Connection → Connection}

/-! ## Which connections are alive -/

theorem connection?_change_self (b : Broker) (n : Nat) (f : Connection → Connection) :
    (b.change n f).connection? n = (b.connection? n).map f := by
  simp [connection?, change]

theorem connection?_change_of_ne (b : Broker) (ne : n ≠ j) (f : Connection → Connection) :
    (b.change n f).connection? j = b.connection? j := by
  simp [connection?, change, ne]

/-- A change under which no connection comes up leaves those down that are. -/
theorem isAlive_change (wanes : ∀ c, (f c).alive = true → c.alive = true)
    (alive : (b.change n f).isAlive j = true) : b.isAlive j = true := by
  unfold isAlive at alive ⊢
  by_cases own : n = j
  · subst own
    rw [connection?_change_self, Option.any_map] at alive
    cases found : b.connection? n with
    | none =>
      rw [found] at alive
      cases alive
    | some c =>
      rw [found] at alive
      exact wanes c alive
  · rwa [connection?_change_of_ne b own] at alive

theorem isAlive_befall (i : Incident) (alive : (b.befall i).isAlive j = true) :
    b.isAlive j = true := by
  cases i with
  | turn mood => exact alive
  | falter n rejects failsToDrain outlivesDrain =>
    refine isAlive_change (fun c up => ?_) alive
    exact up
  | loss n =>
    refine isAlive_change (fun c up => ?_) alive
    cases up

/-- No other connection comes up by a drain. -/
theorem isAlive_drained (alive : (b.drained n).isAlive j = true) : b.isAlive j = true := by
  refine isAlive_change (fun c up => ?_) alive
  exact ((Bool.and_eq_true ..).mp up).1

theorem connection?_opened_of_ne (ne : j ≠ b.connections.length) (url : String) :
    (b.opened url).connection? j = b.connection? j := by
  change (b.connections ++ [b.next])[j]? = b.connections[j]?
  rcases Nat.lt_or_gt_of_ne ne with within | beyond
  · exact List.getElem?_append_left within
  · rw [List.getElem?_append_right (Nat.le_of_lt beyond), List.getElem?_eq_none (Nat.le_of_lt beyond)]
    exact List.getElem?_eq_none (Nat.sub_pos_of_lt beyond)

/-- Only the connection that is given out comes up. -/
theorem isAlive_opened (ne : j ≠ b.connections.length) (url : String) :
    (b.opened url).isAlive j = b.isAlive j := by
  rw [isAlive, isAlive, connection?_opened_of_ne ne]

/-! ## Drains that end their connections -/

/-- Whether no connection from a number on would stay up if it were drained. -/
def EndsDrained (since : Nat) (b : Broker) : Prop :=
  ∀ n c, since ≤ n → b.connection? n = some c → c.outlivesDrain = false

/-- Whether an incident leaves it at that: no connection begins to stay up when it is drained. -/
def Incident.IsOrderly : Incident → Prop
  | .falter _ _ _ outlivesDrain => outlivesDrain = false
  | .turn _ | .loss _ => True

namespace EndsDrained

variable {since : Nat}

theorem start (b : Broker) : b.EndsDrained b.connections.length := by
  intro n c beyond found
  cases (List.getElem?_eq_none beyond).symm.trans found

theorem change (ends : b.EndsDrained since)
    (orderly : ∀ c, c.outlivesDrain = false → (f c).outlivesDrain = false) :
    (b.change n f).EndsDrained since := by
  intro j c own found
  by_cases changed : n = j
  · subst changed
    rw [connection?_change_self] at found
    obtain ⟨c', before, rfl⟩ := Option.map_eq_some_iff.mp found
    exact orderly c' (ends n c' own before)
  · rw [connection?_change_of_ne b changed] at found
    exact ends j c own found

theorem opened (ends : b.EndsDrained since) (url : String) : (b.opened url).EndsDrained since := by
  intro j c own found
  by_cases new : j = b.connections.length
  · subst new
    cases List.getElem?_concat_length.symm.trans found
    rfl
  · rw [connection?_opened_of_ne new] at found
    exact ends j c own found

theorem befall (ends : b.EndsDrained since) {i : Incident} (orderly : i.IsOrderly) :
    (b.befall i).EndsDrained since := by
  cases i with
  | turn mood => exact ends
  | falter n rejects failsToDrain outlivesDrain => exact ends.change fun _ _ => orderly
  | loss n => exact ends.change fun _ same => same

/-- A connection that was drained is down. -/
theorem isAlive_drained_self (ends : b.EndsDrained since) (own : since ≤ n) :
    (b.drained n).isAlive n = false := by
  rw [isAlive, drained, connection?_change_self, Option.any_map]
  cases found : b.connection? n with
  | none => rfl
  | some c =>
    change (c.alive && c.outlivesDrain) = false
    rw [ends n c own found, Bool.and_false]

end EndsDrained

end Broker

namespace Publisher

variable {p : Publisher} {since : Nat}

/-! ## What is let go -/

/-- Whether all connections from a number on are down, but for the one held, and none of them would
stay up if it were drained. -/
structure LeaksNone (since : Nat) (p : Publisher) : Prop where
  down : ∀ n, since ≤ n → p.held ≠ some n → p.broker.isAlive n = false
  ends : p.broker.EndsDrained since

namespace LeaksNone

/-- Where the connection held is not alive either, none is. -/
theorem not_isAlive (none_leaks : p.LeaksNone since) (idle : p.live? = none) {n : Nat}
    (own : since ≤ n) : p.broker.isAlive n = false := by
  by_cases held : p.held = some n
  · exact live?_eq_none_iff.mp idle n held
  · exact none_leaks.down n own held

/-- Where connections only go down, none leaks. -/
theorem of_wanes (none_leaks : p.LeaksNone since) {b : Broker}
    (wanes : ∀ n, b.isAlive n = true → p.broker.isAlive n = true) (ends : b.EndsDrained since) :
    LeaksNone since { p with broker := b } := by
  refine ⟨fun n own released => ?_, ends⟩
  have down := none_leaks.down n own released
  rw [← Bool.not_eq_true] at down ⊢
  exact fun alive => down (wanes n alive)

theorem connect (none_leaks : p.LeaksNone since) : p.connect.2.LeaksNone since := by
  rcases p.connect_cases with ⟨n, -, connected⟩ | ⟨idle, connected | connected⟩ <;> rw [connected]
  · exact none_leaks
  · exact ⟨fun n own _ => none_leaks.not_isAlive idle own, none_leaks.ends⟩
  · refine ⟨fun n own released => ?_, none_leaks.ends.opened _⟩
    have ne : n ≠ p.broker.connections.length := fun eq => released (congrArg some eq.symm)
    exact (Broker.isAlive_opened ne _).trans (none_leaks.not_isAlive idle own)

theorem disconnect (none_leaks : p.LeaksNone since) : p.disconnect.2.LeaksNone since := by
  rcases p.disconnect_cases with ⟨idle, ended⟩ | ⟨n, live, ended | ended⟩ <;> rw [ended]
  · exact ⟨fun n own _ => none_leaks.not_isAlive idle own, none_leaks.ends⟩
  · exact none_leaks
  · have ends : (p.broker.drained n).EndsDrained since := none_leaks.ends.change fun _ same => same
    -- the connection that was drained is down by now, and no other was held
    refine ⟨fun j own _ => ?_, ends⟩
    by_cases drained : j = n
    · subst drained
      exact none_leaks.ends.isAlive_drained_self own
    · have held := (live?_eq_some_iff.mp live).1
      have released : p.held ≠ some j := by
        rw [held]
        exact fun eq => drained (Option.some.inj eq).symm
      exact (none_leaks.of_wanes (fun _ => Broker.isAlive_drained) ends).down j own released

theorem publish (none_leaks : p.LeaksNone since) (e : Event) : (p.publish e).2.LeaksNone since := by
  rcases p.publish_cases e with published | ⟨n, d, -, -, published⟩ <;> rw [published]
  · exact none_leaks.connect
  · exact none_leaks.connect.of_wanes (fun _ => Broker.isAlive_change fun _ alive => alive)
      (none_leaks.connect.ends.change fun _ same => same)

/-- A step lets go of connections only that are down. -/
theorem perform (none_leaks : p.LeaksNone since) {s : Step}
    (orderly : ∀ i, s = .incident i → i.IsOrderly) : (p.perform s).2.LeaksNone since := by
  cases s with
  | connect => exact none_leaks.connect
  | disconnect => exact none_leaks.disconnect
  | publish e => exact none_leaks.publish e
  | incident i =>
    exact none_leaks.of_wanes (fun _ => Broker.isAlive_befall i)
      (none_leaks.ends.befall (orderly i rfl))

/-- A publisher that holds nothing at first leaks none of the connections opened from then on. -/
theorem reached (settings : Settings) (broker : Broker) {steps : List Step}
    (orderly : ∀ i, .incident i ∈ steps → i.IsOrderly) :
    (reached settings broker steps).LeaksNone broker.connections.length := by
  refine history_keeps (fun _ s among none_leaks => none_leaks.perform fun i is => ?_)
    ⟨fun n beyond _ => ?_, .start broker⟩
  · subst is
    exact orderly i among
  · rw [← Bool.not_eq_true]
    exact fun alive => Nat.not_lt.mpr beyond (Broker.lt_length_of_isAlive alive)

end LeaksNone

/-! ## When a connection is asked for -/

theorem calls_connect (p : Publisher) :
    p.connect.2.broker.calls = p.broker.calls ∨ p.live? = none := by
  rcases p.connect_cases with ⟨n, -, connected⟩ | ⟨idle, -⟩
  · exact .inl (by rw [connected])
  · exact .inr idle

/-- A step asks for a connection only while none that is alive is held. -/
theorem calls_perform (p : Publisher) (s : Step) :
    (p.perform s).2.broker.calls = p.broker.calls ∨ p.live? = none := by
  cases s with
  | connect => exact p.calls_connect
  | disconnect =>
    left
    change p.disconnect.2.broker.calls = _
    rcases p.disconnect_cases with ⟨-, ended⟩ | ⟨n, -, ended | ended⟩ <;> rw [ended]
    rfl
  | publish e =>
    change (p.publish e).2.broker.calls = _ ∨ _
    rcases p.publish_cases e with published | ⟨n, d, -, -, published⟩ <;> rw [published]
    · exact p.calls_connect
    · exact p.calls_connect
  | incident i =>
    left
    cases i <;> rfl

/-- After any run of a publisher, with whatever befell the broker in between: as long as drains that
succeed end their connections, of those that were opened for it, which are those numbered from that
of the start on, every one that it does not hold is down; a step asks the broker for a connection only
if the publisher holds none that is alive; and connecting gives a connection exactly if the publisher
holds it from then on. -/
theorem leaks_no_connection (settings : Settings) (broker : Broker) (steps : List Step) :
    ((∀ i, .incident i ∈ steps → i.IsOrderly) →
      ∀ n, broker.connections.length ≤ n → (reached settings broker steps).held ≠ some n →
        (reached settings broker steps).broker.isAlive n = false) ∧
    (∀ s, ((reached settings broker steps).perform s).2.broker.calls ≠
        (reached settings broker steps).broker.calls →
      ∀ n, (reached settings broker steps).held = some n →
        (reached settings broker steps).broker.isAlive n = false) ∧
    ∀ n, (reached settings broker steps).connect.1 = some n ↔
      (reached settings broker steps).connect.2.held = some n := by
  refine ⟨fun drains_end => ?_, fun s asked => ?_, fun n => ?_⟩
  · exact (LeaksNone.reached settings broker drains_end).down
  · exact live?_eq_none_iff.mp ((calls_perform _ s).resolve_left asked)
  · rw [held_connect]

/-- A connection is drained, another one is lost, and a third one fails to drain. -/
def turnover : List Step :=
  [.connect, .disconnect, .connect, .incident (.loss 1), .connect,
    .incident (.falter 2 false true false), .disconnect]

/-- Of the three connections only the last is still up, and it is held. -/
theorem leaks_none_of_turnover : ∃ settings, Settings.load {} = .ok settings ∧
    (∀ i, .incident i ∈ turnover → i.IsOrderly) ∧
    (reached settings {} turnover).held = some 2 ∧
    (reached settings {} turnover).broker.isAlive 0 = false ∧
    (reached settings {} turnover).broker.isAlive 1 = false ∧
    (reached settings {} turnover).broker.isAlive 2 = true := by
  obtain ⟨settings, loaded⟩ : ∃ settings, Settings.load {} = .ok settings :=
    ⟨⟨"development", "INFO", "nats://localhost:4222", "identity", false, true⟩, by decide +kernel⟩
  have orderly : ∀ i, .incident i ∈ turnover → i.IsOrderly := by
    intro i among
    simp only [turnover, List.mem_cons, reduceCtorEq, Step.incident.injEq, false_or, or_false,
      List.not_mem_nil] at among
    rcases among with rfl | rfl
    · trivial
    · rfl
  have down := (leaks_no_connection settings {} turnover).1 orderly
  exact ⟨settings, loaded, orderly, rfl, down 0 (Nat.zero_le 0) nofun,
    down 1 (Nat.zero_le 1) nofun, rfl⟩

/-- A connection that stays up when it is drained is let go and leaks. -/
example (settings : Settings) :
    (reached settings {} [.connect, .incident (.falter 0 false false true),
      .disconnect]).held = none ∧
    (reached settings {} [.connect, .incident (.falter 0 false false true),
      .disconnect]).broker.isAlive 0 = true := ⟨rfl, rfl⟩

end Publisher

end Principals
