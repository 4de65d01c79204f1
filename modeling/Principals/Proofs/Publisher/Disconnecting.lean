import Principals.Proofs.Publisher.Runs

/-!
# Letting go of a connection

A publisher that disconnects drains the connection that it holds, if that is alive, and lets it go. A
drain may fail; then the call fails, and the publisher still holds the connection, which is still
alive. What comes of it is seen at the next call that needs a connection: a publisher that holds none
asks for a new one, whatever befell the broker in the meantime, and one whose connection is alive
goes on with that.

* `disconnect_of_idle`, `disconnect_of_live`: what a disconnect gives and leaves;
* `opens_of_idle`, `goes_on_of_live`: the connection of the next call that needs one;
* `lets_go_iff`: both together, after any run.
-/

namespace Principals

/-- Whether a numbered connection fails when it is drained. -/
def Broker.failsToDrain (b : Broker) (n : Nat) : Bool := (b.connection? n).any (·.failsToDrain)

namespace Publisher

variable {p : Publisher} {n : Nat} {s : Step} {f : Failure}

/-! ## Disconnecting -/

theorem disconnect_of_idle (idle : p.live? = none) :
    p.disconnect = (.ok (), { p with held := none }) := by
  rw [disconnect, idle]

theorem disconnect_of_live (live : p.live? = some n) : p.disconnect =
    if p.broker.failsToDrain n then (.error .collaborator, p)
    else (.ok (), { p with held := none, broker := p.broker.drained n }) := by
  have drain : p.broker.drain n = if p.broker.failsToDrain n then (.error .collaborator, p.broker)
      else (.ok (), p.broker.drained n) := rfl
  rw [disconnect, live]
  dsimp only
  rw [drain]
  cases p.broker.failsToDrain n <;> rfl

/-- A disconnect fails only over a live connection that fails to drain, and then changes nothing. -/
theorem disconnect_eq_error (failed : p.disconnect.1 = .error f) :
    p.disconnect = (.error f, p) ∧ ∃ n, p.live? = some n ∧ p.broker.failsToDrain n = true := by
  cases live : p.live? with
  | none =>
    rw [disconnect_of_idle live] at failed
    cases failed
  | some n =>
    rw [disconnect_of_live live] at failed ⊢
    split at failed
    · next fails =>
      cases failed
      rw [if_pos fails]
      exact ⟨rfl, n, rfl, fails⟩
    · cases failed

/-- A disconnect succeeds unless a live connection is held that fails to drain. -/
theorem disconnect_ok_iff : p.disconnect.1 = .ok () ↔
    ∀ n, p.live? = some n → p.broker.failsToDrain n = false := by
  constructor
  · intro done n live
    rw [disconnect_of_live live] at done
    split at done
    · cases done
    · next drains => exact Bool.not_eq_true _ ▸ drains
  · intro drains
    cases result : p.disconnect.1 with
    | ok _ => rfl
    | error f =>
      obtain ⟨-, n, live, fails⟩ := disconnect_eq_error result
      rw [drains n live] at fails
      cases fails

/-- The publisher is left without a connection exactly if the disconnect succeeds. -/
theorem held_disconnect_iff : p.disconnect.2.held = none ↔ p.disconnect.1 = .ok () := by
  rcases p.disconnect_cases with ⟨-, ended⟩ | ⟨n, live, ended | ended⟩ <;> rw [ended]
  · exact ⟨fun _ => rfl, fun _ => rfl⟩
  · rw [(live?_eq_some_iff.mp live).1]
    exact ⟨nofun, nofun⟩
  · exact ⟨fun _ => rfl, fun _ => rfl⟩

/-! ## The next call -/

/-- Whether a step is a call that needs a connection. -/
def Step.needsConnection : Step → Bool
  | .connect | .publish _ => true
  | .disconnect | .incident _ => false

/-- A call that needs a connection leaves the publisher with the one that connecting gives, and asks
for no other. -/
theorem held_of_needsConnection (needs : s.needsConnection = true) :
    (p.perform s).2.held = p.connect.2.held ∧
      (p.perform s).2.broker.calls = p.connect.2.broker.calls := by
  cases s with
  | connect => exact ⟨rfl, rfl⟩
  | publish e =>
    change (p.publish e).2.held = _ ∧ (p.publish e).2.broker.calls = _
    rcases p.publish_cases e with published | ⟨n, d, -, -, published⟩ <;> rw [published] <;>
      exact ⟨rfl, rfl⟩
  | disconnect | incident i => cases needs

/-- A publisher that holds no live connection asks for one, and holds from then on the new one that
it is given or none. -/
theorem opens_of_idle (idle : p.live? = none) (needs : s.needsConnection = true) :
    (p.perform s).2.broker.calls = p.broker.calls ++ [p.settings.natsUrl] ∧
      ∀ n, (p.perform s).2.held = some n → n = p.broker.connections.length := by
  obtain ⟨held, calls⟩ := held_of_needsConnection (p := p) needs
  rw [held, calls]
  rcases p.connect_cases with ⟨n, live, -⟩ | ⟨-, connected | connected⟩
  · rw [idle] at live
    cases live
  · rw [connected]
    exact ⟨rfl, nofun⟩
  · rw [connected]
    exact ⟨rfl, fun n given => (Option.some.inj given).symm⟩

/-- A publisher that holds a live connection goes on with it. -/
theorem goes_on_of_live (live : p.live? = some n) (needs : s.needsConnection = true) :
    (p.perform s).2.broker.calls = p.broker.calls ∧ (p.perform s).2.held = some n := by
  obtain ⟨held, calls⟩ := held_of_needsConnection (p := p) needs
  rw [held, calls]
  rcases p.connect_cases with ⟨m, -, connected⟩ | ⟨idle, -⟩
  · rw [connected]
    exact ⟨rfl, (live?_eq_some_iff.mp live).1⟩
  · rw [live] at idle
    cases idle

/-! ## After a run -/

/-- After any run of a publisher, with whatever befell the broker in between: a disconnect leaves the
publisher without a connection exactly if it succeeds, and it succeeds unless the connection held is
alive and fails to drain. After a success the next call that needs a connection asks the broker for a
new one, whatever became of the broker by then. After a failure nothing has changed, and the next
such call goes on with the connection held if that is still alive. -/
theorem lets_go_iff (settings : Settings) (broker : Broker) (steps : List Step) :
    ((reached settings broker steps).disconnect.2.held = none ↔
      (reached settings broker steps).disconnect.1 = .ok ()) ∧
    ((reached settings broker steps).disconnect.1 = .ok () ↔
      ∀ n, (reached settings broker steps).held = some n →
        (reached settings broker steps).broker.isAlive n = true →
          (reached settings broker steps).broker.failsToDrain n = false) ∧
    ((reached settings broker steps).disconnect.1 = .ok () →
      ∀ (b : Broker) (s : Step) (q : Publisher),
        q = { (reached settings broker steps).disconnect.2 with broker := b } →
        s.needsConnection = true →
          (q.perform s).2.broker.calls = b.calls ++ [settings.natsUrl] ∧
            ∀ n, (q.perform s).2.held = some n → n = b.connections.length) ∧
    ∀ f, (reached settings broker steps).disconnect.1 = .error f →
      (reached settings broker steps).disconnect.2 = reached settings broker steps ∧
      ∃ n, (reached settings broker steps).held = some n ∧
        ∀ (b : Broker) (s : Step) (q : Publisher),
          q = { (reached settings broker steps).disconnect.2 with broker := b } →
          b.isAlive n = true → s.needsConnection = true →
            (q.perform s).2.broker.calls = b.calls ∧ (q.perform s).2.held = some n := by
  have ofRun := settings_reached settings broker steps
  generalize reached settings broker steps = p at ofRun
  subst ofRun
  refine ⟨held_disconnect_iff, ?_, fun done b s q same needs => ?_, fun f failed => ?_⟩
  · simp only [disconnect_ok_iff, live?_eq_some_iff, and_imp]
  · subst same
    have kept : p.disconnect.2.settings = p.settings := p.settings_perform .disconnect
    have idle : Publisher.live? { p.disconnect.2 with broker := b } = none := by
      rw [live?, held_disconnect_iff.mpr done]
      rfl
    rw [← kept]
    exact opens_of_idle idle needs
  · obtain ⟨failed, n, live, -⟩ := disconnect_eq_error failed
    have held := (live?_eq_some_iff.mp live).1
    rw [failed]
    refine ⟨rfl, n, held, fun b s q same alive needs => ?_⟩
    subst same
    exact goes_on_of_live (live?_eq_some_iff.mpr ⟨held, alive⟩) needs

/-- A publisher whose connection fails to drain: it disconnects, the call fails, and a connect gives
the connection that was to be let go, for which the broker was asked before. -/
theorem goes_on_after_failed_drain : ∃ settings p q, Settings.load {} = .ok settings ∧
    reached settings {} [.incident (.turn { failsToDrain := true }), .connect] = p ∧
    p.disconnect = (.error .collaborator, q) ∧ q.held = some 0 ∧ q.connect = (some 0, q) ∧
    q.broker.calls = [settings.natsUrl] :=
  ⟨⟨"development", "INFO", "nats://localhost:4222", "identity", false, true⟩, _, _,
    by decide +kernel, rfl, rfl, rfl, rfl, rfl⟩

end Publisher

end Principals
