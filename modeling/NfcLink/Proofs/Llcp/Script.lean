import NfcLink.Proofs.Llcp.Delivery
import NfcLink.Sim.Peer

/-!
# The scripted peer delivers

As long as its script holds frames only and its writes are not refused, the scripted
peer is a link that delivers, on a clock that moves with every look at it and stays
before a horizon.
-/
namespace NfcLink.PeerScript

open NfcLink.Action Outcome

/-- The clock has left `start`, and so many looks do not bring it past the horizon. -/
structure Plays (start horizon looks : Nat) (toCome written : List Bytes)
    (bench : Bench PeerScript) : Prop where
  inbound : bench.device.inbound = toCome.map .ok
  written : bench.device.written = written
  activates : bench.device.activationError = none
  accepts : bench.device.refusedWrites = 0
  started : start ≤ bench.clockNs
  early : bench.clockNs + looks * bench.tickNs ≤ horizon

variable {timeouts : List Nat}

/-- No deadline lies before the horizon. -/
def delivery (start horizon : Nat) (distant : ∀ timeoutMs ∈ timeouts, timeoutMs ≠ 0 →
      horizon < start + timeoutMs * nanosecondsPerMillisecond) :
    Delivery (Bench PeerScript) timeouts where
  holds := Plays start horizon
  ahead instant := horizon < instant
  record plays _ :=
    ⟨plays.inbound, plays.written, plays.activates, plays.accepts, plays.started, plays.early⟩
  fewer := by
    intro looks toCome written bench plays
    have early := plays.early
    rw [Nat.succ_mul] at early
    exact ⟨plays.inbound, plays.written, plays.activates, plays.accepts, plays.started, by omega⟩
  look := by
    intro looks toCome written bench plays
    have early := plays.early
    have started := plays.started
    rw [Nat.succ_mul] at early
    refine ⟨plays.inbound, plays.written, plays.activates, plays.accepts, ?_, ?_⟩
    · change start ≤ bench.clockNs + bench.tickNs
      omega
    · change bench.clockNs + bench.tickNs + looks * bench.tickNs ≤ horizon
      omega
  early := by
    intro looks toCome written bench plays instant ahead
    have early := plays.early
    rw [Nat.succ_mul] at early
    change bench.clockNs < instant
    omega
  distant := by
    intro looks toCome written bench plays timeoutMs member bounded
    have started := plays.started
    have beyond := distant timeoutMs member bounded
    change horizon < bench.clockNs + timeoutMs * nanosecondsPerMillisecond
    omega
  activate := by
    intro looks toCome written bench plays timeoutMs patience
    have does : bench.device.activate timeoutMs = (.ok (), { bench.device with
        activations := bench.device.activations ++ [timeoutMs], activationError := none }) := by
      simp only [PeerScript.activate, plays.activates]
    refine ⟨_, Bench.step_of_ok does, ?_⟩
    exact ⟨plays.inbound, plays.written, rfl, plays.accepts, plays.started, plays.early⟩
  read := by
    intro looks frame toCome written bench plays patience
    have inbound : bench.device.inbound = .ok frame :: toCome.map .ok := plays.inbound
    have does : bench.device.read =
        (.ok frame, { bench.device with inbound := toCome.map .ok }) := by
      simp only [PeerScript.read, inbound]
    refine ⟨_, Bench.step_of_ok does, ?_⟩
    exact ⟨rfl, plays.written, plays.activates, plays.accepts, plays.started, plays.early⟩
  exhausted := by
    intro looks written bench plays patience
    have inbound : bench.device.inbound = [] := plays.inbound
    refine ⟨.timeout, bench, ?_, plays⟩
    change Bench.step PeerScript.read patience bench = _
    simp only [Bench.step, ofStep, PeerScript.read, inbound]
  write := by
    intro looks toCome written bench plays header body patience
    have does : bench.device.write header body =
        (.ok (), { bench.device with written := bench.device.written ++ [header ++ body] }) := by
      unfold PeerScript.write
      split
      next left refused => exact absurd (refused.symm.trans plays.accepts) (Nat.succ_ne_zero left)
      next => rfl
    refine ⟨_, Bench.step_of_ok does, ?_⟩
    refine ⟨plays.inbound, ?_, plays.activates, plays.accepts, plays.started, plays.early⟩
    exact congrArg (· ++ [header ++ body]) plays.written

theorem written_of_sent {start horizon : Nat}
    {distant : ∀ timeoutMs ∈ timeouts, timeoutMs ≠ 0 →
      horizon < start + timeoutMs * nanosecondsPerMillisecond}
    {spoken : List Bytes} {endpoint : Endpoint (Bench PeerScript)}
    (sent : (delivery start horizon distant).Sent spoken endpoint) :
    spoken <+: endpoint.link.device.written.filter speaks := by
  obtain ⟨looks, toCome, written, plays, begins⟩ := sent
  rw [← plays.written] at begins
  exact begins

end NfcLink.PeerScript
