import NfcLink.Proofs.Llcp.Success
import NfcLink.Proofs.Llcp.SymmLimit
import NfcLink.Snep.Exchange

/-!
# A peer that only says SYMM

A push and a pull are operations in a row, so a limit on SYMMs bounds their reads by the sum
of what the operations take. Neither is held up by a peer that has nothing else to say.
-/
namespace NfcLink

open NfcLink.Action Outcome SymmLimit

namespace Snep

section Exchanges

variable {σ : Type} [Host σ] [PeerLink σ] {limit patience : Nat}
variable {before : Endpoint (Observed σ)}

omit [PeerLink σ] in
theorem realign_quiet (limited : before.Limited limit) (acceptShifted : Bool) (request : Bytes) :
    Quiet limit (realign acceptShifted request) patience before := by
  unfold realign
  split
  · apply (note_quiet limited _).then
    intro answer noted limited
    exact halts_pure limited _ rfl
  · exact halts_pure limited _ rfl

theorem connect_initiates {timeoutMs : Nat} {answer : Unit} {after : Endpoint (Observed σ)}
    (done : Endpoint.connect timeoutMs patience before = .done answer after) :
    after.connection.role = .initiator := by
  have reports : Recording.blind.Reports (Endpoint.connect timeoutMs) patience before _ :=
    Recording.connect_performs timeoutMs
  rw [Recording.Reports, done] at reports
  obtain ⟨calls, -, performs⟩ := reports
  obtain ⟨same, -⟩ := Performs.proposal performs
  rw [same]
  rfl

/-- The initiator of a connection need not take its turn before it transmits. -/
theorem pushWithin_reads (returns : Returns σ patience) (limited : before.Limited limit)
    (enough : limit < patience) (object : Bytes) (timeoutMs : Nat) :
    ReadsAtMost (4 * limit + 6) limit (pushWithin object timeoutMs) patience before := by
  unfold pushWithin
  split
  · exact halts_fail limited _ (Nat.zero_le _)
  apply (activate_reads returns limited timeoutMs).initially
  intro answer activated limited
  have exchange : (limit + 2) + ((limit + 1) + ((limit + 1) + (limit + 2))) = 4 * limit + 6 := by
    omega
  rw [← exchange]
  apply (connect_reads returns limited enough timeoutMs).bind_done
  intro answer connected done limited
  -- A transmission may take a turn first, but not that of an initiator.
  have initiates := connect_initiates done
  apply noted_bind limited
  intro noted limited kept
  have transmits := transmit_reads_as returns limited enough
    (header putRequest object.length) object
  rw [kept, initiates, if_neg nofun] at transmits
  apply transmits.bind
  intro answer transmitted limited
  apply (receive_reads returns limited enough).bind
  intro response received limited
  apply (lift_quiet limited _).then_reads
  intro answer accepted limited
  apply (attempt_reads (release_reads returns limited enough)).finally
  intro ending released limited
  cases ending with
  | ok answer => exact halts_pure limited () (Nat.zero_le 0)
  | error error => exact (note_quiet limited _).readsAtMost

theorem pullWithin_reads (returns : Returns σ patience) (limited : before.Limited limit)
    (enough : limit < patience) (acceptShifted : Bool) (timeoutMs : Nat) :
    ReadsAtMost (3 * limit + 4) limit (pullWithin acceptShifted timeoutMs) patience before := by
  unfold pullWithin
  apply (activate_reads returns limited timeoutMs).initially
  intro answer activated limited
  have exchange : (limit + 1) + ((limit + 1) + (limit + 2)) = 3 * limit + 4 := by omega
  rw [← exchange]
  apply (accept_reads returns limited enough timeoutMs).bind
  intro answer accepted limited
  apply (receive_reads returns limited enough).bind
  intro request received limited
  apply (lift_quiet limited _).then_reads
  intro answer long limited
  apply (realign_quiet limited acceptShifted request).then_reads
  intro aligned between limited
  apply (lift_quiet limited _).then_reads
  intro object read limited
  apply (note_quiet limited _).then_reads
  intro answer noted limited
  apply (transmit_reads returns limited enough _ _).finally
  intro answer transmitted limited
  exact halts_pure limited object (Nat.zero_le 0)

end Exchanges

end Snep

section Limit

variable {σ : Type} [Host σ] [PeerLink σ] {limit patience : Nat}
variable {before : Endpoint (Observed σ)}

/-- With a limit on SYMMs everything comes to an end, deadline or not, on every link whose calls do,
and reads the link so often at most. A wait that stops at a SYMM times out, and has answered as many
before as the limit allows. -/
theorem symm_limit_bounds_reads (returns : Returns σ patience) (enough : limit < patience)
    (limited : before.settings.maxSymm = some limit) :
    (∀ operation : Operation,
      ReadsAtMost (operation.mostReads limit) limit operation.perform patience before) ∧
    (∀ object timeoutMs,
      ReadsAtMost (4 * limit + 6) limit (Snep.pushWithin object timeoutMs) patience before) ∧
    (∀ acceptShifted timeoutMs,
      ReadsAtMost (3 * limit + 4) limit (Snep.pullWithin acceptShifted timeoutMs) patience
        before) ∧
    ∀ wanted deadline, .symm ∉ wanted →
      Halts limit (Endpoint.await wanted deadline) patience before fun calls result =>
        readsIn calls ≤ limit + 1 ∧ symmsIn calls ≤ limit ∧
          (LeftAtSymm calls → result = .error .timeout ∧ symmsIn calls = limit) := by
  refine ⟨Operation.perform_reads returns limited enough,
    Snep.pushWithin_reads returns limited enough, Snep.pullWithin_reads returns limited enough, ?_⟩
  intro wanted deadline unwanted
  apply (await_waited returns limited enough wanted deadline).mono
  intro calls result waited
  refine ⟨Nat.le_trans waited.reads (Nat.succ_le_succ waited.symms), waited.symms, ?_⟩
  exact fun left => waited.gaveUp left unwanted

end Limit

/-! ### A peer that never says anything but SYMM -/

/-- Every read brings a SYMM. -/
structure SymmFlood where

instance : PeerLink (Bench SymmFlood) where
  activate _ := Bench.step fun flood => (.ok (), flood)
  read := Bench.step fun flood => (.ok [0x00, 0x00], flood)
  write _ _ := Bench.step fun flood => (.ok (), flood)

theorem SymmFlood.returns (patience : Nat) : Returns (Bench SymmFlood) patience where
  activated _ _ := nofun
  read _ := nofun
  written _ _ _ := nofun

/-- No deadline, and three SYMMs in each wait. Only the kernel is quick enough to run it. -/
@[irreducible] def floodedEndpoint : Endpoint (Observed (Bench SymmFlood)) :=
  { link := { inner := { device := {} } }
    settings := { transferTimeoutMs := 0, maxSymm := some 3 } }

theorem flood_cut_off :
    ReadsAtMost 4 3 (Operation.accept 0).perform 4 floodedEndpoint ∧
    ReadsAtMost 18 3 (Snep.pushWithin [0xD0] 0) 4 floodedEndpoint ∧
    ReadsAtMost 13 3 (Snep.pullWithin true 0) 4 floodedEndpoint ∧
    (Endpoint.await [.connect] .never 4 floodedEndpoint).Ends fun result after =>
      result = .error .timeout ∧ symmsIn after.link.calls = 3 := by
  have limited : floodedEndpoint.settings.maxSymm = some 3 := by
    rw [floodedEndpoint]
  obtain ⟨operations, pushes, pulls, waits⟩ :=
    symm_limit_bounds_reads (SymmFlood.returns 4) (by decide) limited
  refine ⟨operations (.accept 0), pushes _ _, pulls _ _, ?_⟩
  -- Only the last call is found by running the wait, the rest follows from the limit.
  have heard : (Endpoint.await [.connect] .never 4 floodedEndpoint).ended.map
      (fun (_, after) => after.link.calls.getLast?) = some (some (.read (.ok [0x00, 0x00]))) := by
    decide +kernel
  obtain ⟨⟨result, after⟩, ended, last⟩ := Option.map_eq_some_iff.mp heard
  obtain ⟨_, _, same, -, calls, seen, -, -, stopped⟩ :=
    (ends_iff _ _).mp (waits [.connect] .never (by decide))
  cases ended.symm.trans same
  rw [floodedEndpoint] at seen
  obtain rfl : after.link.calls = calls := seen
  exact (ends_iff _ _).mpr ⟨result, after, ended, stopped ⟨_, last, rfl⟩⟩

end NfcLink
