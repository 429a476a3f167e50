import NfcLink.Proofs.Llcp.Success
import NfcLink.Proofs.Snep.Conduct
import NfcLink.Proofs.Snep.Message
import NfcLink.Sim.Peer

/-!
# Objects that were delivered

A push has one way to succeed. The peer accepted the connection, acknowledged the one
information PDU that was sent, which carries the object, and answered it with success.
-/
namespace NfcLink

open NfcLink.Action Outcome
open scoped List

namespace Snep

/-- What the calls of a push show once the object is with the peer. -/
structure Delivered (object : Bytes) (timeoutMs : Nat) (calls : List LinkCall) : Prop where
  fits : object.length ≤ maxObject
  /-- No other information PDU was sent, not even in vain. -/
  once : informedIn calls =
    [Reply.information exchangeService initiatorAddress 0 0 (Reply.putRequest object)]
  inOrder : ∃ cc receiveReady dsap ssap ns nr response,
    PduHeader.typeOf cc = .ok .cc ∧ PduHeader.typeOf receiveReady = .ok .receiveReady ∧
    headerLength ≤ response.length ∧ [version, success] <+: response ∧
    [.activated timeoutMs (.ok ()),
      .written (Reply.pdu exchangeService .connect initiatorAddress) connectParameters (.ok ()),
      .read (.ok cc),
      .written (Reply.information exchangeService initiatorAddress 0 0
        (header putRequest object.length)) object (.ok ()),
      .read (.ok receiveReady),
      .read (.ok (Reply.information dsap ssap ns nr response)),
      .written (Reply.receiveReady ssap dsap ns.next) [] (.ok ())] <+ calls

/-- The one way in which a push succeeds. -/
theorem Pushes.delivered {object : Bytes} {timeoutMs : Nat} {before after : Connection}
    {calls : List LinkCall} (pushes : Pushes object timeoutMs before calls (.ok ()) after) :
    Delivered object timeoutMs calls ∧ after.phase = .idle := by
  generalize same : Except.ok () = result at pushes
  cases pushes with
  | tooLarge | unactivated | stopped | rejected => cases same
  | @pushed activation exchange closing ready between _ response ending fits activates carries
      accepts releases =>
    obtain rfl := activates.activation
    obtain ⟨connecting, sending, receiving, connected, sent, rfl, connects, transmits, receives⟩ :=
      carries_pushPlan carries
    obtain ⟨rfl, cc, confirmed, proposal⟩ := connects.proposal
    obtain ⟨rfl, once, receiveReady, acknowledged, transmission⟩ := transmits.transmission
    obtain ⟨dsap, ssap, ns, nr, _, ⟨rfl⟩, rfl, reception⟩ := receives.reception
    obtain ⟨long, succeeds⟩ := (expectSuccess_eq_ok_iff response).mp accepts
    refine ⟨⟨fits, ?_, ?_⟩, releases.release_idle rfl⟩
    · have silent : informedIn [.activated timeoutMs (.ok ())] = [] := rfl
      simp only [informedIn_append, silent, connects.informedIn_eq_nil nofun, once,
        receives.informedIn_eq_nil nofun, releases.informedIn_eq_nil nofun, List.nil_append,
        List.append_nil]
      rw [List.append_assoc]
      rfl
    · refine ⟨cc, receiveReady, dsap, ssap, ns, nr, response, confirmed, acknowledged, long,
        succeeds, ?_⟩
      -- The release comes behind all of these, so it does not matter how it went.
      have exchanged := proposal.append (transmission.append reception.sublist)
      exact (exchanged.trans (List.sublist_append_left _ closing)).cons_cons _

end Snep

section Observation

variable {σ : Type} [Host σ] [PeerLink σ]

/-- A push that reports success was delivered, whatever the link did: the peer accepted the
connection, acknowledged the one information PDU, which carries the object, and answered it with
success. No connection is left then, even if its release failed. An object that is too large fails
without a call. -/
theorem push_delivers (before : Endpoint (Observed σ)) (object : Bytes) (timeoutMs patience : Nat) :
    (∀ after, Snep.pushWithin object timeoutMs patience before = .done () after →
      ∃ calls, after.link.calls = before.link.calls ++ calls ∧
        Snep.Delivered object timeoutMs calls ∧ after.connection.phase = .idle) ∧
    (Snep.maxObject < object.length → Snep.pushWithin object timeoutMs patience before =
      .failed (.payloadTooLarge object.length Snep.maxObject) before) := by
  constructor
  · intro after succeeds
    obtain ⟨calls, seen, pushes⟩ := (ifEnds_iff _ _).mp
      (Recording.observed.pushWithin_pushes object timeoutMs) _ after
        (ended_eq_ok_iff.mpr succeeds)
    exact ⟨calls, seen, pushes.delivered⟩
  · intro exceeds
    unfold Snep.pushWithin
    rw [if_pos exceeds]
    rfl

end Observation

/-- Takes one octet that is pushed to it, and leaves without confirming the release. -/
def leavingPeer : Observed (Bench PeerScript) :=
  let script := [Reply.pdu 0 .symm 0, Reply.pdu 0x20 .cc 0x04, Reply.receiveReady 0x20 0x04 1,
    Reply.information 0x20 0x04 0 1 (Snep.header Snep.success 0), Reply.pdu 0 .symm 0]
  { inner := { device := { inbound := script.map .ok } } }

/-- A push whose release times out, and one of an object that is too large. -/
theorem push_to_leaving_peer_delivers :
    (∃ after, Snep.pushWithin [0x78] 1000 9 { link := leavingPeer } = .done () after ∧
      after.link.calls.getLast? = some (.read (.error .timeout)) ∧
      Snep.Delivered [0x78] 1000 after.link.calls ∧ after.connection.phase = .idle) ∧
    Snep.maxObject < (List.replicate 245 (0x78 : UInt8)).length ∧
    Snep.pushWithin (List.replicate 245 0x78) 1000 9 { link := leavingPeer } =
      .failed (.payloadTooLarge 245 244) { link := leavingPeer } := by
  have large : Snep.maxObject < (List.replicate 245 (0x78 : UInt8)).length := by
    rw [List.length_replicate]
    decide
  have fails := (push_delivers { link := leavingPeer } _ 1000 9).2 large
  rw [List.length_replicate] at fails
  refine ⟨?_, large, fails⟩
  have ends : (Snep.pushWithin [0x78] 1000 9 { link := leavingPeer }).ended.map
      (fun (result, after) => (result.toOption, after.link.calls.getLast?)) =
        some (some (), some (.read (.error .timeout))) := by
    decide +kernel
  obtain ⟨⟨result, after⟩, ended, summary⟩ := Option.map_eq_some_iff.mp ends
  obtain ⟨succeeded, last⟩ := Prod.mk.inj summary
  obtain _ | answer := result
  · cases succeeded
  have succeeds := ended_eq_ok_iff.mp ended
  obtain ⟨delivers, -⟩ := push_delivers { link := leavingPeer } [0x78] 1000 9
  obtain ⟨calls, seen, delivered, idle⟩ := delivers after succeeds
  exact ⟨after, succeeds, last, seen ▸ delivered, idle⟩

end NfcLink
