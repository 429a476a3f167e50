import NfcLink.Proofs.Link.Played
import NfcLink.Proofs.Llcp.Script
import NfcLink.Proofs.Snep.Reception
import NfcLink.Proofs.Snep.Spoken

/-!
# Visits

What a peer sends that brings an object to a pull, with whatever request. Where a link delivers
it in time, the pull comes to its end, and the request alone decides to which.
-/
namespace NfcLink

open NfcLink.Action Outcome

namespace Snep

/-- What a peer that brings an object sends besides the object: a connect, a turn and a
receive-ready. In front of each PDU that is waited for come SYMMs, as many as a wait may answer. -/
structure Visit (settings : LinkSettings) where
  connect : Bytes
  turn : Bytes
  receiveReady : Bytes
  beforeConnect : List Bytes
  beforeRequest : List Bytes
  beforeReady : List Bytes
  connects : PduHeader.typeOf connect = .ok .connect
  parses : ∃ proposal parameters, PduHeader.split connect = .ok (proposal, parameters)
  pass : IsSymm turn
  acknowledges : PduHeader.typeOf receiveReady = .ok .receiveReady
  absorbed : ∀ symms ∈ [beforeConnect, beforeRequest, beforeReady],
    settings.Allows symms.length ∧ ∀ symm ∈ symms, IsSymm symm

namespace Visit

variable {settings : LinkSettings} (visit : Visit settings)

/-- What comes before the request. -/
def opening : List Bytes := visit.beforeConnect ++ visit.connect :: visit.beforeRequest

/-- What comes behind it. -/
def closing : List Bytes := visit.turn :: (visit.beforeReady ++ [visit.receiveReady])

def script (request : Bytes) : List Bytes := visit.opening ++ request :: visit.closing

/-- A pull ends with what is read from the request. -/
theorem pullWithin_ends {σ : Type} [Host σ] [PeerLink σ] {timeouts : List Nat}
    {supply : Supply σ timeouts} {acceptShifted : Bool} {timeoutMs patience : Nat}
    (accepts : timeoutMs ∈ timeouts) (transfers : settings.transferTimeoutMs ∈ timeouts)
    {pdu request : Bytes} {inbound : PduHeader} {ns nr : Seq}
    (informs : PduHeader.typeOf pdu = .ok .information)
    (carries : PduHeader.split pdu = .ok (inbound, request))
    (numbered : inbound.numbers = some (ns, nr)) (later : List Bytes)
    (enough : (visit.script pdu).length < patience) {connection : Connection} {looks : Nat}
    {endpoint : Endpoint σ}
    (stands : supply.Stands settings ((visit.script pdu).length + 2 + looks)
      (visit.script pdu ++ later) [] connection endpoint) :
    ∃ last looks left spoken connection,
      (pullWithin acceptShifted timeoutMs patience endpoint).ended =
        some (readRequest acceptShifted request, last) ∧
      supply.Stands settings looks left spoken connection last ∧ later <:+ left ∧
      ∀ frame ∈ spoken, frame.length ≤ 9 := by
  obtain ⟨proposal, parameters, proposes⟩ := visit.parses
  obtain ⟨allowed₁, absorbed₁⟩ := visit.absorbed visit.beforeConnect (by simp)
  obtain ⟨allowed₂, absorbed₂⟩ := visit.absorbed visit.beforeRequest (by simp)
  obtain ⟨allowed₃, absorbed₃⟩ := visit.absorbed visit.beforeReady (by simp)
  have length : (visit.script pdu).length = visit.beforeConnect.length +
      (visit.beforeRequest.length + (visit.beforeReady.length + 4)) := by
    simp only [script, opening, closing, List.length_append, List.length_cons, List.length_nil]
    omega
  have enough₁ : visit.beforeConnect.length < patience := by omega
  have enough₂ : visit.beforeRequest.length < patience := by omega
  have enough₃ : visit.beforeReady.length < patience := by omega
  -- Each of the three waits looks at the clock when it starts and for each PDU that it reads.
  have often : visit.beforeConnect.length + 1 + (visit.beforeRequest.length + 1 +
      (visit.beforeReady.length + 1 + looks + 1) + 1) + 1 ≤
        (visit.script pdu).length + 2 + looks := by
    omega
  have toCome : visit.script pdu ++ later = visit.beforeConnect ++ visit.connect ::
      (visit.beforeRequest ++ pdu :: (visit.turn ::
        (visit.beforeReady ++ visit.receiveReady :: later))) := by
    simp [script, opening, closing]
  rw [toCome] at stands
  obtain ⟨heard, hears, hearing⟩ := hearRequest_answers accepts transfers absorbed₁ absorbed₂
    allowed₁ allowed₂ enough₁ enough₂ visit.connects proposes informs carries numbered
    (stands.fewer often)
  have short (header : PduHeader) : header.encode.length ≤ 9 :=
    Nat.le_trans header.encode_length_le (by decide)
  rw [pullWithin_eq, bind_of_done hears]
  cases reads : readRequest acceptShifted request with
  | ok object =>
    obtain ⟨last, done, standing⟩ := answerRequest_answers reads transfers rfl rfl visit.pass
      allowed₃ absorbed₃ enough₃ visit.acknowledges hearing
    refine ⟨last, _, _, _, _, ended_eq_ok_iff.mpr done, standing, List.suffix_refl _, ?_⟩
    have reports (pdu : PduHeader) : (pdu.encode ++ header success 0).length ≤ 9 := by
      rw [List.length_append]
      exact Nat.add_le_add_right pdu.encode_length_le 6
    simp only [List.nil_append, List.forall_mem_append, List.forall_mem_singleton]
    exact ⟨⟨short _, short _⟩, reports _⟩
  | error error =>
    -- Nothing is sent any more, so all behind the request is left.
    obtain ⟨notices, failed⟩ := answerRequest_of_error reads patience heard
    refine ⟨_, _, _, _, _, ended_eq_error_iff.mpr failed, hearing.recordAll notices, ?_, ?_⟩
    · exact ⟨visit.closing, by simp [closing]⟩
    · simp only [List.nil_append, List.forall_mem_append, List.forall_mem_singleton]
      exact ⟨short _, short _⟩

/-- A peer with one more frame to send keeps that one, and is sent short PDUs only. -/
theorem pullWithin_scripted {acceptShifted : Bool} {timeoutMs patience clockNs tickNs : Nat}
    {pdu request : Bytes} {inbound : PduHeader} {ns nr : Seq}
    (informs : PduHeader.typeOf pdu = .ok .information)
    (carries : PduHeader.split pdu = .ok (inbound, request))
    (numbered : inbound.numbers = some (ns, nr)) (enough : (visit.script pdu).length < patience)
    (timely : ∀ limit ∈ [timeoutMs, settings.transferTimeoutMs], limit ≠ 0 →
      ((visit.script pdu).length + 2) * tickNs < limit * nanosecondsPerMillisecond)
    (connection : Connection) (spare : Bytes) :
    ∃ last, (pullWithin acceptShifted timeoutMs patience
        { link := PeerScript.sending (visit.script pdu ++ [spare]) clockNs tickNs, settings,
          connection }).ended = some (readRequest acceptShifted request, last) ∧
      last.link.inner.device.inbound ≠ [] ∧
      ∀ frame ∈ last.link.inner.device.written, frame.length ≤ 253 := by
  let horizon := clockNs + ((visit.script pdu).length + 2) * tickNs
  have distant : ∀ limit ∈ [timeoutMs, settings.transferTimeoutMs], limit ≠ 0 →
      horizon < clockNs + limit * nanosecondsPerMillisecond :=
    fun limit member bounded => Nat.add_lt_add_left (timely limit member bounded) clockNs
  have starts : (PeerScript.delivery clockNs horizon distant).observed.Stands settings
      ((visit.script pdu).length + 2 + 0) (visit.script pdu ++ [spare]) [] connection
      { link := PeerScript.sending (visit.script pdu ++ [spare]) clockNs tickNs, settings,
        connection } :=
    ⟨⟨[], ⟨rfl, rfl, rfl, rfl, Nat.le_refl _, Nat.le_refl _⟩, rfl⟩, rfl, rfl⟩
  obtain ⟨last, looks, left, spoken, _, ended, ⟨⟨written, plays, rfl⟩, -, -⟩, unread, short⟩ :=
    visit.pullWithin_ends List.mem_cons_self (by simp) informs carries numbered [spare] enough
      starts
  refine ⟨last, ended, ?_, ?_⟩
  · have inbound : last.link.inner.device.inbound = left.map .ok := plays.inbound
    rw [inbound]
    intro none
    rw [List.map_eq_nil_iff.mp none] at unread
    simp at unread
  · have same : last.link.inner.device.written = written := plays.written
    rw [same]
    intro frame member
    by_cases speaking : speaks frame = true
    · exact Nat.le_trans (short frame (List.mem_filter.mpr ⟨member, speaking⟩)) (by decide)
    · obtain rfl : frame = PduHeader.symm.encode := by simpa [speaks] using speaking
      decide

end Visit

end Snep

end NfcLink
