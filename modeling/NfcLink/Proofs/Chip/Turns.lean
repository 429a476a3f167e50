import NfcLink.Proofs.Chip.Staged
import NfcLink.Proofs.Snep.Turns

/-!
# A controller whose replies take turns

Pulling reads and writes in turns, so that replies which bring PDUs and confirm that one was
sent, in turns, are those that it needs. Through a controller with such replies it ends as it
does with a peer that sends the same PDUs.
-/
namespace NfcLink

open NfcLink.Action Outcome

namespace Chip

/-! ### Replies in turns -/

/-- The replies that bring these PDUs and confirm that one was sent after each of them. -/
def exchangeReplies (pdus : List Bytes) : Bytes :=
  pdus.flatMap fun pdu => Reply.full 0x86 (0x00 :: pdu) ++ Reply.full 0x8E [0x00]

/-- The replies from this turn on. -/
def repliesFrom : Turn → List Bytes → Bytes
  | .hear, pdus => exchangeReplies pdus
  | .speak, pdus => Reply.full 0x8E [0x00] ++ exchangeReplies pdus

theorem repliesFrom_cons (pdu : Bytes) (pdus : List Bytes) :
    repliesFrom .hear (pdu :: pdus) = Reply.full 0x86 (0x00 :: pdu) ++ repliesFrom .speak pdus := by
  simp only [repliesFrom, exchangeReplies, List.flatMap_cons, List.append_assoc]

/-- Calls that take turns find the replies that they need. -/
theorem staged_of_alternates {first last : Turn} {calls more : List LinkCall} {left : List Bytes}
    (alternates : Alternates first calls last)
    (succeed : ∀ call ∈ calls, call.succeeds = true) (rest : Staged more (repliesFrom last left)) :
    Staged (calls ++ more) (repliesFrom first (heardIn calls ++ left)) := by
  -- A read takes the reply with the next PDU and a write the status behind it, as the turns go.
  induction alternates with
  | still turn => exact rest
  | heard result _ ih =>
    have staged := ih (fun call member => succeed call (List.mem_cons_of_mem _ member)) rest
    cases result with
    | error error => cases succeed _ List.mem_cons_self
    | ok pdu =>
      rw [heardIn, List.cons_append, List.cons_append, repliesFrom_cons]
      exact .read pdu staged
  | spoke header body result _ ih =>
    have staged := ih (fun call member => succeed call (List.mem_cons_of_mem _ member)) rest
    cases result with
    | error error => cases succeed _ List.mem_cons_self
    | ok done => exact .written header body staged

/-- Replies that are left over are those to calls that are not made, which could be these. -/
theorem exists_staged (turn : Turn) (pdus : List Bytes) :
    ∃ calls, Staged calls (repliesFrom turn pdus) ∧ heardIn calls = pdus ∧
      ∀ frame ∈ sentIn calls, frame = [] := by
  induction pdus generalizing turn with
  | nil =>
    cases turn with
    | hear => exact ⟨[], .nothing, rfl, List.forall_mem_nil _⟩
    | speak => exact ⟨[.written [] [] (.ok ())], .written [] [] .nothing, rfl, by simp [sentIn]⟩
  | cons pdu pdus ih =>
    obtain ⟨calls, staged, heard, sent⟩ := ih .speak
    have hears : Staged (.read (.ok pdu) :: calls) (repliesFrom .hear (pdu :: pdus)) := by
      rw [repliesFrom_cons]
      exact .read pdu staged
    cases turn with
    | hear => exact ⟨_, hears, congrArg (pdu :: ·) heard, sent⟩
    | speak =>
      refine ⟨_, .written [] [] hears, congrArg (pdu :: ·) heard, ?_⟩
      intro frame member
      rcases List.mem_cons.mp member with rfl | member
      · rfl
      · exact sent frame member

/-! ### A pull through a controller -/

/-- A script of which frames are left stages more calls than were made. -/
theorem exists_staged_of_served {script left : List Bytes} {spare : Bytes} {calls : List LinkCall}
    {timeoutMs : Nat} {sam activation : Bytes} (served : Served (script ++ [spare]) calls left)
    (unread : left ≠ []) (alternates : Snep.AlternatesOnceActivated timeoutMs calls)
    (samFits : sam.length ≤ 253) (activationFits : activation.length ≤ 253) :
    ∃ more, Staged (calls ++ more)
        (Reply.full 0x14 sam ++ (Reply.full 0x8C activation ++ exchangeReplies script)) ∧
      heardIn (calls ++ more) = script ∧ ∀ frame ∈ sentIn more, frame = [] := by
  -- The last frame that is left is the spare one, so no read has failed for want of a frame.
  obtain ⟨kept, last, rfl⟩ := (List.eq_nil_or_concat left).resolve_left unread
  have whole := served.heard
  rw [List.concat_eq_append, ← List.append_assoc] at whole
  obtain ⟨rfl, -⟩ := List.append_inj' whole rfl
  have succeed := served.succeed unread
  rcases alternates with rfl | ⟨result, exchange, turn, rfl, alternates⟩
  · obtain ⟨more, staged, heard, sent⟩ := exists_staged .hear kept
    exact ⟨_, .activated timeoutMs sam activation samFits activationFits staged, heard, sent⟩
  · obtain ⟨more, staged, heard, sent⟩ := exists_staged turn kept
    have follows := staged_of_alternates alternates
      (fun call member => succeed call (List.mem_cons_of_mem _ member)) staged
    refine ⟨more, ?_, ?_, sent⟩
    · cases result with
      | error error => cases succeed _ List.mem_cons_self
      | ok done => exact .activated timeoutMs sam activation samFits activationFits follows
    · rw [heardIn_append, heard]

/-- A pull from a scripted peer that has a frame left goes the same way through a controller whose
replies bring the other frames. -/
theorem pullWithin_of_peer {script : List Bytes} {spare : Bytes} {clockNs tickNs patience : Nat}
    {settings : LinkSettings} {connection : Connection} {acceptShifted : Bool} {timeoutMs : Nat}
    {result : Except Error Bytes} {last : Endpoint (Observed (Bench PeerScript))}
    (pulled : (Snep.pullWithin acceptShifted timeoutMs (patience + 1)
        { link := PeerScript.sending (script ++ [spare]) clockNs tickNs, settings,
          connection }).ended = some (result, last))
    (unread : last.link.inner.device.inbound ≠ [])
    (readable : ∀ pdu ∈ script, pdu.length ≤ 252)
    (writable : ∀ frame ∈ last.link.inner.device.written, frame.length ≤ 253)
    {channel : Channel (Bench StreamDevice)} (default : channel.settings = {})
    (willing : channel.transport.device.Willing)
    (clock : channel.transport.clockNs = clockNs) (tick : channel.transport.tickNs = tickNs)
    {sam activation : Bytes} (samFits : sam.length ≤ 253) (activationFits : activation.length ≤ 253)
    (replies : channel.transport.device.queue =
      Reply.full 0x14 sam ++ (Reply.full 0x8C activation ++ exchangeReplies script)) :
    ∃ after, (Snep.pullWithin acceptShifted timeoutMs (patience + 1)
      { link := channel, settings, connection }).ended = some (result, after) := by
  obtain ⟨calls, ⟨seen, played⟩, pulls⟩ := (ifEnds_iff _ _).mp
    (PeerScript.recording.pullWithin_pulls acceptShifted timeoutMs) result last pulled
  obtain rfl : last.link.calls = calls := seen
  obtain ⟨left, served, serves, written⟩ := played.served ⟨rfl, rfl, rfl⟩
  have unread : left ≠ [] := by
    rintro rfl
    exact unread serves.inbound
  obtain ⟨more, staged, heard, silent⟩ :=
    exists_staged_of_served served unread pulls.alternates samFits activationFits
  rw [← replies] at staged
  -- What the pull did with the peer it does with the controller, which has these commands ahead.
  let taken := channel.transport.device.commands ++ (last.link.calls ++ more).flatMap commandsOf
  have mirrors := ((refinement taken).correspondence patience).pullWithin acceptShifted timeoutMs
  obtain ⟨calls, ⟨seen, -⟩, follows⟩ := (ifEnds_iff _ _).mp (mirrors _) result last pulled
  obtain rfl : last.link.calls = calls := seen
  have holds : StreamDevice.HoldsAt clockNs tickNs channel.transport.device.sent
      [channel.transport.device.queue] channel.transport :=
    ⟨⟨willing, rfl, by simp⟩, clock, tick⟩
  have stands : Stands clockNs tickNs channel.transport.device.commands
      channel.transport.device.queue channel :=
    ⟨default, ⟨_, holds⟩, rfl⟩
  have brief : ∀ frame ∈ sentIn (last.link.calls ++ more), frame.length ≤ 253 := by
    intro frame member
    rw [sentIn_append] at member
    rcases List.mem_append.mp member with member | member
    · exact writable frame (written ▸ member)
    · rw [silent frame member]
      exact Nat.zero_le _
  obtain ⟨after, ended, -⟩ := follows more { link := channel, settings, connection }
    ⟨⟨⟨_, _, stands, staged, rfl⟩, heard ▸ readable, brief⟩, rfl, rfl⟩
  exact ⟨after, ended⟩

end Chip

end NfcLink
