import NfcLink.Chip
import NfcLink.Proofs.Handshake.Stream
import NfcLink.Proofs.Link.Played
import NfcLink.Proofs.Link.Refinement
import NfcLink.Proofs.Snep.Session

/-!
# The controller in the place of a scripted peer

A stream that holds the replies of the controller to the calls of a run, one after the other,
makes the controller answer these calls as the scripted peer did. Every call takes its own
replies off the stream and no others, so the next one finds its own.
-/
namespace NfcLink

open NfcLink.Action Outcome

namespace StreamDevice

/-- At this instant of a clock that moves like this. -/
structure HoldsAt (clockNs tickNs : Nat) (heard frames : List Bytes) (bench : Bench StreamDevice) :
    Prop extends Holds heard frames bench where
  clock : bench.clockNs = clockNs
  tick : bench.tickNs = tickNs

/-- A step of the device leaves the clock alone. -/
theorem HoldsAt.of_step {clockNs tickNs : Nat} {heard frames later earlier : List Bytes} {α : Type}
    {act : StreamDevice → Except Error α × StreamDevice} {patience : Nat}
    {bench : Bench StreamDevice} {answer : α} (holds : HoldsAt clockNs tickNs earlier later bench)
    (answers : (Bench.step act patience bench).Answers answer (Holds heard frames)) :
    (Bench.step act patience bench).Answers answer (HoldsAt clockNs tickNs heard frames) := by
  obtain ⟨after, done, holding⟩ := answers
  have ended := Bench.step_ended act patience bench
  rw [done] at ended
  obtain ⟨-, same⟩ := Prod.mk.inj (Option.some.inj ended)
  refine ⟨after, done, holding, ?_, ?_⟩
  · rw [same]
    exact holds.clock
  · rw [same]
    exact holds.tick

/-- Nothing in a conversation looks at the clock. -/
def conversationAt (clockNs tickNs : Nat) : Conversation (Bench StreamDevice) where
  rehearse := setUp
  primed := HoldsAt clockNs tickNs
  offers := HoldsAt clockNs tickNs
  reading heard _ left later := HoldsAt clockNs tickNs heard (left :: later)
  primes holds command data :=
    ⟨conversation.primes holds.toHolds command data, holds.clock, holds.tick⟩
  record_primed holds notice := ⟨holds.record notice, holds.clock, holds.tick⟩
  record_offers holds notice := ⟨holds.record notice, holds.clock, holds.tick⟩
  send holds header body patience fits :=
    holds.of_step (conversation.send holds.toHolds header body patience fits)
  poll holds nonempty patience :=
    holds.of_step (conversation.poll holds.toHolds nonempty patience)
  piece holds _ timeoutMs _ := holds.of_step (holds.receive timeoutMs)
  final := by
    intro heard handed piece later bench holds timeoutMs patience
    have reading : conversation.reading heard handed piece later bench := holds.toHolds
    exact holds.of_step (conversation.final reading timeoutMs patience)

theorem commands_append {device after : StreamDevice} {header body : Bytes}
    (fits : (Frame.command header body).Fits)
    (sent : after.sent = device.sent ++ [(Frame.command header body).wire]) :
    after.commands = device.commands ++ [header ++ body] := by
  rw [commands, sent, List.filterMap_append, commands]
  simp only [List.filterMap_cons, List.filterMap_nil, Frame.decode_command fits]
  rfl

end StreamDevice

namespace Chip

/-- A controller that has taken these commands, with these bytes to be read. -/
structure Stands (clockNs tickNs : Nat) (taken : List Bytes) (stream : Bytes)
    (channel : Channel (Bench StreamDevice)) : Prop where
  settings : channel.settings = {}
  holds : ∃ heard, StreamDevice.HoldsAt clockNs tickNs heard [stream] channel.transport
  commands : channel.transport.device.commands = taken

variable {clockNs tickNs patience : Nat} {taken : List Bytes} {stream : Bytes}
variable {channel : Channel (Bench StreamDevice)}

theorem Stands.askWithin {command : UInt8} {header body data : Bytes}
    (stands : Stands clockNs tickNs taken (Reply.full command data ++ stream) channel)
    (timeoutMs : Nat) (commandFits : header.length + body.length ≤ 253)
    (dataFits : data.length ≤ 253) :
    (Channel.askWithin (command :: header) body timeoutMs (patience + 1) channel).Answers data
      (Stands clockNs tickNs (taken ++ [command :: header ++ body]) stream) := by
  obtain ⟨heard, holds⟩ := stands.holds
  -- One string of bytes is the acknowledgement, the response and what is left.
  have primed : StreamDevice.HoldsAt clockNs tickNs heard
      [Ack.frame, Reply.response command data, stream] channel.transport := by
    refine ⟨⟨holds.willing, holds.sent, ?_⟩, holds.clock, holds.tick⟩
    rw [holds.queue]
    simp [Reply.full]
  have within : (command :: header).length + body.length < Frame.maxCounted := by
    simp only [List.length_cons, Frame.maxCounted]
    omega
  have counted : (Frame.command (command :: header) body).Fits := by
    simp only [Frame.Fits, Frame.counted, Frame.command, List.length_cons, List.length_append,
      Frame.maxCounted]
    omega
  have accepted : data.length ≤ channel.settings.capacity := by
    rw [stands.settings]
    exact Nat.le_trans dataFits (by decide)
  apply ((StreamDevice.conversationAt clockNs tickNs).askWithin_answers channel command header body
    data timeoutMs within (Nat.add_le_add_right dataFits 2) accepted primed).mono
  rintro after ⟨settings, offered⟩
  have sent : after.transport.device.sent = channel.transport.device.sent ++ [_] :=
    offered.sent.trans (by rw [holds.sent])
  refine ⟨settings.trans stands.settings, ⟨_, offered⟩, ?_⟩
  rw [StreamDevice.commands_append counted sent, stands.commands]

theorem Stands.record (stands : Stands clockNs tickNs taken stream channel) (notice : Notice) :
    Stands clockNs tickNs taken stream (Host.record notice channel) := by
  obtain ⟨heard, holds⟩ := stands.holds
  exact ⟨stands.settings, ⟨heard, holds.record notice, holds.clock, holds.tick⟩, stands.commands⟩

theorem Stands.look (stands : Stands clockNs tickNs taken stream channel) :
    (Host.now channel).1 = clockNs ∧
      Stands (clockNs + tickNs) tickNs taken stream (Host.now channel).2 := by
  obtain ⟨heard, holds⟩ := stands.holds
  obtain rfl := holds.clock
  obtain rfl := holds.tick
  exact ⟨rfl, stands.settings, ⟨heard, ⟨holds.willing, holds.sent, holds.queue⟩, rfl, rfl⟩,
    stands.commands⟩

/-- The commands that a call on the link comes down to. -/
def commandsOf : LinkCall → List Bytes
  | .activated _ _ => [Command.samConfiguration, Command.initAsPeer]
  | .read _ => [Command.getData]
  | .written header body _ => [Command.setData header ++ body]

theorem Stands.activate {sam activation : Bytes}
    (stands : Stands clockNs tickNs taken
      (Reply.full 0x14 sam ++ (Reply.full 0x8C activation ++ stream)) channel)
    (samFits : sam.length ≤ 253) (activationFits : activation.length ≤ 253) (timeoutMs : Nat) :
    (Chip.activate timeoutMs (patience + 1) channel).Answers ()
      (Stands clockNs tickNs (taken ++ [Command.samConfiguration, Command.initAsPeer]) stream) := by
  have configured : (Chip.samConfiguration (patience + 1) channel).Answers ()
      (Stands clockNs tickNs (taken ++ [Command.samConfiguration])
        (Reply.full 0x8C activation ++ stream)) :=
    answers_bind (stands.askWithin channel.settings.timeoutMs (by decide) samFits)
      fun after stands => ⟨after, rfl, stands⟩
  have both : taken ++ [Command.samConfiguration, Command.initAsPeer] =
      taken ++ [Command.samConfiguration] ++ [Command.initAsPeer] := by
    simp
  rw [both]
  unfold Chip.activate
  apply answers_bind configured
  intro ready stands
  apply answers_bind (stands.askWithin timeoutMs (by decide) activationFits)
  intro activated stands
  exact ⟨_, rfl, stands.record _⟩

theorem Stands.getData {pdu : Bytes}
    (stands : Stands clockNs tickNs taken (Reply.full 0x86 (0x00 :: pdu) ++ stream) channel)
    (fits : pdu.length ≤ 252) :
    (Chip.getData (patience + 1) channel).Answers pdu
      (Stands clockNs tickNs (taken ++ [Command.getData]) stream) := by
  unfold Chip.getData
  apply answers_bind (stands.askWithin channel.settings.timeoutMs (by decide)
    (Nat.succ_le_succ fits))
  intro after stands
  exact ⟨after, rfl, stands⟩

theorem Stands.setData {header body : Bytes}
    (stands : Stands clockNs tickNs taken (Reply.full 0x8E [0x00] ++ stream) channel)
    (fits : (header ++ body).length ≤ 253) :
    (Chip.setData header body (patience + 1) channel).Answers ()
      (Stands clockNs tickNs (taken ++ [Command.setData header ++ body]) stream) := by
  rw [List.length_append] at fits
  unfold Chip.setData
  apply answers_bind (stands.askWithin channel.settings.timeoutMs fits (by decide))
  intro after stands
  exact ⟨after, rfl, stands⟩

/-! ### Staging a run -/

/-- The replies of the controller to these calls, one after the other. Only calls that succeeded
have a reply that says so. -/
inductive Staged : List LinkCall → Bytes → Prop where
  | nothing : Staged [] []
  | activated {calls : List LinkCall} {stream : Bytes} (timeoutMs : Nat) (sam activation : Bytes)
      (samFits : sam.length ≤ 253) (activationFits : activation.length ≤ 253)
      (rest : Staged calls stream) :
    Staged (.activated timeoutMs (.ok ()) :: calls)
      (Reply.full 0x14 sam ++ (Reply.full 0x8C activation ++ stream))
  | read {calls : List LinkCall} {stream : Bytes} (pdu : Bytes) (rest : Staged calls stream) :
    Staged (.read (.ok pdu) :: calls) (Reply.full 0x86 (0x00 :: pdu) ++ stream)
  | written {calls : List LinkCall} {stream : Bytes} (header body : Bytes)
      (rest : Staged calls stream) :
    Staged (.written header body (.ok ()) :: calls) (Reply.full 0x8E [0x00] ++ stream)

/-- The controller has replies to the calls to come, and will have taken these commands. -/
structure StandsIn (taken : List Bytes) (ahead : List LinkCall)
    (peer : Observed (Bench PeerScript)) (channel : Channel (Bench StreamDevice)) : Prop where
  stands : ∃ earlier stream,
    Stands peer.inner.clockNs peer.inner.tickNs earlier stream channel ∧ Staged ahead stream ∧
      taken = earlier ++ ahead.flatMap commandsOf
  readable : ∀ pdu ∈ heardIn ahead, pdu.length ≤ 252
  writable : ∀ frame ∈ sentIn ahead, frame.length ≤ 253

/-- A call that takes its own replies off the stream stands for the one of the peer. -/
theorem StandsIn.call {α : Type} {seen : Except Error α → LinkCall}
    {act : PeerScript → Except Error α × PeerScript}
    {image : Action (Channel (Bench StreamDevice)) α}
    {peer : Observed (Bench PeerScript)}
    (answers : ∀ {earlier stream ahead result channel},
      Stands peer.inner.clockNs peer.inner.tickNs earlier stream channel →
      Staged (seen result :: ahead) stream →
      (∀ pdu ∈ heardIn [seen result], pdu.length ≤ 252) →
      (∀ frame ∈ sentIn [seen result], frame.length ≤ 253) →
      ∃ answer rest, result = .ok answer ∧ Staged ahead rest ∧
        (image (patience + 1) channel).Answers answer
          (Stands peer.inner.clockNs peer.inner.tickNs (earlier ++ commandsOf (seen result))
            rest)) :
    (Observed.call seen (Bench.step act) (patience + 1) peer).IfEnds fun result after =>
      ∀ ahead channel, StandsIn taken (seen result :: ahead) peer channel →
        ∃ last, (image (patience + 1) channel).ended = some (result, last) ∧
          StandsIn taken ahead after last := by
  apply Observed.call_step.ifEnds.mono
  rintro result after ⟨-, same⟩ ahead channel ⟨⟨earlier, stream, stands, staged, total⟩, readable,
    writable⟩
  have heard := heardIn_append [seen result] ahead
  have sent := sentIn_append [seen result] ahead
  rw [List.singleton_append] at heard sent
  -- What holds of the calls to come holds of the next one and of those behind it.
  obtain ⟨answer, rest, rfl, staged, last, done, stands⟩ := answers stands staged
    (fun pdu member => readable pdu (by rw [heard]; exact List.mem_append_left _ member))
    (fun frame member => writable frame (by rw [sent]; exact List.mem_append_left _ member))
  refine ⟨last, by rw [done]; rfl,
    ⟨earlier ++ commandsOf (seen (.ok answer)), rest, ?_, staged, ?_⟩, ?_, ?_⟩
  · rw [same]
    exact stands
  · rw [total, List.flatMap_cons, List.append_assoc]
  · intro pdu member
    exact readable pdu (by rw [heard]; exact List.mem_append_right _ member)
  · intro frame member
    exact writable frame (by rw [sent]; exact List.mem_append_right _ member)

/-- The controller in the place of the scripted peer. -/
def refinement (taken : List Bytes) :
    Refinement (Observed (Bench PeerScript)) (Channel (Bench StreamDevice)) where
  recording := PeerScript.recording
  alike := StandsIn taken
  noted := by
    intro ahead peer channel standsIn notice
    obtain ⟨earlier, stream, stands, staged, same⟩ := standsIn.stands
    exact ⟨⟨earlier, stream, stands.record notice, staged, same⟩, standsIn.readable,
      standsIn.writable⟩
  looked := by
    intro ahead peer channel standsIn
    obtain ⟨earlier, stream, stands, staged, same⟩ := standsIn.stands
    obtain ⟨instant, stays⟩ := stands.look
    exact ⟨instant, ⟨earlier, stream, stays, staged, same⟩, standsIn.readable, standsIn.writable⟩
  activated timeoutMs patience peer := by
    apply StandsIn.call
    intro earlier stream ahead result channel stands staged _ _
    cases staged with
    | activated _ sam activation samFits activationFits rest =>
      exact ⟨(), _, rfl, rest, stands.activate samFits activationFits timeoutMs⟩
  read patience peer := by
    apply StandsIn.call
    intro earlier stream ahead result channel stands staged readable _
    cases staged with
    | read pdu rest =>
      exact ⟨pdu, _, rfl, rest, stands.getData (readable pdu (by simp [heardIn]))⟩
  written header body patience peer := by
    apply StandsIn.call
    intro earlier stream ahead result channel stands staged _ writable
    cases staged with
    | written _ _ rest =>
      exact ⟨(), _, rfl, rest, stands.setData (writable _ (by simp [sentIn]))⟩

/-- A session with a scripted peer, in which every call on the link succeeds, goes the same way
through a controller whose stream holds the replies to these calls: the same results, the same
connection, nothing left of the stream, and the commands that the calls come down to. -/
theorem attend_through_controller {script : List Bytes} {requests : List Request}
    {clockNs tickNs patience : Nat} {settings : LinkSettings} {connection : Connection}
    {results : List (Except Error (Option Bytes))} {last : Endpoint (Observed (Bench PeerScript))}
    (attended : attend requests (patience + 1)
      { link := { inner := { device := { inbound := script.map .ok }, clockNs, tickNs } },
        settings, connection } = .done results last)
    (readable : ∀ pdu ∈ script, pdu.length ≤ 252)
    (writable : ∀ frame ∈ last.link.inner.device.written, frame.length ≤ 253)
    {channel : Channel (Bench StreamDevice)} (default : channel.settings = {})
    (willing : channel.transport.device.Willing)
    (clock : channel.transport.clockNs = clockNs) (tick : channel.transport.tickNs = tickNs)
    (staged : Staged last.link.calls channel.transport.device.queue) :
    ∃ after, attend requests (patience + 1) { link := channel, settings, connection } =
        .done results after ∧
      after.connection = last.connection ∧ after.link.transport.device.queue = [] ∧
      after.link.transport.device.commands =
        channel.transport.device.commands ++ last.link.calls.flatMap commandsOf := by
  let taken := channel.transport.device.commands ++ last.link.calls.flatMap commandsOf
  have mirrors : (refinement taken).Mirrors patience (attend requests) (attend requests) :=
    ((refinement taken).correspondence patience).attend requests
  obtain ⟨calls, ⟨seen, played⟩, follows⟩ :=
    (ifEnds_iff _ _).mp (mirrors _) (.ok results) last (by rw [attended]; rfl)
  obtain rfl : last.link.calls = calls := seen
  obtain ⟨left, served, -, written⟩ := played.served ⟨rfl, rfl, rfl⟩
  have heard : ∀ pdu ∈ heardIn last.link.calls, pdu.length ≤ 252 := by
    intro pdu member
    exact readable pdu (served.heard ▸ List.mem_append_left left member)
  have sent : ∀ frame ∈ sentIn last.link.calls, frame.length ≤ 253 := by
    intro frame member
    exact writable frame (written ▸ member)
  have holds : StreamDevice.HoldsAt clockNs tickNs channel.transport.device.sent
      [channel.transport.device.queue] channel.transport :=
    ⟨⟨willing, rfl, by simp⟩, clock, tick⟩
  have stands : Stands clockNs tickNs channel.transport.device.commands
      channel.transport.device.queue channel :=
    ⟨default, ⟨_, holds⟩, rfl⟩
  rw [← List.append_nil last.link.calls] at staged heard sent
  obtain ⟨after, ended, alike⟩ := follows [] { link := channel, settings, connection }
    ⟨⟨⟨_, _, stands, staged, by rw [List.append_nil]⟩, heard, sent⟩, rfl, rfl⟩
  obtain ⟨earlier, stream, standing, none, total⟩ := alike.link.stands
  obtain ⟨heard, holds⟩ := standing.holds
  cases none
  refine ⟨after, ended_eq_ok_iff.mp ended, alike.connection, ?_, ?_⟩
  · rw [holds.queue]
    rfl
  · rw [standing.commands]
    simpa using total.symm

/-- A connection is accepted and one octet received on it, seen from the peer and from the
controller. -/
theorem attend_through_controller_one_octet :
    let connect := Reply.pdu 0x04 .connect 0x20
    let information := Reply.information 0x04 0x20 0 0 [0x61]
    let requests : List Request :=
      [.perform (.activate 0), .perform (.accept 1000), .perform .receive]
    let stream := Reply.full 0x14 [] ++ (Reply.full 0x8C [0x25] ++
      (Reply.full 0x86 (0x00 :: connect) ++ (Reply.full 0x8E [0x00] ++
        (Reply.full 0x86 (0x00 :: information) ++ (Reply.full 0x8E [0x00] ++ [])))))
    let channel : Channel (Bench StreamDevice) := { transport := { device := { queue := stream } } }
    ∃ after, attend requests 1 { link := channel } = .done [.ok none, .ok none, .ok (some [0x61])]
        after ∧
      after.connection.nr = 1 ∧ after.link.transport.device.queue = [] ∧
      after.link.transport.device.commands =
        [Command.samConfiguration, Command.initAsPeer, Command.getData,
          Command.setData [0x81, 0x84], Command.getData, Command.setData [0x83, 0x44, 0x01]] := by
  intro connect information requests stream channel
  let peer : Observed (Bench PeerScript) :=
    { inner := { device := { inbound := [connect, information].map .ok } } }
  let results : List (Except Error (Option Bytes)) := [.ok none, .ok none, .ok (some [0x61])]
  let calls : List LinkCall := [.activated 0 (.ok ()), .read (.ok connect),
    .written [0x81, 0x84] [] (.ok ()), .read (.ok information),
    .written [0x83, 0x44, 0x01] [] (.ok ())]
  have runs : (attend requests 1 { link := peer }).ended.any (fun (result, last) =>
      decide (result = .ok results) && decide (last.connection.nr = 1) &&
        decide (last.link.calls = calls) &&
        decide (last.link.inner.device.written = sentIn calls)) = true := by
    decide +kernel
  obtain ⟨⟨_, last⟩, ended, summary⟩ := (Option.any_eq_true ..).mp runs
  simp only [Bool.and_eq_true, decide_eq_true_eq] at summary
  obtain ⟨⟨⟨rfl, number⟩, seen⟩, written⟩ := summary
  have staged : Staged last.link.calls channel.transport.device.queue := by
    rw [seen]
    exact .activated 0 [] [0x25] (by decide) (by decide)
      (.read connect (.written _ [] (.read information (.written _ [] .nothing))))
  have short : ∀ pdu ∈ [connect, information], pdu.length ≤ 252 := by decide
  have brief : ∀ frame ∈ last.link.inner.device.written, frame.length ≤ 253 := by
    rw [written]
    decide
  obtain ⟨after, done, same, rest, commands⟩ :=
    attend_through_controller (ended_eq_ok_iff.mp ended) short brief rfl ⟨rfl, rfl, rfl⟩ rfl rfl
      staged
  refine ⟨after, done, by rw [same, number], rest, ?_⟩
  rw [commands, seen]
  rfl

end Chip

end NfcLink
