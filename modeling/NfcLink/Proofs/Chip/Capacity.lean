import NfcLink.Proofs.Chip.Turns
import NfcLink.Proofs.Snep.Visit

/-!
# How long an object may be

One length octet counts what a frame holds, in either direction. A command that sends a PDU
spends two of the counted octets besides the PDU. A reply that brings one spends three, for it
opens with a status. So the longest object that is pushed is one octet too long to be pulled.
-/
namespace NfcLink

open NfcLink.Action Outcome

/-! ### Commands -/

/-- Calls that send short PDUs come down to commands that fit their frames. -/
theorem Chip.encode_commandsOf {calls : List LinkCall}
    (brief : ∀ {header body}, Said calls header body → (header ++ body).length ≤ 253) :
    ∀ command ∈ calls.flatMap Chip.commandsOf, ∃ wire, Frame.encode command [] = .ok wire := by
  intro command member
  obtain ⟨call, made, member⟩ := List.mem_flatMap.mp member
  -- Only what a PDU is sent with can be long.
  have fits : command.length < Frame.maxCounted := by
    cases call with
    | activated timeoutMs result =>
      rcases List.mem_cons.mp member with rfl | member
      · decide
      · obtain rfl := List.mem_singleton.mp member
        decide
    | read result =>
      obtain rfl := List.mem_singleton.mp member
      decide
    | written header body result =>
      have within := brief ⟨result, made⟩
      obtain rfl := List.mem_singleton.mp member
      simp only [Command.setData, Frame.maxCounted, List.cons_append, List.length_cons]
      omega
  exact ⟨_, Frame.encodeFrom_of_fits Frame.fromHost command [] fits⟩

/-! ### Replies -/

/-- What of the data does not fit is not in the reply. -/
theorem Reply.full_take (command : UInt8) (data : Bytes) :
    Reply.full command (data.take 253) = Reply.full command data := by
  have cut : (data.take 253).take (Frame.maxCounted - 2) = data.take (Frame.maxCounted - 2) := by
    rw [List.take_take]
    rfl
  rw [Reply.full, Reply.full, Reply.response, Reply.response, cut]

namespace Chip

theorem exchangeReplies_cut (pdus : List Bytes) :
    exchangeReplies (pdus.map (List.take 252)) = exchangeReplies pdus := by
  unfold exchangeReplies
  rw [List.flatMap_map]
  congr 1
  funext pdu
  exact congrArg (· ++ _) (Reply.full_take 0x86 (0x00 :: pdu))

end Chip

/-! ### The object in a reply -/

namespace Snep

/-- The longest object that a reply brings: identifier, response code, status, PDU header and
message header take twelve of the counted octets. -/
def maxPulled : Nat := 243

theorem readRequest_cut (acceptShifted : Bool) {object : Bytes} (fits : object.length ≤ maxObject) :
    readRequest acceptShifted (header putRequest object.length ++ object.take maxPulled) =
      if object.length ≤ maxPulled then .ok object
      else .error (.payloadTooLarge object.length maxPulled) := by
  have counted : object.length < 4294967296 := Nat.lt_of_le_of_lt fits (by decide)
  split
  next short =>
    rw [List.take_of_length_le short]
    exact readRequest_putRequest acceptShifted counted
  next long =>
    have taken : (object.take maxPulled).length = maxPulled :=
      List.length_take_of_le (Nat.le_of_not_ge long)
    have cut : (object.take maxPulled).length < object.length := by
      rw [taken]
      exact Nat.lt_of_not_ge long
    rw [readRequest_of_cut acceptShifted counted cut, taken]

/-- What a reply brings of the request of a push. -/
theorem putFrame_take (object : Bytes) :
    (putFrame object).take 252 =
      PduHeader.encode ⟨exchangeService, .information, initiatorAddress, some (0, 0)⟩ ++
        (header putRequest object.length ++ object.take maxPulled) := by
  simp only [putFrame, List.append_assoc, List.take_append, PduHeader.encode_length, header_length]
  rfl

namespace Visit

variable {settings : LinkSettings} (visit : Visit settings)

/-- Only the request can be too long for its reply. -/
theorem script_cut (short : ∀ pdu ∈ visit.opening ++ visit.closing, pdu.length ≤ 252)
    (request : Bytes) :
    (visit.script request).map (List.take 252) = visit.script (request.take 252) := by
  have whole {pdus : List Bytes} (among : pdus ⊆ visit.opening ++ visit.closing) :
      pdus.map (List.take 252) = pdus :=
    (List.map_congr_left fun pdu member => List.take_of_length_le (short pdu (among member))).trans
      (List.map_id pdus)
  rw [script, List.map_append, List.map_cons, whole (List.subset_append_left ..),
    whole (List.subset_append_right ..)]
  rfl

end Visit

end Snep

namespace Chip

/-- Replies that bring the request to put an object, on a clock that comes to no deadline while they
are taken. -/
structure Brings {settings : LinkSettings} (visit : Snep.Visit settings) (object : Bytes)
    (timeoutMs : Nat) (channel : Channel (Bench StreamDevice)) : Prop where
  default : channel.settings = {}
  willing : channel.transport.device.Willing
  short : ∀ pdu ∈ visit.opening ++ visit.closing, pdu.length ≤ 252
  replies : ∃ sam activation, sam.length ≤ 253 ∧ activation.length ≤ 253 ∧
    channel.transport.device.queue = Reply.full 0x14 sam ++
      (Reply.full 0x8C activation ++ exchangeReplies (visit.script (Snep.putFrame object)))
  timely : ∀ limit ∈ [timeoutMs, settings.transferTimeoutMs], limit ≠ 0 →
    ((visit.script (Snep.putFrame object)).length + 2) * channel.transport.tickNs <
      limit * nanosecondsPerMillisecond

theorem Brings.pullWithin_ends {settings : LinkSettings} {visit : Snep.Visit settings}
    {object : Bytes} {timeoutMs : Nat} {channel : Channel (Bench StreamDevice)}
    (brings : Brings visit object timeoutMs channel) (fits : object.length ≤ Snep.maxObject)
    (acceptShifted : Bool) (connection : Connection) {patience : Nat}
    (enough : (visit.script (Snep.putFrame object)).length < patience) :
    ∃ after, (Snep.pullWithin acceptShifted timeoutMs patience
        { link := channel, settings, connection }).ended =
      some (if object.length ≤ Snep.maxPulled then .ok object
        else .error (.payloadTooLarge object.length Snep.maxPulled), after) := by
  obtain ⟨sam, activation, samFits, activationFits, replies⟩ := brings.replies
  obtain ⟨patience, rfl⟩ := Nat.exists_eq_succ_of_ne_zero (Nat.ne_of_gt (Nat.zero_lt_of_lt enough))
  -- Of a request that is too long the replies bring the first octets only, so a peer that sends no
  -- more of it stands behind the same replies.
  let carried : PduHeader := ⟨exchangeService, .information, initiatorAddress, some (0, 0)⟩
  let request := Snep.header Snep.putRequest object.length ++ object.take Snep.maxPulled
  let pdu := carried.encode ++ request
  have cut : (visit.script (Snep.putFrame object)).map (List.take 252) = visit.script pdu :=
    (visit.script_cut brings.short _).trans (congrArg visit.script (Snep.putFrame_take object))
  have readable : ∀ frame ∈ visit.script pdu, frame.length ≤ 252 := by
    rw [← cut]
    intro frame member
    obtain ⟨whole, -, rfl⟩ := List.mem_map.mp member
    exact List.length_take_le ..
  have timely := brings.timely
  rw [← List.length_map, cut] at enough timely
  rw [← exchangeReplies_cut, cut] at replies
  have informs : PduHeader.typeOf pdu = .ok .information :=
    PduHeader.typeOf_encode carried request rfl
  have carries : PduHeader.split pdu = .ok (carried, request) :=
    PduHeader.split_encode carried request ⟨rfl, rfl⟩
  obtain ⟨last, ended, unread, writable⟩ :=
    visit.pullWithin_scripted informs carries rfl enough timely connection PduHeader.symm.encode
  rw [← Snep.readRequest_cut acceptShifted fits]
  exact pullWithin_of_peer ended unread readable writable brings.default brings.willing rfl rfl
    samFits activationFits replies

end Chip

/-- Whatever the link does, every command that pushing an object needs fits its frame, and every
information PDU that is sent is the one that carries the object. From a controller whose replies
bring that PDU a pull takes an object of up to 243 octets. The one octet more that can be pushed
does not fit the reply: it is cut off, and the pull fails because it is missing. -/
theorem objects_pulled_through_controller (object : Bytes) (fits : object.length ≤ Snep.maxObject) :
    (∀ {σ : Type} [Host σ] [PeerLink σ] (before : Endpoint (Observed σ)) (timeoutMs patience : Nat)
      (result : Except Error Unit) (after : Endpoint (Observed σ)),
      (Snep.pushWithin object timeoutMs patience before).ended = some (result, after) →
      ∃ calls, after.link.calls = before.link.calls ++ calls ∧
        (∀ command ∈ calls.flatMap Chip.commandsOf, ∃ wire, Frame.encode command [] = .ok wire) ∧
        ∀ pdu ∈ informedIn calls, pdu = Snep.putFrame object) ∧
    (∀ {settings : LinkSettings} (visit : Snep.Visit settings) (timeoutMs : Nat)
      (channel : Channel (Bench StreamDevice)), Chip.Brings visit object timeoutMs channel →
      ∀ (acceptShifted : Bool) (connection : Connection) (patience : Nat),
      (visit.script (Snep.putFrame object)).length < patience →
      let pulled := Snep.pullWithin acceptShifted timeoutMs patience
        { link := channel, settings, connection }
      (object.length ≤ 243 → ∃ after, pulled = .done object after) ∧
      (object.length = 244 → ∃ after, pulled = .failed (.payloadTooLarge 244 243) after)) := by
  constructor
  · intro σ _ _ before timeoutMs patience result after ended
    obtain ⟨calls, seen, pushes⟩ := (ifEnds_iff _ _).mp
      (Recording.observed.pushWithin_pushes object timeoutMs) result after ended
    exact ⟨calls, seen, Chip.encode_commandsOf pushes.said_length_le, pushes.informs⟩
  · intro settings visit timeoutMs channel brings acceptShifted connection patience enough pulled
    obtain ⟨after, ended⟩ := brings.pullWithin_ends fits acceptShifted connection enough
    constructor
    · intro short
      have within : object.length ≤ Snep.maxPulled := short
      rw [if_pos within] at ended
      exact ⟨after, ended_eq_ok_iff.mp ended⟩
    · intro longest
      have long : ¬ object.length ≤ Snep.maxPulled := by
        rw [longest]
        decide
      rw [if_neg long, longest] at ended
      exact ⟨after, ended_eq_error_iff.mp ended⟩

/-- A peer that brings an object and sends one SYMM, to pass the turn. -/
def plainVisit : Snep.Visit {} where
  connect := Reply.pdu exchangeService .connect initiatorAddress
  turn := Reply.pdu 0 .symm 0
  receiveReady := Reply.receiveReady exchangeService initiatorAddress 1
  beforeConnect := []
  beforeRequest := []
  beforeReady := []
  connects := rfl
  parses := ⟨_, _, rfl⟩
  pass := rfl
  acknowledges := rfl
  absorbed := by
    intro symms member
    obtain rfl : symms = [] := by simpa using member
    exact ⟨LinkSettings.allows_of_uncapped rfl 0, List.forall_mem_nil _⟩

/-- A controller that was visited by such a peer. -/
def visitedController (object : Bytes) : Channel (Bench StreamDevice) :=
  let replies := Reply.full 0x14 [] ++ (Reply.full 0x8C [0x25] ++
    Chip.exchangeReplies (plainVisit.script (Snep.putFrame object)))
  { transport := { device := { queue := replies } } }

theorem visitedController_brings (object : Bytes) :
    Chip.Brings plainVisit object 1000 (visitedController object) where
  default := rfl
  willing := ⟨rfl, rfl, rfl⟩
  short := by decide
  replies := ⟨[], [0x25], by decide, by decide, rfl⟩
  timely := by
    intro limit member bounded
    exact Nat.mul_pos (Nat.pos_of_ne_zero bounded) (by decide)

/-- A push of 244 octets succeeds, and a pull fails when it is brought the PDU that was sent. -/
theorem longest_object_is_pushed_only :
    let object : Bytes := List.replicate 244 0x78
    object.length ≤ Snep.maxObject ∧
    (∃ after, Snep.pushWithin object 1000 9 { link := takingPeer } = .done () after ∧
      informedIn after.link.calls = [Snep.putFrame object]) ∧
    ∃ after, Snep.pullWithin true 1000 9 { link := visitedController object } =
      .failed (.payloadTooLarge 244 243) after := by
  intro object
  have length : object.length = 244 := List.length_replicate
  have fits : object.length ≤ Snep.maxObject := Nat.le_of_eq length
  refine ⟨fits, ?_, ?_⟩
  · have ends : (Snep.pushWithin object 1000 9 { link := takingPeer }).ended.map
        (fun (result, after) => (result.toOption, informedIn after.link.calls)) =
          some (some (), [Snep.putFrame object]) := by
      decide +kernel
    obtain ⟨⟨_ | answer, after⟩, ended, summary⟩ := Option.map_eq_some_iff.mp ends
    · cases summary
    · exact ⟨after, ended_eq_ok_iff.mp ended, congrArg Prod.snd summary⟩
  · obtain ⟨after, ended⟩ := (visitedController_brings object).pullWithin_ends fits true {}
      (by decide : _ < 9)
    have long : ¬ object.length ≤ Snep.maxPulled := by
      rw [length]
      decide
    rw [if_neg long, length] at ended
    exact ⟨after, ended_eq_error_iff.mp ended⟩

/-- An object of 243 octets and one of 244. -/
theorem objects_pulled_from_visitedController :
    let shorter : Bytes := List.replicate 243 0x78
    let longest : Bytes := List.replicate 244 0x78
    shorter.length ≤ Snep.maxObject ∧ longest.length ≤ Snep.maxObject ∧
    (∃ after, (Snep.pushWithin longest 1000 9 { link := takingPeer }).ended = some (.ok (), after) ∧
      (∀ command ∈ after.link.calls.flatMap Chip.commandsOf,
        ∃ wire, Frame.encode command [] = .ok wire) ∧
      ∀ pdu ∈ informedIn after.link.calls, pdu = Snep.putFrame longest) ∧
    (∃ after, Snep.pullWithin true 1000 9 { link := visitedController shorter } =
      .done shorter after) ∧
    ∃ after, Snep.pullWithin true 1000 9 { link := visitedController longest } =
      .failed (.payloadTooLarge 244 243) after := by
  intro shorter longest
  have length₁ : shorter.length = 243 := List.length_replicate
  have length₂ : longest.length = 244 := List.length_replicate
  have fits₁ : shorter.length ≤ Snep.maxObject := by
    rw [length₁]
    decide
  have fits₂ : longest.length ≤ Snep.maxObject := Nat.le_of_eq length₂
  obtain ⟨-, brought⟩ := objects_pulled_through_controller shorter fits₁
  obtain ⟨pushed, cut⟩ := objects_pulled_through_controller longest fits₂
  have ends : (Snep.pushWithin longest 1000 9 { link := takingPeer }).ended.map
      (fun (result, _) => result.toOption) = some (some ()) := by
    decide +kernel
  obtain ⟨⟨_ | answer, after⟩, ended, ⟨⟩⟩ := Option.map_eq_some_iff.mp ends
  obtain ⟨calls, seen, commands, informs⟩ := pushed _ 1000 9 _ after ended
  obtain rfl : after.link.calls = calls := seen
  refine ⟨fits₁, fits₂, ⟨after, ended, commands, informs⟩, ?_, ?_⟩
  · have pulls := brought plainVisit 1000 _ (visitedController_brings shorter) true {} 9 (by decide)
    exact pulls.1 (Nat.le_of_eq length₁)
  · have pulls := cut plainVisit 1000 _ (visitedController_brings longest) true {} 9 (by decide)
    exact pulls.2 length₂

end NfcLink
