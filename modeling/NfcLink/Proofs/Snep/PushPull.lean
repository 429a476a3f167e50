import NfcLink.Proofs.Llcp.Exchange
import NfcLink.Proofs.Llcp.Script
import NfcLink.Proofs.Snep.Reception

/-!
# Pushing and pulling

The frames that a push writes are those that a pull waits for, and the other way
round, so that each side brings the other to its end.
-/
namespace NfcLink

open NfcLink.Action Outcome

/-- These frames in this order, any number of SYMMs before each of them, and anything after the
last. -/
inductive Padded : List Bytes → List Bytes → Prop where
  | done (rest : List Bytes) : Padded [] rest
  | symm {frames script : List Bytes} {turn : Bytes} :
    IsSymm turn → Padded frames script → Padded frames (turn :: script)
  | next {frames script : List Bytes} (frame : Bytes) :
    Padded frames script → Padded (frame :: frames) (frame :: script)

theorem Padded.split {frame : Bytes} {frames script : List Bytes}
    (padded : Padded (frame :: frames) script) :
    ∃ symms later, script = symms ++ frame :: later ∧ (∀ symm ∈ symms, IsSymm symm) ∧
      Padded frames later := by
  generalize whole : frame :: frames = all at padded
  -- The index is generalized, because a SYMM in front does not change the frames.
  induction padded with
  | done rest => cases whole
  | symm turn padded ih =>
    obtain ⟨symms, later, rfl, absorbed, padded⟩ := ih whole
    refine ⟨_ :: symms, later, rfl, ?_, padded⟩
    intro symm member
    rcases List.mem_cons.mp member with rfl | member
    · exact turn
    · exact absorbed symm member
  | next other padded =>
    cases whole
    exact ⟨[], _, rfl, fun symm member => (nomatch member), padded⟩

/-- If the first of the frames is a SYMM itself, the script opens with one. -/
theorem Padded.turn {turn frame : Bytes} {frames script : List Bytes} (pass : IsSymm turn)
    (padded : Padded (turn :: frame :: frames) script) :
    ∃ symm symms later, script = symm :: (symms ++ frame :: later) ∧ IsSymm symm ∧
      (∀ symm ∈ symms, IsSymm symm) ∧ Padded frames later := by
  obtain ⟨before, later, rfl, first, following⟩ := padded.split
  obtain ⟨between, rest, rfl, second, final⟩ := following.split
  cases before with
  | nil => exact ⟨turn, between, rest, rfl, pass, second, final⟩
  | cons symm before =>
    refine ⟨symm, before ++ turn :: between, rest, ?_, first symm List.mem_cons_self, ?_, final⟩
    · simp
    · intro other member
      rcases List.mem_append.mp member with member | member
      · exact first other (List.mem_cons_of_mem symm member)
      · rcases List.mem_cons.mp member with rfl | member
        · exact pass
        · exact second other member

namespace Snep

/-! ### The frames of both sides -/

/-- The connect of a push. -/
def connectFrame : Bytes :=
  PduHeader.encode ⟨exchangeService, .connect, initiatorAddress, none⟩ ++
    serviceNameParameter :: UInt8.ofNat serviceName.length :: serviceName

/-- The request of a push. -/
def putFrame (object : Bytes) : Bytes :=
  PduHeader.encode ⟨exchangeService, .information, initiatorAddress, some (0, 0)⟩ ++
    header putRequest object.length ++ object

/-- How a pull accepts the connection of a push. -/
def acceptFrame : Bytes := PduHeader.encode ⟨initiatorAddress, .cc, exchangeService, none⟩

/-- How a pull acknowledges the request of a push. -/
def acknowledgeFrame : Bytes :=
  PduHeader.encode ⟨initiatorAddress, .receiveReady, exchangeService, some (0, 1)⟩

/-- How a pull reports success. -/
def successFrame : Bytes :=
  PduHeader.encode ⟨initiatorAddress, .information, exchangeService, some (0, 1)⟩ ++
    header success 0

theorem typeOf_successFrame : PduHeader.typeOf successFrame = .ok .information :=
  PduHeader.typeOf_encode _ _ rfl

theorem split_successFrame :
    PduHeader.split successFrame =
      .ok (⟨initiatorAddress, .information, exchangeService, some (0, 1)⟩, header success 0) :=
  PduHeader.split_encode _ _ ⟨rfl, rfl⟩

theorem typeOf_connectFrame : PduHeader.typeOf connectFrame = .ok .connect :=
  PduHeader.typeOf_encode _ _ rfl

theorem split_connectFrame :
    PduHeader.split connectFrame =
      .ok (⟨exchangeService, .connect, initiatorAddress, none⟩,
        serviceNameParameter :: UInt8.ofNat serviceName.length :: serviceName) :=
  PduHeader.split_encode _ _ ⟨rfl, rfl⟩

theorem split_putFrame (object : Bytes) :
    PduHeader.split (putFrame object) =
      .ok (⟨exchangeService, .information, initiatorAddress, some (0, 0)⟩,
        header putRequest object.length ++ object) := by
  rw [putFrame, List.append_assoc]
  exact PduHeader.split_encode _ _ ⟨rfl, rfl⟩

theorem typeOf_putFrame (object : Bytes) :
    PduHeader.typeOf (putFrame object) = .ok .information := by
  rw [putFrame, List.append_assoc]
  exact PduHeader.typeOf_encode _ _ rfl

variable {σ : Type} [Host σ] [PeerLink σ] {timeouts : List Nat} {delivery : Delivery σ timeouts}
variable {settings : LinkSettings} {connection : Connection} {endpoint : Endpoint σ}
variable {patience : Nat} {script : List Bytes}

/-! ### Both runs -/

theorem pushWithin_answers (object : Bytes) (fits : object.length ≤ maxObject) {timeoutMs : Nat}
    (connects : timeoutMs ∈ timeouts) (transfers : settings.transferTimeoutMs ∈ timeouts)
    (uncapped : settings.maxSymm = none) {turn receiveReady : Bytes} (pass : IsSymm turn)
    (acknowledges : PduHeader.typeOf receiveReady = .ok .receiveReady)
    (padded : Padded [turn, acceptFrame, receiveReady, successFrame] script)
    (enough : script.length < patience)
    (stands : delivery.Stands settings (script.length + 4) script [] connection endpoint) :
    (pushWithin object timeoutMs patience endpoint).Answers ()
      (delivery.Sent [connectFrame, putFrame object]) := by
  obtain ⟨symm, first, later, rfl, passes, absorbed₁, padded₁⟩ := padded.turn pass
  obtain ⟨second, later, rfl, absorbed₂, padded₂⟩ := padded₁.split
  obtain ⟨third, rest, rfl, absorbed₃, -⟩ := padded₂.split
  simp only [List.length_cons, List.length_append] at enough
  have allowed := LinkSettings.allows_of_uncapped uncapped
  have room : ¬ object.length > maxObject := Nat.not_lt_of_ge fits
  -- A wait looks at the clock once to set its deadline and once for each frame it reads. The last
  -- operation, the release, may read all of the rest and find its end.
  have looks : first.length + 1 + (second.length + 1 + (third.length + 1 + (rest.length + 1 + 1) +
      1) + 1) + 1 ≤ (symm :: (first ++ acceptFrame :: (second ++ receiveReady ::
        (third ++ successFrame :: rest)))).length + 4 := by
    simp only [List.length_cons, List.length_append]
    omega
  unfold pushWithin
  rw [if_neg room]
  apply answers_bind (stands.fewer looks).activate
  intro state stands
  apply answers_bind (stands.connect (allowed _) absorbed₁ (by omega) connects passes rfl)
  intro state stands
  rw [note_bind]
  have initiates : Role.initiator ≠ .target := by decide
  apply answers_bind ((stands.record _).transmit (allowed _) absorbed₂ (by omega) transfers rfl []
    (fun target => absurd target initiates) (fun _ => rfl) acknowledges _ object)
  intro state stands
  apply answers_bind (stands.receive (allowed _) absorbed₃ (by omega) transfers rfl
    typeOf_successFrame split_successFrame rfl)
  intro state stands
  rw [expectSuccess_success, lift_ok_bind]
  have outlasts : rest.length < patience := by omega
  obtain ⟨result, released⟩ := attempt_answers (stands.release_ends transfers rfl outlasts)
  apply answers_bind released
  intro state sent
  cases result with
  | ok _ => exact ⟨state, rfl, sent.earlier⟩
  | error error => exact ⟨_, rfl, (sent.record _).earlier⟩

theorem pullWithin_answers (object : Bytes) (fits : object.length ≤ maxObject)
    (acceptShifted : Bool) {timeoutMs : Nat} (accepts : timeoutMs ∈ timeouts)
    (transfers : settings.transferTimeoutMs ∈ timeouts) (uncapped : settings.maxSymm = none)
    {turn receiveReady : Bytes} (pass : IsSymm turn)
    (acknowledges : PduHeader.typeOf receiveReady = .ok .receiveReady)
    (padded : Padded [connectFrame, putFrame object, turn, receiveReady] script)
    (enough : script.length < patience)
    (stands : delivery.Stands settings (script.length + 4) script [] connection endpoint) :
    (pullWithin acceptShifted timeoutMs patience endpoint).Answers object
      (delivery.Sent [acceptFrame, acknowledgeFrame, successFrame]) := by
  obtain ⟨first, later, rfl, absorbed₁, padded₁⟩ := padded.split
  obtain ⟨second, later, rfl, absorbed₂, padded₂⟩ := padded₁.split
  obtain ⟨symm, third, rest, rfl, passes, absorbed₃, -⟩ := padded₂.turn pass
  simp only [List.length_cons, List.length_append] at enough
  have allowed := LinkSettings.allows_of_uncapped uncapped
  have looks : first.length + 1 +
      (second.length + 1 + (third.length + 1 + rest.length + 1) + 1) + 1 ≤
      (first ++ connectFrame :: (second ++ putFrame object ::
        (symm :: (third ++ receiveReady :: rest)))).length + 4 := by
    simp only [List.length_cons, List.length_append]
    omega
  have counted : object.length < 4294967296 := Nat.lt_of_le_of_lt fits (by decide)
  rw [pullWithin_eq]
  apply answers_bind (hearRequest_answers accepts transfers absorbed₁ absorbed₂ (allowed _)
    (allowed _) (by omega) (by omega) typeOf_connectFrame split_connectFrame
    (typeOf_putFrame object) (split_putFrame object) rfl (stands.fewer looks))
  intro state stands
  have reads := readRequest_putRequest acceptShifted counted
  apply (answerRequest_answers reads transfers rfl rfl passes (allowed _) absorbed₃ (by omega)
    acknowledges stands).mono
  intro state stands
  exact stands.sent

/-! ### Both sides together -/

/-- For every object there are five frames of which each side writes its own and waits for those of
the other. Where a link delivers the accepting frame, a receive-ready and the report of success, on
our turn and among any number of SYMMs, the push succeeds, and its first two PDUs are the connect
and the request. Where a link delivers these two, a turn and a receive-ready, the pull answers the
object, and its PDUs are the other three. The clock is looked at no more than once for each frame
and once for each of four deadlines. -/
theorem push_fits_pull (object : Bytes) (fits : object.length ≤ maxObject) :
    ∃ connect request accept acknowledge success : Bytes,
      (∀ {σ : Type} [Host σ] [PeerLink σ] (settings : SnepSettings) (endpoint : Endpoint σ)
        (delivery : Delivery σ [settings.timeoutMs, endpoint.settings.transferTimeoutMs])
        (turn receiveReady : Bytes) (script : List Bytes) (patience : Nat),
        endpoint.settings.maxSymm = none → IsSymm turn →
        PduHeader.typeOf receiveReady = .ok .receiveReady →
        Padded [turn, accept, receiveReady, success] script →
        delivery.holds (script.length + 4) script [] endpoint.link → script.length < patience →
        (push settings object patience endpoint).Answers ()
          (delivery.Sent [connect, request])) ∧
      (∀ {σ : Type} [Host σ] [PeerLink σ] (settings : SnepSettings) (endpoint : Endpoint σ)
        (delivery : Delivery σ [settings.timeoutMs, endpoint.settings.transferTimeoutMs])
        (turn receiveReady : Bytes) (script : List Bytes) (patience : Nat),
        endpoint.settings.maxSymm = none → IsSymm turn →
        PduHeader.typeOf receiveReady = .ok .receiveReady →
        Padded [connect, request, turn, receiveReady] script →
        delivery.holds (script.length + 4) script [] endpoint.link → script.length < patience →
        (pull settings patience endpoint).Answers object
          (delivery.Sent [accept, acknowledge, success])) := by
  refine ⟨connectFrame, putFrame object, acceptFrame, acknowledgeFrame, successFrame, ?_, ?_⟩
  · intro σ _ _ settings endpoint delivery turn receiveReady script patience uncapped pass
      acknowledges padded delivered enough
    exact pushWithin_answers object fits List.mem_cons_self (by simp) uncapped pass acknowledges
      padded enough ⟨⟨[], delivered, rfl⟩, rfl, rfl⟩
  · intro σ _ _ settings endpoint delivery turn receiveReady script patience uncapped pass
      acknowledges padded delivered enough
    exact pullWithin_answers object fits settings.acceptShifted List.mem_cons_self (by simp)
      uncapped pass acknowledges padded enough ⟨⟨[], delivered, rfl⟩, rfl, rfl⟩

/-- An object that looks like a request with stray octets in front, on a clock that moves by a
millisecond with every look at it. -/
theorem push_fits_pull_for_shifted_object :
    let object : Bytes := [0x00, 0x00, 0x00, 0x00, 0x10, 0x02]
    let symm : Bytes := PduHeader.symm.encode
    let receiveReady : Bytes := [0x83, 0x44, 0x01]
    let peer (script : List Bytes) : Endpoint (Bench PeerScript) :=
      { link := { device := { inbound := script.map .ok }, tickNs := 1000000 } }
    object.length ≤ maxObject ∧ ∃ connect request accept acknowledge success : Bytes,
      (∃ after, push {} object 9 (peer [symm, symm, accept, receiveReady, symm, success]) =
          .done () after ∧
        [connect, request] <+: after.link.device.written.filter speaks) ∧
      (∃ after, pull {} 9 (peer [connect, symm, request, symm, receiveReady]) =
          .done object after ∧
        [accept, acknowledge, success] <+: after.link.device.written.filter speaks) := by
  intro object symm receiveReady peer
  have fits : object.length ≤ maxObject := by decide
  have distant : ∀ timeoutMs ∈ [20000, 20000], timeoutMs ≠ 0 →
      10000000 < 0 + timeoutMs * nanosecondsPerMillisecond := by
    decide
  have plays : ∀ script : List Bytes, script.length ≤ 6 →
      (PeerScript.delivery 0 10000000 distant).holds (script.length + 4) script []
        (peer script).link := by
    intro script short
    refine ⟨rfl, rfl, rfl, rfl, Nat.le_refl 0, ?_⟩
    change 0 + (script.length + 4) * 1000000 ≤ 10000000
    omega
  obtain ⟨connect, request, accept, acknowledge, success, pushes, pulls⟩ :=
    push_fits_pull object fits
  refine ⟨fits, connect, request, accept, acknowledge, success, ?_, ?_⟩
  · obtain ⟨after, done, sent⟩ := pushes {} (peer _) (PeerScript.delivery 0 10000000 distant) symm
      receiveReady [symm, symm, accept, receiveReady, symm, success] 9 rfl rfl rfl
      (.symm rfl (.next _ (.next _ (.next _ (.symm rfl (.next _ (.done []))))))) (plays _ (by simp))
      (by simp)
    exact ⟨after, done, PeerScript.written_of_sent sent⟩
  · obtain ⟨after, done, sent⟩ := pulls {} (peer _) (PeerScript.delivery 0 10000000 distant) symm
      receiveReady [connect, symm, request, symm, receiveReady] 9 rfl rfl rfl
      (.next _ (.symm rfl (.next _ (.next _ (.next _ (.done [])))))) (plays _ (by simp)) (by simp)
    exact ⟨after, done, PeerScript.written_of_sent sent⟩

end Snep

end NfcLink
