import NfcLink.Llcp.Operation
import NfcLink.Proofs.Outcome

/-!
# What endpoints on two links have in common

An endpoint is written against links in general, and does the same steps on each of them. A
relation between the steps on one link and those on another one therefore passes to the
operations, if it survives putting actions together. A property of the actions on one link
is such a relation too: one that does not look at the other side.
-/
namespace NfcLink

open NfcLink.Action Outcome

/-- How a wait says that it has run out. -/
def Notice.givesUp : Notice → Bool
  | deadlinePassed _ => true
  | symmLimit _ => true
  | _ => false

/-- A relation between the actions of endpoints on two links that the steps are in and that actions
inherit from those they are made of. Other than a call on a link, no step times out. -/
structure StepRelation (σ τ : Type) [Host σ] [PeerLink σ] [Host τ] [PeerLink τ] where
  relates : {α : Type} → Action (Endpoint σ) α → Action (Endpoint τ) α → Prop
  pure : ∀ {α} (answer : α), relates (Pure.pure answer) (Pure.pure answer)
  fail : ∀ {α} {error : Error}, error ≠ .timeout →
    relates (Action.fail error : Action _ α) (Action.fail error)
  bind : ∀ {α β} {first : Action (Endpoint σ) α} {image : Action (Endpoint τ) α}
    {next : α → Action (Endpoint σ) β} {nextImage : α → Action (Endpoint τ) β},
    relates first image → (∀ answer, relates (next answer) (nextImage answer)) →
    relates (first >>= next) (image >>= nextImage)
  attempt : ∀ {α} {first : Action (Endpoint σ) α} {image : Action (Endpoint τ) α},
    relates first image → relates first.attempt image.attempt
  onFailure : ∀ {α} {first : Action (Endpoint σ) α} {image : Action (Endpoint τ) α}
    {react : Error → Action (Endpoint σ) Unit} {reactImage : Error → Action (Endpoint τ) Unit},
    relates first image → (∀ error, relates (react error) (reactImage error)) →
    relates (first.onFailure react) (image.onFailure reactImage)
  noted : ∀ notice, relates (Host.note notice) (Host.note notice)
  looked : relates Host.clock Host.clock
  current : relates Endpoint.current Endpoint.current
  updated : ∀ change, relates (Endpoint.update change) (Endpoint.update change)
  settings : ∀ {α} {next : LinkSettings → Action (Endpoint σ) α}
    {image : LinkSettings → Action (Endpoint τ) α},
    (∀ settings, relates (next settings) (image settings)) →
    relates (Action.get >>= fun endpoint => next endpoint.settings)
      (Action.get >>= fun endpoint => image endpoint.settings)
  activated : ∀ timeoutMs,
    relates ((PeerLink.activate timeoutMs : Action σ Unit).on Endpoint.linkPart)
      ((PeerLink.activate timeoutMs : Action τ Unit).on Endpoint.linkPart)
  read : relates Endpoint.readPdu Endpoint.readPdu
  written : ∀ header body,
    relates ((PeerLink.write header body : Action σ Unit).on Endpoint.linkPart)
      ((PeerLink.write header body : Action τ Unit).on Endpoint.linkPart)

/-- A relation that waits are in as well. -/
structure Correspondence (σ τ : Type) [Host σ] [PeerLink σ] [Host τ] [PeerLink τ] extends
    StepRelation σ τ where
  waited : ∀ wanted deadline,
    relates (Endpoint.await wanted deadline) (Endpoint.await wanted deadline)

/-! ### Steps that cannot time out -/

theorem timeless_bind {α β : Type} {first : Except Error α} {next : α → Except Error β}
    (start : first ≠ .error .timeout) (rest : ∀ answer, next answer ≠ .error .timeout) :
    (first >>= next) ≠ .error .timeout := by
  cases first with
  | ok answer => exact rest answer
  | error error => exact fun same => start (congrArg Except.error (Except.error.inj same))

theorem PduHeader.typeOf_timeless (pdu : Bytes) : PduHeader.typeOf pdu ≠ .error .timeout := by
  unfold PduHeader.typeOf
  split <;> nofun

theorem PduHeader.split_timeless (pdu : Bytes) : PduHeader.split pdu ≠ .error .timeout := by
  apply timeless_bind (PduHeader.typeOf_timeless pdu)
  intro type
  split
  · split
    · split <;> nofun
    · nofun
  · nofun

theorem PduHeader.parse_timeless (pdu : Bytes) : PduHeader.parse pdu ≠ .error .timeout := by
  unfold PduHeader.parse
  cases halves : PduHeader.split pdu with
  | ok found => nofun
  | error error =>
    intro late
    cases late
    exact PduHeader.split_timeless pdu halves

/-- A handshake that is concluded takes the phase back when it fails. -/
theorem Endpoint.conclude_eq {σ : Type} [Host σ] [PeerLink σ]
    (handshake : Action (Endpoint σ) Unit) (success : Phase) :
    Endpoint.conclude handshake success =
      (handshake.onFailure fun _ => Endpoint.enter .idle) >>= fun _ => Endpoint.enter success := by
  unfold Endpoint.conclude onFailure
  rw [bind_assoc]
  congr 1
  funext result
  cases result with
  | ok answer => rfl
  | error error =>
    rw [bind_assoc]
    rfl

variable {σ τ α β : Type} [Host σ] [PeerLink σ] [Host τ] [PeerLink τ]

namespace StepRelation

variable (relation : StepRelation σ τ)

theorem ite {condition : Prop} [Decidable condition] {yes no : Action (Endpoint σ) α}
    {yesImage noImage : Action (Endpoint τ) α} (first : relation.relates yes yesImage)
    (second : relation.relates no noImage) :
    relation.relates (if condition then yes else no) (if condition then yesImage else noImage) := by
  split
  · exact first
  · exact second

/-- A step that is taken before the rest on a condition only. -/
theorem optional {condition : Prop} [Decidable condition] {step : Action (Endpoint σ) α}
    {stepImage : Action (Endpoint τ) α} {rest : Action (Endpoint σ) β}
    {restImage : Action (Endpoint τ) β} (first : relation.relates step stepImage)
    (second : relation.relates rest restImage) :
    relation.relates (if condition then step >>= fun _ => rest else rest)
      (if condition then stepImage >>= fun _ => restImage else restImage) :=
  relation.ite (relation.bind first fun _ => second) second

theorem lift {result : Except Error α} (timeless : result ≠ .error .timeout) :
    relation.relates (liftM result) (liftM result) := by
  cases result with
  | ok answer => exact relation.pure answer
  | error error => exact relation.fail fun late => timeless (congrArg Except.error late)

theorem discard {act : Action (Endpoint σ) α} {image : Action (Endpoint τ) α}
    (related : relation.relates act image) :
    relation.relates (discard act) (discard image) :=
  relation.bind related fun _ => relation.pure ()

/-! ### Steps of an endpoint -/

theorem after (timeoutMs : Nat) :
    relation.relates (Deadline.after timeoutMs) (Deadline.after timeoutMs) :=
  relation.ite (relation.pure _) (relation.bind relation.looked fun _ => relation.pure _)

theorem expired (deadline : Deadline) : relation.relates deadline.expired deadline.expired := by
  unfold Deadline.expired
  split
  · exact relation.pure _
  · exact relation.bind relation.looked fun _ => relation.pure _

theorem transferDeadline :
    relation.relates Endpoint.transferDeadline Endpoint.transferDeadline :=
  relation.settings fun settings => relation.after settings.transferTimeoutMs

theorem onlyConnected : relation.relates Endpoint.onlyConnected Endpoint.onlyConnected :=
  relation.bind relation.current fun _ => relation.ite (relation.pure _) (relation.fail nofun)

theorem enter (phase : Phase) : relation.relates (Endpoint.enter phase) (Endpoint.enter phase) := by
  apply relation.bind relation.current
  intro connection
  apply relation.ite (relation.pure _)
  exact relation.bind (relation.noted _) fun _ => relation.updated _

theorem conclude {handshake : Action (Endpoint σ) Unit} {image : Action (Endpoint τ) Unit}
    (related : relation.relates handshake image) (success : Phase) :
    relation.relates (Endpoint.conclude handshake success) (Endpoint.conclude image success) := by
  rw [Endpoint.conclude_eq, Endpoint.conclude_eq]
  apply relation.bind (relation.onFailure related fun _ => relation.enter .idle)
  exact fun _ => relation.enter success

theorem sendPdu (header body : Bytes) :
    relation.relates (Endpoint.sendPdu header body) (Endpoint.sendPdu header body) :=
  relation.bind (relation.noted _) fun _ => relation.written header body

theorem passTurn : relation.relates Endpoint.passTurn Endpoint.passTurn :=
  relation.sendPdu _ _

theorem sendPlain (type : PduType) (body : Bytes) :
    relation.relates (Endpoint.sendPlain type body) (Endpoint.sendPlain type body) :=
  relation.bind relation.current fun _ => relation.sendPdu _ body

theorem takeTurn : relation.relates Endpoint.takeTurn Endpoint.takeTurn := by
  apply relation.bind relation.read
  intro pdu
  apply relation.bind (relation.lift (PduHeader.typeOf_timeless pdu))
  intro type
  exact relation.ite (relation.pure _) (relation.fail nofun)

/-- Waits are in the relation if giving up is, and if it does not tell an observer who leaves. -/
theorem awaitFrom (unfinished : relation.relates (Action.unfinished : Action _ Bytes) unfinished)
    (givesUp : ∀ notice : Notice, notice.givesUp = true →
      relation.relates (Host.note notice >>= fun _ => (Action.fail .timeout : Action _ Bytes))
        (Host.note notice >>= fun _ => Action.fail .timeout))
    (wanted : List PduType) (deadline : Deadline) (rounds absorbed : Nat) :
    relation.relates (Endpoint.awaitFrom wanted deadline rounds absorbed)
      (Endpoint.awaitFrom wanted deadline rounds absorbed) := by
  -- Both sides take the same rounds, since in every round they hear the same PDU.
  induction rounds generalizing absorbed with
  | zero => exact unfinished
  | succ rounds ih =>
    unfold Endpoint.awaitFrom
    apply relation.bind (relation.expired deadline)
    intro passed
    apply relation.ite (givesUp (.deadlinePassed wanted) rfl)
    apply relation.bind relation.read
    intro pdu
    apply relation.bind (relation.lift (PduHeader.typeOf_timeless pdu))
    intro type
    apply relation.bind (relation.noted _)
    intro noted
    apply relation.ite (relation.pure pdu)
    refine relation.ite (relation.fail ?_) ?_
    · nofun
    have limited (condition : Prop) [Decidable condition] :
        relation.relates (if condition then _ else _) (if condition then _ else _) :=
      relation.ite (givesUp (.symmLimit absorbed) rfl)
        (relation.bind relation.passTurn fun _ => ih (absorbed + 1))
    exact relation.settings fun settings : LinkSettings =>
      limited (settings.maxSymm.any fun limit => decide (limit < absorbed + 1))

end StepRelation

namespace Correspondence

variable (relation : Correspondence σ τ)

/-! ### Operations -/

theorem activate (timeoutMs : Nat) :
    relation.relates (Endpoint.activate timeoutMs) (Endpoint.activate timeoutMs) := by
  apply relation.bind (relation.enter .activating)
  intro entered
  exact relation.onFailure (relation.activated timeoutMs) fun _ => relation.enter .idle

theorem connect (timeoutMs : Nat) :
    relation.relates (Endpoint.connect timeoutMs) (Endpoint.connect timeoutMs) := by
  apply relation.bind (relation.updated _)
  intro updated
  apply relation.bind (relation.enter .connecting)
  intro entered
  apply relation.bind (relation.after timeoutMs)
  intro deadline
  apply relation.conclude
  apply relation.bind relation.takeTurn
  intro turn
  apply relation.bind (relation.sendPlain _ _)
  intro sent
  exact relation.discard (relation.waited [.cc] deadline)

theorem accept (timeoutMs : Nat) :
    relation.relates (Endpoint.accept timeoutMs) (Endpoint.accept timeoutMs) := by
  apply relation.bind (relation.updated _)
  intro updated
  apply relation.bind (relation.enter .connecting)
  intro entered
  apply relation.bind (relation.after timeoutMs)
  intro deadline
  apply relation.conclude
  apply relation.bind (relation.waited _ _)
  intro pdu
  apply relation.bind (relation.lift (PduHeader.parse_timeless pdu))
  intro connect
  exact relation.bind (relation.updated _) fun _ => relation.sendPlain _ _

theorem release : relation.relates Endpoint.release Endpoint.release := by
  apply relation.bind relation.onlyConnected
  intro connected
  apply relation.bind (relation.enter .disconnecting)
  intro entered
  apply relation.bind relation.transferDeadline
  intro deadline
  apply relation.conclude
  apply relation.bind relation.takeTurn
  intro turn
  apply relation.bind (relation.sendPlain _ _)
  intro sent
  exact relation.discard (relation.waited [.dm] deadline)

theorem acceptRelease : relation.relates Endpoint.acceptRelease Endpoint.acceptRelease := by
  apply relation.bind relation.onlyConnected
  intro connected
  apply relation.bind (relation.enter .disconnecting)
  intro entered
  apply relation.bind relation.transferDeadline
  intro deadline
  apply relation.conclude
  apply relation.bind (relation.discard (relation.waited [.disc] deadline))
  exact fun answer => relation.sendPlain _ _

theorem transmit (header body : Bytes) :
    relation.relates (Endpoint.transmit header body) (Endpoint.transmit header body) := by
  apply relation.bind relation.onlyConnected
  intro connected
  apply relation.bind relation.transferDeadline
  intro deadline
  apply relation.bind relation.current
  intro connection
  -- Only a target has its turn to take first.
  apply relation.optional relation.takeTurn
  apply relation.bind (relation.sendPdu _ _)
  intro sent
  apply relation.bind (relation.discard (relation.waited [.receiveReady] deadline))
  intro acknowledged
  apply relation.bind (relation.updated _)
  intro advanced
  apply relation.bind relation.current
  intro after
  exact relation.bind (relation.noted _) fun _ => relation.passTurn

theorem receive : relation.relates Endpoint.receive Endpoint.receive := by
  apply relation.bind relation.onlyConnected
  intro connected
  apply relation.bind relation.transferDeadline
  intro deadline
  apply relation.bind (relation.waited _ _)
  intro pdu
  apply relation.bind (relation.lift (PduHeader.split_timeless pdu))
  intro halves
  apply relation.bind (relation.updated _)
  intro rebound
  apply relation.bind (relation.sendPdu _ _)
  intro sent
  exact relation.bind (relation.updated _) fun _ => relation.pure _

theorem perform (operation : Operation) :
    relation.relates operation.perform operation.perform := by
  cases operation with
  | activate timeoutMs =>
    exact relation.bind (relation.activate timeoutMs) fun _ => relation.pure _
  | connect timeoutMs =>
    exact relation.bind (relation.connect timeoutMs) fun _ => relation.pure _
  | accept timeoutMs =>
    exact relation.bind (relation.accept timeoutMs) fun _ => relation.pure _
  | transmit header body =>
    exact relation.bind (relation.transmit header body) fun _ => relation.pure _
  | receive => exact relation.bind relation.receive fun _ => relation.pure _
  | release => exact relation.bind relation.release fun _ => relation.pure _
  | acceptRelease => exact relation.bind relation.acceptRelease fun _ => relation.pure _

end Correspondence

end NfcLink
