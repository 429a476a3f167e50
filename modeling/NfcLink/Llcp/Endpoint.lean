import NfcLink.Host
import NfcLink.Link
import NfcLink.Llcp.Header

/-!
# Logical link endpoints

One end of a logical link over any peer link. Both ends send SYMM whenever they
have nothing else to say, so a wait for a PDU goes through `await`, which
answers each SYMM with a SYMM until a wanted type arrives.
-/
namespace NfcLink

/-- Where a peer offers object exchange. -/
def exchangeService : Sap := 4

def initiatorAddress : Sap := 0x20

/-- The parameter of a CONNECT that carries a service name. -/
def serviceNameParameter : UInt8 := 0x06

/-- The letters of `urn:nfc:sn:snep`. -/
def serviceName : Bytes :=
  [0x75, 0x72, 0x6E, 0x3A, 0x6E, 0x66, 0x63, 0x3A, 0x73, 0x6E, 0x3A, 0x73, 0x6E, 0x65, 0x70]

structure LinkSettings where
  /-- Deadline of one transfer, zero for none. -/
  transferTimeoutMs : Nat := 20000
  /-- How many SYMMs one wait may answer. -/
  maxSymm : Option Nat := none
  deriving DecidableEq, Repr

structure Endpoint (σ : Type) where
  link : σ
  settings : LinkSettings := {}
  connection : Connection := {}
  deriving DecidableEq

namespace Endpoint

variable {σ : Type}

def linkPart : Part (Endpoint σ) σ :=
  ⟨Endpoint.link, fun link endpoint => { endpoint with link }⟩

instance [Host σ] : Host (Endpoint σ) := Host.through linkPart

def current : Action (Endpoint σ) Connection := do
  let endpoint ← Action.get
  return endpoint.connection

def update (change : Connection → Connection) : Action (Endpoint σ) Unit :=
  Action.modify fun endpoint => { endpoint with connection := change endpoint.connection }

/-- The connection exists as long as the phase says so. -/
def onlyConnected : Action (Endpoint σ) Unit := do
  let connection ← current
  if connection.phase = .connected then pure () else Action.fail (.link .notConnected)

variable [Host σ] [PeerLink σ]

def enter (phase : Phase) : Action (Endpoint σ) Unit := do
  let connection ← current
  if connection.phase = phase then pure ()
  else do
    Host.note (.phaseChanged connection.phase phase connection.role)
    update fun connection => { connection with phase }

/-- A handshake that fails leaves no connection behind. -/
def conclude (handshake : Action (Endpoint σ) Unit) (success : Phase) :
    Action (Endpoint σ) Unit := do
  match ← handshake.attempt with
  | .ok _ => enter success
  | .error error => do
    enter .idle
    Action.fail error

def readPdu : Action (Endpoint σ) Bytes := (PeerLink.read : Action σ Bytes).on linkPart

def sendPdu (header body : Bytes) : Action (Endpoint σ) Unit := do
  Host.note (.pduSent header body)
  (PeerLink.write header body : Action σ Unit).on linkPart

/-- A PDU without sequence numbers, from our address to the peer's. -/
def sendPlain (type : PduType) (body : Bytes) : Action (Endpoint σ) Unit := do
  let connection ← current
  let header : PduHeader := { dsap := connection.dsap, type, ssap := connection.ssap }
  sendPdu header.encode body

def passTurn : Action (Endpoint σ) Unit := sendPdu PduHeader.symm.encode []

/-- The next PDU has to be SYMM: it is then our turn. -/
def takeTurn : Action (Endpoint σ) Unit := do
  let pdu ← readPdu
  let type ← PduHeader.typeOf pdu
  if type = .symm then pure ()
  else Action.fail (.link (.unexpectedPdu PduType.symm.text type))

def awaitFrom (wanted : List PduType) (deadline : Deadline) :
    (rounds : Nat) → (absorbed : Nat) → Action (Endpoint σ) Bytes
  | 0, _ => Action.unfinished
  | rounds + 1, absorbed => do
    if ← deadline.expired then do
      Host.note (.deadlinePassed wanted)
      Action.fail .timeout
    else do
      let pdu ← readPdu
      let type ← PduHeader.typeOf pdu
      Host.note (.pduReceived type pdu)
      if type ∈ wanted then return pdu
      else if type ≠ .symm then
        Action.fail (.link (.unexpectedPdu (PduType.alternatives wanted) type))
      else do
        let endpoint ← Action.get
        if endpoint.settings.maxSymm.any fun limit => decide (limit < absorbed + 1) then do
          Host.note (.symmLimit absorbed)
          Action.fail .timeout
        else do
          passTurn
          awaitFrom wanted deadline rounds (absorbed + 1)

/-- The next PDU of a wanted type. Any other type but SYMM breaks the protocol; the wait ends in a
timeout when the deadline passes or one SYMM more than allowed has come. -/
def await (wanted : List PduType) (deadline : Deadline) : Action (Endpoint σ) Bytes := do
  let rounds ← Action.patience
  awaitFrom wanted deadline rounds 0

/-- Has the controller wait for an initiator. -/
def activate (timeoutMs : Nat) : Action (Endpoint σ) Unit := do
  enter .activating
  ((PeerLink.activate timeoutMs : Action σ Unit).on linkPart).onFailure fun _ => enter .idle

/-- Answers a CONNECT with a CC to the address it came from. -/
def answerConnect (deadline : Deadline) : Action (Endpoint σ) Unit := do
  let pdu ← await [.connect] deadline
  let connect ← PduHeader.parse pdu
  update fun connection => { connection with dsap := connect.ssap, ssap := connect.dsap }
  sendPlain .cc []

def accept (timeoutMs : Nat) : Action (Endpoint σ) Unit := do
  update fun connection => { connection with role := .target, ns := 0, nr := 0 }
  enter .connecting
  let deadline ← Deadline.after timeoutMs
  conclude (answerConnect deadline) .connected

def proposeConnect (deadline : Deadline) : Action (Endpoint σ) Unit := do
  takeTurn
  sendPlain .connect
    (serviceNameParameter :: UInt8.ofNat serviceName.length :: serviceName)
  discard (await [.cc] deadline)

def connect (timeoutMs : Nat) : Action (Endpoint σ) Unit := do
  update fun connection =>
    { connection with
      role := .initiator, dsap := exchangeService, ssap := initiatorAddress, ns := 0, nr := 0 }
  enter .connecting
  let deadline ← Deadline.after timeoutMs
  conclude (proposeConnect deadline) .connected

/-- The deadline of one transfer, counted from now. -/
def transferDeadline : Action (Endpoint σ) Deadline := do
  let endpoint ← Action.get
  Deadline.after endpoint.settings.transferTimeoutMs

/-- Waits until the peer releases the connection, and confirms. -/
def acceptRelease : Action (Endpoint σ) Unit := do
  onlyConnected
  enter .disconnecting
  let deadline ← transferDeadline
  conclude (do
    discard (await [.disc] deadline)
    sendPlain .dm []) .idle

/-- Releases the connection on our turn. -/
def release : Action (Endpoint σ) Unit := do
  onlyConnected
  enter .disconnecting
  let deadline ← transferDeadline
  conclude (do
    takeTurn
    sendPlain .disc []
    discard (await [.dm] deadline)) .idle

/-- Sends one information PDU and waits until it is acknowledged. A target speaks on its turn only,
so it first takes the peer's SYMM. -/
def transmit (header body : Bytes) : Action (Endpoint σ) Unit := do
  onlyConnected
  let deadline ← transferDeadline
  let connection ← current
  if connection.role = .target then takeTurn
  let information : PduHeader :=
    ⟨connection.dsap, .information, connection.ssap, some (connection.ns, connection.nr)⟩
  sendPdu (information.encode ++ header) body
  discard (await [.receiveReady] deadline)
  update fun connection => { connection with ns := connection.ns.next }
  let after ← current
  Host.note (.acknowledged after.ns)
  passTurn

/-- Receives one information PDU, acknowledges it and answers its information field. From then on
the addresses are those that it came with. -/
def receive : Action (Endpoint σ) Bytes := do
  onlyConnected
  let deadline ← transferDeadline
  let pdu ← await [.information] deadline
  let (inbound, field) ← PduHeader.split pdu
  update fun connection => { connection with dsap := inbound.ssap, ssap := inbound.dsap }
  let received := inbound.ns.getD 0
  let acknowledgement : PduHeader :=
    ⟨inbound.ssap, .receiveReady, inbound.dsap, some (0, received.next)⟩
  sendPdu acknowledgement.encode []
  update fun connection => { connection with nr := connection.nr.next }
  return field

end Endpoint

end NfcLink
