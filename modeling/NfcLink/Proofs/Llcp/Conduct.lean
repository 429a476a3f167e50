import NfcLink.Llcp.Operation
import NfcLink.Proofs.Link.Observed
import NfcLink.Proofs.Llcp.Delivery

/-!
# How operations are conducted

Whatever the link does, an operation that ends was conducted in one of a few ways.
`Performs` lists them, each with the calls it makes, its result and the connection it
leaves. It says all that an operation can do, so statements about runs are read off it
and no operation is opened again.
-/
namespace NfcLink

/-! ### Reads that decide -/

/-- Reading the one PDU that has to be SYMM. -/
inductive TakesTurn : List LinkCall → Except Error Unit → Prop where
  | unread (error : Error) : TakesTurn [.read (.error error)] (.error error)
  | untyped {pdu : Bytes} {error : Error} (typed : PduHeader.typeOf pdu = .error error) :
    TakesTurn [.read (.ok pdu)] (.error error)
  | taken {pdu : Bytes} (symm : IsSymm pdu) : TakesTurn [.read (.ok pdu)] (.ok ())
  | other {pdu : Bytes} {type : PduType} (typed : PduHeader.typeOf pdu = .ok type)
      (different : type ≠ .symm) :
    TakesTurn [.read (.ok pdu)] (.error (.link (.unexpectedPdu PduType.symm.text type)))

/-- Waiting for a PDU of a wanted type and answering each SYMM with a SYMM. -/
inductive Waits (wanted : List PduType) : List LinkCall → Except Error Bytes → Prop where
  /-- The deadline has passed. -/
  | expired : Waits wanted [] (.error .timeout)
  | unread (error : Error) : Waits wanted [.read (.error error)] (.error error)
  | untyped {pdu : Bytes} {error : Error} (typed : PduHeader.typeOf pdu = .error error) :
    Waits wanted [.read (.ok pdu)] (.error error)
  | taken {pdu : Bytes} {type : PduType} (typed : PduHeader.typeOf pdu = .ok type)
      (member : type ∈ wanted) :
    Waits wanted [.read (.ok pdu)] (.ok pdu)
  | unexpected {pdu : Bytes} {type : PduType} (typed : PduHeader.typeOf pdu = .ok type)
      (other : type ∉ wanted) (different : type ≠ .symm) :
    Waits wanted [.read (.ok pdu)]
      (.error (.link (.unexpectedPdu (PduType.alternatives wanted) type)))
  /-- One SYMM more than allowed has come. -/
  | exhausted {pdu : Bytes} (symm : IsSymm pdu) (other : .symm ∉ wanted) :
    Waits wanted [.read (.ok pdu)] (.error .timeout)
  | unanswered {pdu : Bytes} (symm : IsSymm pdu) (other : .symm ∉ wanted) (error : Error) :
    Waits wanted [.read (.ok pdu), .written PduHeader.symm.encode [] (.error error)]
      (.error error)
  | answered {pdu : Bytes} {calls : List LinkCall} {result : Except Error Bytes}
      (symm : IsSymm pdu) (other : .symm ∉ wanted) (rest : Waits wanted calls result) :
    Waits wanted (.read (.ok pdu) :: .written PduHeader.symm.encode [] (.ok ()) :: calls) result

/-- Waiting for a PDU of one type and making something of it. -/
inductive Hears {α : Type} (type : PduType) (make : Bytes → Except Error α) :
    List LinkCall → Except Error α → Prop where
  | unmet {calls : List LinkCall} {error : Error} (waits : Waits [type] calls (.error error)) :
    Hears type make calls (.error error)
  | met {calls : List LinkCall} {pdu : Bytes} (waits : Waits [type] calls (.ok pdu)) :
    Hears type make calls (make pdu)

/-- Sending a PDU and waiting for one of the type that replies to it. -/
inductive Asks (header body : Bytes) (reply : PduType) :
    List LinkCall → Except Error Bytes → Prop where
  | unsent (error : Error) :
    Asks header body reply [.written header body (.error error)] (.error error)
  | sent {calls : List LinkCall} {result : Except Error Bytes}
      (waits : Waits [reply] calls result) :
    Asks header body reply (.written header body (.ok ()) :: calls) result

/-- The same once it is our turn. -/
inductive AsksInTurn (header body : Bytes) (reply : PduType) :
    List LinkCall → Except Error Bytes → Prop where
  | noTurn {calls : List LinkCall} {error : Error} (turn : TakesTurn calls (.error error)) :
    AsksInTurn header body reply calls (.error error)
  | turn {earlier later : List LinkCall} {result : Except Error Bytes}
      (turn : TakesTurn earlier (.ok ())) (asks : Asks header body reply later result) :
    AsksInTurn header body reply (earlier ++ later) result

/-- A target sends in its turn, an initiator at once. -/
def AsksAs (role : Role) (header body : Bytes) (reply : PduType) (calls : List LinkCall)
    (result : Except Error Bytes) : Prop :=
  match role with
  | .target => AsksInTurn header body reply calls result
  | .initiator => Asks header body reply calls result

/-! ### PDUs of a connection -/

namespace Connection

variable (connection : Connection)

/-- The header of a PDU without sequence numbers, from our address to the peer's. -/
def plain (type : PduType) : PduHeader := ⟨connection.dsap, type, connection.ssap, none⟩

/-- The header of the next information PDU. -/
def information : PduHeader :=
  ⟨connection.dsap, .information, connection.ssap, some (connection.ns, connection.nr)⟩

/-- With the addresses that a PDU came with. -/
def rebound (inbound : PduHeader) : Connection :=
  { connection with dsap := inbound.ssap, ssap := inbound.dsap }

/-- A connection that is about to be accepted. -/
def accepting : Connection :=
  { connection with role := .target, phase := .connecting, ns := 0, nr := 0 }

/-- A connection that is about to be proposed. -/
def proposing : Connection :=
  ⟨.initiator, .connecting, exchangeService, initiatorAddress, 0, 0⟩

/-- How an information PDU is acknowledged. -/
def acknowledgement (inbound : PduHeader) : PduHeader :=
  ⟨inbound.ssap, .receiveReady, inbound.dsap, some (0, (inbound.ns.getD 0).next)⟩

end Connection

/-- The parameters of the CONNECT that this stack sends. -/
def connectParameters : Bytes :=
  serviceNameParameter :: UInt8.ofNat serviceName.length :: serviceName

/-- Where a handshake ends. -/
def Phase.concluding (success : Phase) {α : Type} : Except Error α → Phase
  | .ok _ => success
  | .error _ => .idle

/-- Every way in which an operation on a connection can end. -/
inductive Performs : Operation → (before : Connection) → List LinkCall →
    Except Error (Option Bytes) → (after : Connection) → Prop where
  | refused {operation : Operation} {connection : Connection}
      (needed : operation.needsConnection = true) (missing : connection.phase ≠ .connected) :
    Performs operation connection [] (.error (.link .notConnected)) connection
  | activated {connection : Connection} (timeoutMs : Nat) (result : Except Error Unit) :
    Performs (.activate timeoutMs) connection [.activated timeoutMs result]
      (result.map fun _ => none)
      { connection with phase := Phase.activating.concluding result }
  | proposed {connection : Connection} {timeoutMs : Nat} {calls : List LinkCall}
      {result : Except Error Bytes}
      (asks : AsksInTurn (Connection.proposing.plain .connect).encode connectParameters .cc calls
        result) :
    Performs (.connect timeoutMs) connection calls (result.map fun _ => none)
      { Connection.proposing with phase := Phase.connected.concluding result }
  | unheard {connection : Connection} {timeoutMs : Nat} {calls : List LinkCall} {error : Error}
      (hears : Hears .connect PduHeader.parse calls (.error error)) :
    Performs (.accept timeoutMs) connection calls (.error error)
      { connection.accepting with phase := .idle }
  | accepted {connection : Connection} {timeoutMs : Nat} {calls : List LinkCall}
      {inbound : PduHeader} (hears : Hears .connect PduHeader.parse calls (.ok inbound))
      (result : Except Error Unit) :
    Performs (.accept timeoutMs) connection
      (calls ++ [.written ((connection.rebound inbound).plain .cc).encode [] result])
      (result.map fun _ => none)
      { connection.accepting.rebound inbound with phase := Phase.connected.concluding result }
  | released {connection : Connection} {calls : List LinkCall} {result : Except Error Bytes}
      (connected : connection.phase = .connected)
      (asks : AsksInTurn (connection.plain .disc).encode [] .dm calls result) :
    Performs .release connection calls (result.map fun _ => none) { connection with phase := .idle }
  | unreleased {connection : Connection} {calls : List LinkCall} {error : Error}
      (connected : connection.phase = .connected) (waits : Waits [.disc] calls (.error error)) :
    Performs .acceptRelease connection calls (.error error) { connection with phase := .idle }
  | releaseAccepted {connection : Connection} {calls : List LinkCall} {pdu : Bytes}
      (connected : connection.phase = .connected) (waits : Waits [.disc] calls (.ok pdu))
      (result : Except Error Unit) :
    Performs .acceptRelease connection
      (calls ++ [.written (connection.plain .dm).encode [] result]) (result.map fun _ => none)
      { connection with phase := .idle }
  | unconfirmed {connection : Connection} {header body : Bytes} {calls : List LinkCall}
      {error : Error} (connected : connection.phase = .connected)
      (asks : AsksAs connection.role (connection.information.encode ++ header) body .receiveReady
        calls (.error error)) :
    Performs (.transmit header body) connection calls (.error error) connection
  | confirmed {connection : Connection} {header body : Bytes} {calls : List LinkCall}
      {receiveReady : Bytes} (connected : connection.phase = .connected)
      (asks : AsksAs connection.role (connection.information.encode ++ header) body .receiveReady
        calls (.ok receiveReady))
      (result : Except Error Unit) :
    Performs (.transmit header body) connection
      (calls ++ [.written PduHeader.symm.encode [] result]) (result.map fun _ => none)
      { connection with ns := connection.ns.next }
  | unreceived {connection : Connection} {calls : List LinkCall} {error : Error}
      (connected : connection.phase = .connected)
      (hears : Hears .information PduHeader.split calls (.error error)) :
    Performs .receive connection calls (.error error) connection
  | unacknowledged {connection : Connection} {calls : List LinkCall} {inbound : PduHeader}
      {field : Bytes} (connected : connection.phase = .connected)
      (hears : Hears .information PduHeader.split calls (.ok (inbound, field))) (error : Error) :
    Performs .receive connection
      (calls ++ [.written (Connection.acknowledgement inbound).encode [] (.error error)])
      (.error error) (connection.rebound inbound)
  | received {connection : Connection} {calls : List LinkCall} {inbound : PduHeader}
      {field : Bytes} (connected : connection.phase = .connected)
      (hears : Hears .information PduHeader.split calls (.ok (inbound, field))) :
    Performs .receive connection
      (calls ++ [.written (Connection.acknowledgement inbound).encode [] (.ok ())])
      (.ok (some field)) { connection.rebound inbound with nr := connection.nr.next }

end NfcLink
