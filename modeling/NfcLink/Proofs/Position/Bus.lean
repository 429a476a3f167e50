import NfcLink.Proofs.Position.Reading
import NfcLink.Proofs.Returns

/-!
# Buses read by position

The two buses on which the host reads a status octet in front of the data. On I²C it drops
that octet and what it has seen before, and a master may have read fewer octets than were
asked for. On SPI a transfer overwrites a buffer in place, so that the buffer keeps its
length whatever comes in.
-/
namespace NfcLink

open Positional

/-! ### I²C -/

namespace I2cPort

variable {σ : Type} [Host σ] [I2cMaster σ]

def readFromByPosition (seen total : Nat) (deadline : Deadline) :
    (rounds : Nat) → Positional (I2cPort σ) Bytes
  | 0 => plain Action.unfinished
  | rounds + 1 => do
    let raw ← plain (read (total + 1))
    if statusReady raw then
      if raw.length < total + 1 then do
        plain (Host.note (.shortRead raw.length (total + 1)))
        plain (Action.fail .timeout)
      else do
        let bytes ← raw.sliceFrom? (1 + seen)
        plain (Host.note (.bytesReceived .i2c bytes))
        plain (setSeen total)
        return bytes
    else if ← plain deadline.expired then plain (Action.fail .timeout)
    else do
      plain (Host.pause pollIntervalMs)
      readFromByPosition seen total deadline rounds

def receiveByPosition (wanted timeoutMs : Nat) : Positional (I2cPort σ) Bytes := do
  let port ← plain Action.get
  let seen := port.seen
  if seen > 0 then do
    plain (Host.note (.rereading seen))
    plain (write Ack.negative)
  let deadline ← plain (Deadline.after timeoutMs)
  let rounds ← plain Action.patience
  readFromByPosition seen (seen + wanted) deadline rounds

/-- Induction on the rounds of the wait. What was seen is a part of what is read. -/
theorem readFrom_matches {seen total : Nat} (within : seen ≤ total) (deadline : Deadline)
    (rounds : Nat) :
    Matches (readFromByPosition seen total deadline rounds : Positional (I2cPort σ) Bytes)
      (readFrom seen total deadline rounds) := by
  induction rounds with
  | zero => exact matches_plain _
  | succ rounds ih =>
    unfold readFromByPosition readFrom
    refine matches_then fun raw => matches_ite ?_ ?_
    · split
      · exact matches_then fun _ => matches_plain _
      next enough =>
        apply matches_access (Bytes.sliceFrom_of_le (by omega))
        exact matches_then fun _ => matches_then fun _ => matches_pure _
    · refine matches_then fun passed => matches_ite (matches_plain _) ?_
      exact matches_then fun _ => ih

theorem receive_matches (wanted timeoutMs : Nat) :
    Matches (receiveByPosition wanted timeoutMs : Positional (I2cPort σ) Bytes)
      (receive wanted timeoutMs) := by
  refine matches_then fun port => ?_
  have rest : Matches (do
      let deadline ← plain (Deadline.after timeoutMs)
      let rounds ← plain Action.patience
      readFromByPosition port.seen (port.seen + wanted) deadline rounds) (do
      let deadline ← Deadline.after timeoutMs
      let rounds ← Action.patience
      readFrom port.seen (port.seen + wanted) deadline rounds : Action (I2cPort σ) Bytes) :=
    matches_then fun deadline => matches_then fun rounds =>
      readFrom_matches (Nat.le_add_right _ _) deadline rounds
  exact matches_ite (matches_then fun _ => matches_then fun _ => rest) rest

def performByPosition : (operation : TransportOperation) →
    Positional (I2cPort σ) operation.Answer
  | .receive wanted timeoutMs => receiveByPosition wanted timeoutMs
  | operation => plain operation.perform

theorem perform_matches (operation : TransportOperation) :
    Matches (performByPosition operation : Positional (I2cPort σ) operation.Answer)
      operation.perform := by
  cases operation with
  | receive wanted timeoutMs => exact receive_matches wanted timeoutMs
  | _ => exact matches_plain _

end I2cPort

/-! ### SPI -/

/-- What is left in a buffer that a transfer wrote over. Its length is that of the buffer. -/
def Bytes.overwritten (buffer answer : Bytes) : Bytes :=
  answer.take buffer.length ++ buffer.drop answer.length

theorem Bytes.overwritten_length (buffer answer : Bytes) :
    (buffer.overwritten answer).length = buffer.length := by
  rw [overwritten, List.length_append, List.length_take, List.length_drop]
  omega

theorem Bytes.overwritten_of_same_length {buffer answer : Bytes}
    (same : answer.length = buffer.length) : buffer.overwritten answer = answer := by
  rw [overwritten, same, List.drop_length, ← same, List.take_length, List.append_nil]

/-- One octet comes in for each that goes out. -/
def SpiMaster.FullDuplex (σ : Type) [SpiMaster σ] : Prop :=
  ∀ bytes : Bytes, (SpiMaster.exchange bytes : Action σ Bytes).AnswersOnly
    fun answer => answer.length = bytes.length

namespace SpiPort

variable {σ : Type} [SpiMaster σ]

/-- A transfer in place. -/
def transfer (buffer : Bytes) : Action (SpiPort σ) Bytes := do
  let port ← Action.get
  let order := port.settings.bitOrder
  let answer ← (SpiMaster.exchange (order.onWire buffer)).on busPart
  return order.onWire ((order.onWire buffer).overwritten answer)

def readyByPosition : Positional (SpiPort σ) Bool := do
  let buffer ← plain (transfer [statusRead, 0x00])
  let status ← buffer.octet? 1
  return status.toNat.testBit 0

def receiveByPosition [Host σ] (wanted : Nat) : Positional (SpiPort σ) Bytes := do
  let blank : Bytes := List.replicate (wanted + 1) 0
  let request ← blank.replaceAt? 0 dataRead
  let buffer ← plain (transfer request)
  let bytes ← buffer.removeFirst?
  plain (Host.note (.bytesReceived .spi bytes))
  return bytes

theorem transfer_length (buffer : Bytes) :
    (transfer buffer : Action (SpiPort σ) Bytes).AnswersOnly
      fun answer => answer.length = buffer.length := by
  intro patience port answer after done
  obtain ⟨_, _, -, exchanged⟩ := (Action.bind_eq_done_iff ..).mp done
  obtain ⟨found, _, -, same⟩ := (Action.bind_eq_done_iff ..).mp exchanged
  cases same
  rw [BitOrder.onWire_length, Bytes.overwritten_length, BitOrder.onWire_length]

/-- A status that did not come in is what went out in its place, and that is zero. -/
theorem ready_matches : Matches (readyByPosition : Positional (SpiPort σ) Bool) ready := by
  unfold readyByPosition ready transfer exchange
  simp only [plain_bind, plain_pure, bind_assoc, pure_bind]
  refine matches_then fun port => matches_then fun answer => ?_
  -- Fewer than two octets leave the second one of the buffer as it went out.
  have blank : port.settings.bitOrder.octet (port.settings.bitOrder.octet 0x00) = 0x00 :=
    BitOrder.octet_octet _ _
  match answer with
  | [] =>
    apply matches_access rfl
    rw [blank]
    exact matches_pure _
  | [_] =>
    apply matches_access rfl
    rw [blank]
    exact matches_pure _
  | _ :: status :: rest =>
    apply matches_access rfl
    exact matches_pure _

theorem transfer_eq_exchange (fullDuplex : SpiMaster.FullDuplex σ) (buffer : Bytes) :
    (transfer buffer : Action (SpiPort σ) Bytes) = exchange buffer := by
  funext patience port
  unfold transfer exchange
  rw [Action.get_bind, Action.get_bind, Action.bind_apply, Action.bind_apply]
  simp only [Action.on]
  cases found : (SpiMaster.exchange (port.settings.bitOrder.onWire buffer) : Action σ Bytes)
      patience (busPart.get port) with
  | done answer after =>
    simp only [Bytes.overwritten_of_same_length (fullDuplex _ found)]
  | failed error after => rfl
  | waiting => rfl

/-- The buffer that is handed over has the octet of the operation in it and keeps its length. -/
theorem receiveByPosition_matches [Host σ] (wanted : Nat) :
    Matches (receiveByPosition wanted : Positional (SpiPort σ) Bytes) (do
      let buffer ← transfer (dataRead :: List.replicate wanted 0)
      Host.note (.bytesReceived .spi (buffer.drop 1))
      return buffer.drop 1) := by
  have request : Bytes.replaceAt? (List.replicate (wanted + 1) 0) 0 dataRead =
      some (dataRead :: List.replicate wanted 0) := if_pos (by simp)
  apply matches_access request
  apply matches_then_of (transfer_length _)
  rintro (_ | ⟨first, bytes⟩) length
  · cases length
  · exact matches_access rfl (matches_then fun _ => matches_pure _)

theorem receive_matches [Host σ] (fullDuplex : SpiMaster.FullDuplex σ) (wanted timeoutMs : Nat) :
    Matches (receiveByPosition wanted : Positional (SpiPort σ) Bytes)
      (Transport.receive wanted timeoutMs) := by
  have received := receiveByPosition_matches (σ := σ) wanted
  rw [transfer_eq_exchange fullDuplex] at received
  exact received

variable [Host σ]

def performByPosition : (operation : TransportOperation) → Positional (SpiPort σ) operation.Answer
  | .wake => discard readyByPosition
  | .poll => readyByPosition
  | .receive wanted _ => receiveByPosition wanted
  | operation => plain operation.perform

/-- No operation misses, whatever comes in. -/
theorem performByPosition_total (operation : TransportOperation) :
    ∃ act, Matches (performByPosition operation : Positional (SpiPort σ) operation.Answer) act := by
  cases operation with
  | wake => exact ⟨_, ready_matches.discard⟩
  | poll => exact ⟨_, ready_matches⟩
  | receive wanted timeoutMs => exact ⟨_, receiveByPosition_matches wanted⟩
  | _ => exact ⟨_, matches_plain _⟩

theorem perform_matches (fullDuplex : SpiMaster.FullDuplex σ) (operation : TransportOperation) :
    Matches (performByPosition operation : Positional (SpiPort σ) operation.Answer)
      operation.perform := by
  cases operation with
  | wake => exact ready_matches.discard
  | poll => exact ready_matches
  | receive wanted timeoutMs => exact receive_matches fullDuplex wanted timeoutMs
  | _ => exact matches_plain _

end SpiPort

end NfcLink
