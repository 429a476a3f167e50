import NfcLink.Proofs.Llcp.Header
import NfcLink.Proofs.Llcp.Traffic

/-!
# What the history says of a connection

A ledger is kept by someone who sees the operations, their results and the calls on the
link, but not the endpoint. While there is a connection, its addresses and counters are
those of the ledger; so every PDU that is sent carries the header which the history
determines.
-/
namespace NfcLink

theorem Seq.next_ofNat (count : Nat) :
    Seq.next (Fin.ofNat 16 count) = Fin.ofNat 16 (count + 1) := by
  apply Fin.ext
  change (count % 16 + 1) % 16 = (count + 1) % 16
  omega

/-- The header of the first PDU of this type, if it can be read. -/
def firstHeader (type : PduType) (pdus : List Bytes) : Option PduHeader := do
  let pdu ← firstOf type pdus
  (PduHeader.parse pdu).toOption

/-- The addresses of an answer. -/
def PduHeader.swapped (header : PduHeader) : Sap × Sap := (header.ssap, header.dsap)

/-- What is known since the last time a connection was to be opened. -/
structure Ledger where
  /-- The peer's address and ours. -/
  binding : Option (Sap × Sap) := none
  /-- Receive-ready PDUs that transmissions have accepted. -/
  acknowledged : Nat := 0
  /-- Receptions that have succeeded. -/
  answered : Nat := 0

namespace Ledger

/-- One more operation, with its calls and its result. -/
def enter (ledger : Ledger) (calls : List LinkCall) (result : Except Error (Option Bytes)) :
    Operation → Ledger
  | .connect _ => { binding := some (exchangeService, initiatorAddress) }
  | .accept _ => { binding := (firstHeader .connect (heardIn calls)).map PduHeader.swapped }
  | .transmit _ _ =>
    let accepted := firstOf .receiveReady (repliesIn calls)
    { ledger with acknowledged := ledger.acknowledged + accepted.isSome.toNat }
  | .receive =>
    let rebound := (firstHeader .information (heardIn calls)).map PduHeader.swapped
    { ledger with
      binding := rebound.or ledger.binding, answered := ledger.answered + result.isOk.toNat }
  | _ => ledger

def of {σ : Type} (history : List (Step (Observed σ))) : Ledger :=
  history.foldl (fun ledger step => ledger.enter step.calls step.result step.operation) {}

theorem of_append {σ : Type} (history : List (Step (Observed σ))) (step : Step (Observed σ)) :
    of (history ++ [step]) = (of history).enter step.calls step.result step.operation := by
  simp only [of, List.foldl_append, List.foldl_cons, List.foldl_nil]

/-- The connection is as the ledger has it. -/
structure Agrees (ledger : Ledger) (connection : Connection) : Prop where
  bound : ledger.binding = some (connection.dsap, connection.ssap)
  sent : connection.ns = Fin.ofNat 16 ledger.acknowledged
  received : connection.nr = Fin.ofNat 16 ledger.answered

/-- A frame is SYMM, or its header is the one that follows from the ledger before the operation
that sends it and from the calls of this operation. -/
def Explains (ledger : Ledger) (operation : Operation) (calls : List LinkCall)
    (result : Except Error (Option Bytes)) (frame : Bytes) : Prop :=
  frame = [0x00, 0x00] ∨
    ∃ header, PduHeader.parse frame = .ok header ∧
      (ledger.enter calls result operation).binding = some (header.dsap, header.ssap) ∧
      (header.type = .information → header.numbers =
        some (Fin.ofNat 16 ledger.acknowledged, Fin.ofNat 16 ledger.answered)) ∧
      (header.type = .receiveReady → ∃ inbound sent,
        firstHeader .information (heardIn calls) = some inbound ∧ inbound.ns = some sent ∧
          header.numbers = some (0, sent + 1))

end Ledger

/-! ### What an operation has heard -/

theorem Hears.parsed {type : PduType} {calls : List LinkCall} {header : PduHeader}
    (hears : Hears type PduHeader.parse calls (.ok header)) :
    firstHeader type (heardIn calls) = some header := by
  obtain ⟨pdu, first, read⟩ := hears.takes
  rw [firstHeader, first]
  exact congrArg Except.toOption read

theorem Hears.splits {type : PduType} {calls : List LinkCall} {header : PduHeader} {field : Bytes}
    (hears : Hears type PduHeader.split calls (.ok (header, field))) :
    firstHeader type (heardIn calls) = some header := by
  obtain ⟨pdu, first, read⟩ := hears.takes
  rw [firstHeader, first]
  simp [PduHeader.parse, read, Except.map, Except.toOption]

theorem Hears.splits_not {type : PduType} {calls : List LinkCall} {error : Error}
    (hears : Hears type PduHeader.split calls (.error error)) :
    firstHeader type (heardIn calls) = none := by
  unfold firstHeader
  cases first : firstOf type (heardIn calls) with
  | none => rfl
  | some pdu => simp [PduHeader.parse, hears.takes_of_error first, Except.map, Except.toOption]

/-- The information PDU that a reception takes has numbers and, behind three octets, the field that
is answered. -/
theorem Hears.numbered {calls : List LinkCall} {header : PduHeader} {field : Bytes}
    (hears : Hears .information PduHeader.split calls (.ok (header, field))) :
    ∃ pdu, firstOf .information (heardIn calls) = some pdu ∧ 3 ≤ pdu.length ∧
      field = pdu.drop 3 ∧ header.numbers.isSome = true := by
  obtain ⟨pdu, first, read⟩ := hears.takes
  exact ⟨pdu, first, PduHeader.split_sequenced (typeOf_firstOf first) rfl read⟩

/-! ### One operation -/

namespace Ledger

variable {ledger : Ledger} {connection : Connection} {calls : List LinkCall}

theorem explains_plain {operation : Operation} {result : Except Error (Option Bytes)}
    {type : PduType} (bound : (ledger.enter calls result operation).binding =
      some (connection.dsap, connection.ssap))
    (coded : PduType.ofBits type.bits = type) (plain : type.sequenced = false) (body : Bytes) :
    ledger.Explains operation calls result ((connection.plain type).encode ++ body) := by
  refine .inr ⟨_, PduHeader.parse_encode _ _ ⟨coded, plain.symm⟩, bound, ?_, ?_⟩
  · intro information
    rw [show type = .information from information] at plain
    cases plain
  · intro receiveReady
    rw [show type = .receiveReady from receiveReady] at plain
    cases plain

theorem Agrees.explains_information (agrees : ledger.Agrees connection) (header body : Bytes)
    (result : Except Error (Option Bytes)) :
    ledger.Explains (.transmit header body) calls result
      (connection.information.encode ++ header ++ body) := by
  obtain ⟨bound, sent, received⟩ := agrees
  rw [List.append_assoc]
  refine .inr ⟨_, PduHeader.parse_encode _ _ ⟨rfl, rfl⟩, bound, ?_, ?_⟩
  · intro _
    rw [← sent, ← received]
    rfl
  · intro receiveReady
    cases receiveReady

theorem explains_acknowledgement {inbound : PduHeader} {field : Bytes}
    (hears : Hears .information PduHeader.split calls (.ok (inbound, field)))
    (sent : Except Error Unit) (result : Except Error (Option Bytes)) :
    let acknowledgement := (Connection.acknowledgement inbound).encode
    ledger.Explains .receive (calls ++ [.written acknowledgement [] sent]) result
      (acknowledgement ++ []) := by
  intro acknowledgement
  obtain ⟨pdu, -, -, -, numbered⟩ := hears.numbered
  obtain ⟨⟨ns, nr⟩, numbers⟩ := Option.isSome_iff_exists.mp numbered
  refine .inr ⟨_, PduHeader.parse_encode _ _ ⟨rfl, rfl⟩, ?_, ?_, ?_⟩
  · simp only [enter, heardIn_append_written, hears.splits]
    rfl
  · intro information
    cases information
  · intro _
    refine ⟨inbound, ns, ?_, ?_, ?_⟩
    · rw [heardIn_append_written, hears.splits]
    · simp [PduHeader.ns, numbers]
    · simp [Connection.acknowledgement, PduHeader.ns, numbers, Seq.next]

end Ledger

namespace Performs

variable {operation : Operation} {before after : Connection} {calls : List LinkCall}
variable {result : Except Error (Option Bytes)} {ledger : Ledger}

/-- The ledger keeps up with the connection as long as there is one. -/
theorem agrees (performs : Performs operation before calls result after)
    (agreed : before.phase = .connected → ledger.Agrees before)
    (connected : after.phase = .connected) :
    (ledger.enter calls result operation).Agrees after := by
  -- Where no connection is left there is nothing to show; else the entry follows the conduct.
  cases performs with
  | refused needed missing => exact absurd connected missing
  | activated timeoutMs result => cases result <;> cases connected
  | proposed asks => exact ⟨rfl, rfl, rfl⟩
  | unheard hears => cases connected
  | accepted hears result =>
    refine ⟨?_, rfl, rfl⟩
    simp only [Ledger.enter, heardIn_append_written, hears.parsed]
    rfl
  | released | unreleased | releaseAccepted => cases connected
  | unconfirmed standing asks =>
    obtain ⟨bound, sent, received⟩ := agreed standing
    refine ⟨bound, ?_, received⟩
    simp only [Ledger.enter, asks.takes]
    exact sent
  | confirmed standing asks result =>
    obtain ⟨bound, sent, received⟩ := agreed standing
    refine ⟨bound, ?_, received⟩
    simp only [Ledger.enter, repliesIn_append_written, asks.takes, sent]
    exact Seq.next_ofNat ledger.acknowledged
  | unreceived standing hears =>
    obtain ⟨bound, sent, received⟩ := agreed standing
    refine ⟨?_, sent, received⟩
    simp only [Ledger.enter, hears.splits_not]
    exact bound
  | unacknowledged standing hears error =>
    obtain ⟨bound, sent, received⟩ := agreed standing
    refine ⟨?_, sent, received⟩
    simp only [Ledger.enter, heardIn_append_written, hears.splits]
    rfl
  | received standing hears =>
    obtain ⟨bound, sent, received⟩ := agreed standing
    refine ⟨?_, sent, ?_⟩
    · simp only [Ledger.enter, heardIn_append_written, hears.splits]
      rfl
    · simp only [Ledger.enter, received]
      exact Seq.next_ofNat ledger.answered

/-- What is sent over a connection, or to open one, is what the ledger explains. -/
theorem explains (performs : Performs operation before calls result after)
    (agreed : before.phase = .connected → ledger.Agrees before) {header body : Bytes}
    (said : Said calls header body) :
    ledger.Explains operation calls result (header ++ body) := by
  -- Beside the SYMMs of its wait, each way of conducting an operation sends one PDU at most.
  cases performs with
  | refused needed missing => simp [Said] at said
  | activated timeoutMs result => simp [Said] at said
  | proposed asks =>
    rcases asks.said said with ⟨rfl, rfl⟩ | symm
    · exact Ledger.explains_plain rfl rfl rfl connectParameters
    · exact .inl symm
  | unheard hears => exact .inl (hears.said said)
  | accepted hears result =>
    rcases (said_append_iff ..).mp said with said | said
    · exact .inl (hears.said said)
    · obtain ⟨rfl, rfl⟩ := (said_written_iff ..).mp said
      apply Ledger.explains_plain _ rfl rfl
      simp only [Ledger.enter, heardIn_append_written, hears.parsed]
      rfl
  | released standing asks =>
    rcases asks.said said with ⟨rfl, rfl⟩ | symm
    · apply Ledger.explains_plain _ rfl rfl
      exact (agreed standing).bound
    · exact .inl symm
  | unreleased standing waits => exact .inl (waits.said said)
  | releaseAccepted standing waits result =>
    rcases (said_append_iff ..).mp said with said | said
    · exact .inl (waits.said said)
    · obtain ⟨rfl, rfl⟩ := (said_written_iff ..).mp said
      apply Ledger.explains_plain _ rfl rfl
      exact (agreed standing).bound
  | unconfirmed standing asks =>
    rcases asks.said said with ⟨rfl, rfl⟩ | symm
    · exact (agreed standing).explains_information ..
    · exact .inl symm
  | confirmed standing asks result =>
    rcases (said_append_iff ..).mp said with said | said
    · rcases asks.said said with ⟨rfl, rfl⟩ | symm
      · exact (agreed standing).explains_information ..
      · exact .inl symm
    · obtain ⟨rfl, rfl⟩ := (said_written_iff ..).mp said
      exact .inl rfl
  | unreceived standing hears => exact .inl (hears.said said)
  | unacknowledged standing hears error =>
    rcases (said_append_iff ..).mp said with said | said
    · exact .inl (hears.said said)
    · obtain ⟨rfl, rfl⟩ := (said_written_iff ..).mp said
      exact Ledger.explains_acknowledgement hears ..
  | received standing hears =>
    rcases (said_append_iff ..).mp said with said | said
    · exact .inl (hears.said said)
    · obtain ⟨rfl, rfl⟩ := (said_written_iff ..).mp said
      exact Ledger.explains_acknowledgement hears ..

/-- A reception answers what stands behind the three octets of the header. -/
theorem answers_field (performs : Performs operation before calls result after) {field : Bytes}
    (succeeds : result = .ok (some field)) :
    ∃ pdu, firstOf .information (heardIn calls) = some pdu ∧ 3 ≤ pdu.length ∧
      field = pdu.drop 3 := by
  cases performs with
  | received standing hears =>
    cases succeeds
    obtain ⟨pdu, first, long, behind, -⟩ := hears.numbered
    rw [heardIn_append_written]
    exact ⟨pdu, first, long, behind⟩
  | refused | unheard | unreleased | unconfirmed | unreceived | unacknowledged => cases succeeds
  | activated timeoutMs result | accepted hears result | releaseAccepted standing waits result
  | confirmed standing asks result => cases result <;> cases succeeds
  | @proposed connection timeoutMs calls result asks => cases result <;> cases succeeds
  | @released connection calls result standing asks => cases result <;> cases succeeds

end Performs

/-! ### Whole runs -/

section Runs

variable {σ : Type} [Host σ] [PeerLink σ] {first last : Endpoint (Observed σ)}
variable {history earlier later : List (Step (Observed σ))} {step : Step (Observed σ)}

theorem Run.agrees (run : Run first history last)
    (fresh : first.connection.phase ≠ .connected) (connected : last.connection.phase = .connected) :
    (Ledger.of history).Agrees last.connection := by
  induction run with
  | start => exact absurd connected fresh
  | step run ended ih =>
    rw [Ledger.of_append]
    exact (Step.observed ended).2.agrees ih connected

/-- Every frame that an operation sends is SYMM or has the header that the history determines, and
what a reception answers stands behind the header of the PDU that it took. -/
theorem Run.pdus_follow_history {link : σ} {settings : LinkSettings}
    (run : Run { link := { inner := link }, settings } (earlier ++ step :: later) last) :
    (∀ header body result, .written header body result ∈ step.calls →
      (Ledger.of earlier).Explains step.operation step.calls step.result (header ++ body)) ∧
    (∀ field, step.result = .ok (some field) → ∃ pdu,
      firstOf .information (heardIn step.calls) = some pdu ∧ 3 ≤ pdu.length ∧
        field = pdu.drop 3) := by
  obtain ⟨run, patience, ended⟩ := run.took
  have performs := (Step.observed ended).2
  constructor
  · intro header body result said
    exact performs.explains (run.agrees nofun) ⟨result, said⟩
  · intro field succeeds
    exact performs.answers_field succeeds

end Runs

/-- After one transmission and one reception from other addresses, the next information PDU goes to
those addresses and has both numbers one. -/
theorem Run.pdus_follow_rebinding_reception :
    let script : List Bytes := [[0x00, 0x00], [0x81, 0x84], [0x83, 0x44, 0x01],
      [0x17, 0x21, 0x30, 0xAA], [0x87, 0x45, 0x02]]
    let first : Endpoint (Observed (Bench PeerScript)) :=
      { link := { inner := { device := { inbound := script.map .ok } } } }
    ∃ connects transmits receives step last,
      Run first [connects, transmits, receives, step] last ∧
      step.operation = .transmit [0x10] [0x02] ∧
      (Ledger.of [connects, transmits, receives]).binding = some (0x21, 0x05) ∧
      last.link.inner.device.written.map (List.take 3) =
        [[0x11, 0x20, 0x06], [0x13, 0x20, 0x00], [0x00, 0x00], [0x87, 0x45, 0x04],
          [0x87, 0x05, 0x11], [0x00, 0x00]] ∧
      (∀ header body result, .written header body result ∈ step.calls →
        (Ledger.of [connects, transmits, receives]).Explains step.operation step.calls step.result
          (header ++ body)) := by
  intro script first
  have runs : (runOf 9 first [.connect 1000, .transmit [] [0x78], .receive,
        .transmit [0x10] [0x02]]).map (fun (history, last) =>
          ((Ledger.of (history.take 3)).binding,
            last.link.inner.device.written.map (List.take 3))) =
      some (some (0x21, 0x05), [[0x11, 0x20, 0x06], [0x13, 0x20, 0x00], [0x00, 0x00],
        [0x87, 0x45, 0x04], [0x87, 0x05, 0x11], [0x00, 0x00]]) := by
    decide +kernel
  obtain ⟨⟨history, last⟩, found, summary⟩ := Option.map_eq_some_iff.mp runs
  obtain ⟨run, operations⟩ := runOf_sound found
  simp only [List.map_eq_cons_iff, List.map_eq_nil_iff] at operations
  obtain ⟨connects, _, rfl, -, transmits, _, rfl, -, receives, _, rfl, -, step, _, rfl, operation,
    rfl⟩ := operations
  obtain ⟨bound, written⟩ := Prod.mk.inj summary
  have whole : Run first ([connects, transmits, receives] ++ step :: []) last := run
  exact ⟨connects, transmits, receives, step, last, run, operation, bound, written,
    whole.pdus_follow_history.1⟩

end NfcLink
