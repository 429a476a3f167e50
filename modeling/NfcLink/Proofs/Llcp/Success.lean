import NfcLink.Proofs.Llcp.Traffic
import NfcLink.Sim.Reply

/-!
# What successful operations show

An operation that succeeds has said what it had to say and heard the reply to it, in this
order, and only a transmission has sent an information PDU.
-/
namespace NfcLink

open scoped List

/-! ### Information PDUs that calls send -/

/-- The PDUs that the calls sent or tried to send. -/
def saidIn : List LinkCall → List Bytes
  | [] => []
  | .written header body _ :: later => (header ++ body) :: saidIn later
  | _ :: later => saidIn later

/-- The information PDUs among them. -/
def informedIn (calls : List LinkCall) : List Bytes :=
  (saidIn calls).filter (PduHeader.isOf .information)

theorem saidIn_append (earlier later : List LinkCall) :
    saidIn (earlier ++ later) = saidIn earlier ++ saidIn later := by
  induction earlier using saidIn.induct with
  | case1 => rfl
  | case2 header body result rest ih => simp only [List.cons_append, saidIn, ih]
  | case3 call rest other ih => simp only [List.cons_append, saidIn, ih]

@[simp] theorem informedIn_append (earlier later : List LinkCall) :
    informedIn (earlier ++ later) = informedIn earlier ++ informedIn later := by
  simp only [informedIn, saidIn_append, List.filter_append]

theorem mem_saidIn_iff {calls : List LinkCall} {frame : Bytes} :
    frame ∈ saidIn calls ↔ ∃ header body, Said calls header body ∧ header ++ body = frame := by
  induction calls using saidIn.induct with
  | case1 => simp [saidIn, Said]
  | case2 header body result later ih =>
    rw [saidIn, List.mem_cons, ih]
    constructor
    · rintro (rfl | ⟨header, body, ⟨result, member⟩, rfl⟩)
      · exact ⟨header, body, ⟨result, List.mem_cons_self⟩, rfl⟩
      · exact ⟨header, body, ⟨result, List.mem_cons_of_mem _ member⟩, rfl⟩
    · rintro ⟨header, body, ⟨result, member⟩, rfl⟩
      rcases List.mem_cons.mp member with same | member
      · cases same
        exact .inl rfl
      · exact .inr ⟨header, body, ⟨result, member⟩, rfl⟩
  | case3 call later other ih =>
    rw [saidIn, ih]
    · constructor
      · rintro ⟨header, body, ⟨result, member⟩, rfl⟩
        exact ⟨header, body, ⟨result, List.mem_cons_of_mem _ member⟩, rfl⟩
      · rintro ⟨header, body, ⟨result, member⟩, rfl⟩
        rcases List.mem_cons.mp member with same | member
        · exact absurd same.symm (other header body result)
        · exact ⟨header, body, ⟨result, member⟩, rfl⟩
    · exact other

theorem informedIn_eq_nil {calls : List LinkCall}
    (silent : ∀ header body, Said calls header body →
      PduHeader.isOf .information (header ++ body) = false) : informedIn calls = [] := by
  rw [informedIn, List.filter_eq_nil_iff]
  intro frame member
  obtain ⟨header, body, said, rfl⟩ := mem_saidIn_iff.mp member
  rw [silent header body said]
  exact Bool.false_ne_true

/-! ### What successful operations said and heard -/

theorem PduHeader.isOf_encode (header : PduHeader) (field : Bytes)
    (coded : PduType.ofBits header.type.bits = header.type) :
    PduHeader.isOf .information (header.encode ++ field) = decide (header.type = .information) :=
  PduHeader.isOf_of_typeOf (PduHeader.typeOf_encode header field coded)

section Waiting

variable {header body : Bytes} {reply : PduType} {calls : List LinkCall} {pdu : Bytes}

theorem Waits.informedIn_eq_nil {wanted : List PduType} {result : Except Error Bytes}
    (waits : Waits wanted calls result) : informedIn calls = [] := by
  apply NfcLink.informedIn_eq_nil
  intro header body said
  rw [waits.said said]
  rfl

theorem TakesTurn.informedIn_eq_nil {result : Except Error Unit} (turn : TakesTurn calls result) :
    informedIn calls = [] :=
  NfcLink.informedIn_eq_nil fun header body said => absurd said (turn.said header body)

/-- A wait that succeeds ends with the PDU that it waited for. -/
theorem Waits.last {wanted : List PduType} (waits : Waits wanted calls (.ok pdu)) :
    [.read (.ok pdu)] <:+ calls := by
  generalize same : Except.ok pdu = result at waits
  induction waits with
  | taken typed member =>
    cases same
    exact List.suffix_refl _
  | answered symm other rest ih => exact (ih same).trans (List.suffix_append [_, _] _)
  | _ => cases same

theorem Waits.typed (waits : Waits [reply] calls (.ok pdu)) : PduHeader.typeOf pdu = .ok reply :=
  typeOf_firstOf waits.takes

theorem Hears.waited {α : Type} {make : Bytes → Except Error α} {answer : α}
    (hears : Hears reply make calls (.ok answer)) :
    ∃ pdu, make pdu = .ok answer ∧ Waits [reply] calls (.ok pdu) := by
  generalize same : Except.ok answer = result at hears
  cases hears with
  | unmet waits => cases same
  | @met pdu waits => exact ⟨pdu, rfl, waits⟩

/-- One PDU is sent, and the reply to it is heard afterwards. -/
theorem Asks.exchanged (asks : Asks header body reply calls (.ok pdu)) :
    PduHeader.typeOf pdu = .ok reply ∧
      [.written header body (.ok ()), .read (.ok pdu)] <+ calls := by
  generalize same : Except.ok pdu = result at asks
  cases asks with
  | unsent error => cases same
  | sent waits =>
    cases same
    exact ⟨waits.typed, waits.last.sublist.cons_cons _⟩

theorem AsksInTurn.exchanged (asks : AsksInTurn header body reply calls (.ok pdu)) :
    PduHeader.typeOf pdu = .ok reply ∧
      [.written header body (.ok ()), .read (.ok pdu)] <+ calls := by
  generalize same : Except.ok pdu = result at asks
  cases asks with
  | noTurn turn => cases same
  | turn turn asks =>
    cases same
    obtain ⟨typed, exchanged⟩ := asks.exchanged
    exact ⟨typed, exchanged.trans (List.sublist_append_right ..)⟩

theorem AsksAs.exchanged {role : Role} (asks : AsksAs role header body reply calls (.ok pdu)) :
    PduHeader.typeOf pdu = .ok reply ∧
      [.written header body (.ok ()), .read (.ok pdu)] <+ calls := by
  cases role with
  | target => exact AsksInTurn.exchanged asks
  | initiator => exact Asks.exchanged asks

theorem Asks.informedIn_eq (asks : Asks header body reply calls (.ok pdu)) :
    informedIn calls = [header ++ body].filter (PduHeader.isOf .information) := by
  generalize same : Except.ok pdu = result at asks
  cases asks with
  | unsent error => cases same
  | @sent waited _ waits =>
    have said := informedIn_append [.written header body (.ok ())] waited
    rw [waits.informedIn_eq_nil, List.append_nil] at said
    exact said

theorem AsksInTurn.informedIn_eq (asks : AsksInTurn header body reply calls (.ok pdu)) :
    informedIn calls = [header ++ body].filter (PduHeader.isOf .information) := by
  generalize same : Except.ok pdu = result at asks
  cases asks with
  | noTurn turn => cases same
  | turn turn asks =>
    cases same
    rw [informedIn_append, turn.informedIn_eq_nil, List.nil_append, asks.informedIn_eq]

theorem AsksAs.informedIn_eq {role : Role} (asks : AsksAs role header body reply calls (.ok pdu)) :
    informedIn calls = [header ++ body].filter (PduHeader.isOf .information) := by
  cases role with
  | target => exact AsksInTurn.informedIn_eq asks
  | initiator => exact Asks.informedIn_eq asks

end Waiting

/-- What an operation can send: one PDU that it is about, and besides it headers alone, as SYMMs and
acknowledgements are. -/
inductive Operation.Sends (connection : Connection) : Operation → Bytes → Prop where
  | bare {operation : Operation} (pdu : PduHeader)
      (silent : PduHeader.isOf .information pdu.encode = false) :
    Sends connection operation pdu.encode
  | proposal (timeoutMs : Nat) : Sends connection (.connect timeoutMs)
      ((Connection.proposing.plain .connect).encode ++ connectParameters)
  | information (header body : Bytes) : Sends connection (.transmit header body)
      (connection.information.encode ++ header ++ body)

theorem Operation.Sends.of_informs {connection : Connection} {operation : Operation} {pdu : Bytes}
    (sends : operation.Sends connection pdu) (informs : PduHeader.isOf .information pdu = true) :
    ∃ header body, operation = .transmit header body ∧
      pdu = connection.information.encode ++ header ++ body := by
  cases sends with
  | bare pdu silent =>
    rw [silent] at informs
    cases informs
  | proposal timeoutMs => cases informs
  | information header body => exact ⟨header, body, rfl, rfl⟩

namespace Performs

variable {before after : Connection} {calls : List LinkCall} {timeoutMs : Nat}
variable {answer : Option Bytes}

theorem activation (performs : Performs (.activate timeoutMs) before calls (.ok answer) after) :
    calls = [.activated timeoutMs (.ok ())] := by
  generalize same : Except.ok answer = result at performs
  cases performs with
  | refused needed missing => cases needed
  | activated _ ending =>
    cases ending with
    | error error => cases same
    | ok done => rfl

/-- Whatever the link does, an operation sends nothing else. -/
theorem sends {operation : Operation} {result : Except Error (Option Bytes)}
    (performs : Performs operation before calls result after) {header body : Bytes}
    (said : Said calls header body) : operation.Sends before (header ++ body) := by
  have symm (same : header ++ body = [0x00, 0x00]) : operation.Sends before (header ++ body) := by
    rw [same]
    exact .bare PduHeader.symm rfl
  have bare (pdu : PduHeader) (silent : PduHeader.isOf .information (pdu.encode ++ []) = false) :
      operation.Sends before (pdu.encode ++ []) := by
    rw [List.append_nil] at silent ⊢
    exact .bare pdu silent
  -- Behind what a wait sends there is at most one more PDU, a header alone.
  cases performs with
  | refused needed missing => simp [Said] at said
  | activated timeoutMs result => simp [Said] at said
  | proposed asks =>
    rcases asks.said said with ⟨rfl, rfl⟩ | same
    · exact .proposal _
    · exact symm same
  | released connected asks =>
    rcases asks.said said with ⟨rfl, rfl⟩ | same
    · exact bare _ (PduHeader.isOf_encode _ _ rfl)
    · exact symm same
  | unheard hears | unreceived connected hears => exact symm (hears.said said)
  | unreleased connected waits => exact symm (waits.said said)
  | accepted hears | unacknowledged connected hears | received connected hears =>
    rcases (said_append_iff ..).mp said with said | said
    · exact symm (hears.said said)
    · obtain ⟨rfl, rfl⟩ := (said_written_iff ..).mp said
      exact bare _ (PduHeader.isOf_encode _ _ rfl)
  | releaseAccepted connected waits result =>
    rcases (said_append_iff ..).mp said with said | said
    · exact symm (waits.said said)
    · obtain ⟨rfl, rfl⟩ := (said_written_iff ..).mp said
      exact bare _ (PduHeader.isOf_encode _ _ rfl)
  | unconfirmed connected asks =>
    rcases asks.said said with ⟨rfl, rfl⟩ | same
    · exact .information ..
    · exact symm same
  | confirmed connected asks result =>
    rcases (said_append_iff ..).mp said with said | said
    · rcases asks.said said with ⟨rfl, rfl⟩ | same
      · exact .information ..
      · exact symm same
    · obtain ⟨rfl, rfl⟩ := (said_written_iff ..).mp said
      exact bare _ (PduHeader.isOf_encode _ _ rfl)

/-- Only a transmission sends information PDUs, and these are its own. -/
theorem of_informs {operation : Operation} {result : Except Error (Option Bytes)}
    (performs : Performs operation before calls result after) {pdu : Bytes}
    (member : pdu ∈ informedIn calls) :
    ∃ header body, operation = .transmit header body ∧
      pdu = before.information.encode ++ header ++ body := by
  obtain ⟨sent, informs⟩ := List.mem_filter.mp member
  obtain ⟨header, body, said, rfl⟩ := mem_saidIn_iff.mp sent
  exact (performs.sends said).of_informs informs

theorem informedIn_eq_nil {operation : Operation} {result : Except Error (Option Bytes)}
    (performs : Performs operation before calls result after)
    (other : ∀ header body, operation ≠ .transmit header body) : informedIn calls = [] := by
  apply List.eq_nil_iff_forall_not_mem.mpr
  intro pdu member
  obtain ⟨header, body, transmits, -⟩ := performs.of_informs member
  exact other header body transmits

theorem proposal (performs : Performs (.connect timeoutMs) before calls (.ok answer) after) :
    after = { Connection.proposing with phase := .connected } ∧
      ∃ cc, PduHeader.typeOf cc = .ok .cc ∧
        [.written (Reply.pdu exchangeService .connect initiatorAddress) connectParameters (.ok ()),
          .read (.ok cc)] <+ calls := by
  generalize same : Except.ok answer = result at performs
  cases performs with
  | refused needed missing => cases needed
  | @proposed _ _ _ ending asks =>
    cases ending with
    | error error => cases same
    | ok cc => exact ⟨rfl, cc, asks.exchanged⟩

theorem transmission {header body : Bytes}
    (performs : Performs (.transmit header body) before calls (.ok answer) after) :
    after = { before with ns := before.ns.next } ∧
      informedIn calls = [before.information.encode ++ header ++ body] ∧
      ∃ receiveReady, PduHeader.typeOf receiveReady = .ok .receiveReady ∧
        [.written (before.information.encode ++ header) body (.ok ()),
          .read (.ok receiveReady)] <+ calls := by
  generalize same : Except.ok answer = result at performs
  cases performs with
  | refused needed missing => cases same
  | unconfirmed connected asks => cases same
  | @confirmed _ _ _ asked receiveReady connected asks ending =>
    obtain ⟨typed, exchanged⟩ := asks.exchanged
    refine ⟨rfl, ?_, receiveReady, typed, exchanged.trans (List.sublist_append_left ..)⟩
    have informed : PduHeader.isOf .information (before.information.encode ++ header ++ body) =
        true := by
      rw [List.append_assoc, PduHeader.isOf_encode _ _ rfl]
      rfl
    have passed : informedIn [.written PduHeader.symm.encode [] ending] = [] := rfl
    rw [informedIn_append, asks.informedIn_eq, passed, List.append_nil,
      List.filter_cons_of_pos informed, List.filter_nil]

theorem acceptance (performs : Performs (.accept timeoutMs) before calls (.ok answer) after) :
    ∃ dsap ssap, after = ⟨.target, .connected, dsap, ssap, 0, 0⟩ := by
  generalize same : Except.ok answer = result at performs
  cases performs with
  | refused needed missing => cases needed
  | unheard hears => cases same
  | accepted hears ending =>
    cases ending with
    | error error => cases same
    | ok done => exact ⟨_, _, rfl⟩

/-- The last calls of a reception take the PDU and acknowledge it. -/
theorem reception (performs : Performs .receive before calls (.ok answer) after) :
    ∃ dsap ssap ns nr field, answer = some field ∧
      after = { before with
        phase := .connected, dsap := ssap, ssap := dsap, nr := before.nr.next } ∧
      [.read (.ok (Reply.information dsap ssap ns nr field)),
        .written (Reply.receiveReady ssap dsap ns.next) [] (.ok ())] <:+ calls := by
  generalize same : Except.ok answer = result at performs
  cases performs with
  | refused needed missing => cases same
  | unreceived connected hears => cases same
  | unacknowledged connected hears error => cases same
  | @received _ heard inbound field connected hears =>
    cases same
    obtain ⟨pdu, read, waits⟩ := hears.waited
    have last := waits.last
    have informs := PduHeader.type_of_split waits.typed read
    obtain ⟨-, -, numbered⟩ := PduHeader.split_sequenced waits.typed rfl read
    obtain ⟨dsap, type, ssap, numbers⟩ := inbound
    obtain ⟨⟨ns, nr⟩, rfl⟩ := Option.isSome_iff_exists.mp numbered
    cases informs
    rw [← PduHeader.encode_append_of_split read] at last
    obtain ⟨earlier, rfl⟩ := last
    refine ⟨dsap, ssap, ns, nr, field, rfl, ?_, earlier, ?_⟩
    · rw [← connected]
      rfl
    · rw [List.append_assoc]
      rfl

/-- A connection that was there is gone, whatever comes of its release. -/
theorem release_idle {result : Except Error (Option Bytes)}
    (performs : Performs .release before calls result after)
    (connected : before.phase = .connected) :
    after.phase = .idle := by
  cases performs with
  | refused needed missing => exact absurd connected missing
  | released standing asks => rfl

end Performs

end NfcLink
