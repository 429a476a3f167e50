import NfcLink.Proofs.Link.Turns
import NfcLink.Proofs.Llcp.Lifecycle
import NfcLink.Proofs.Llcp.Traffic

/-!
# Whose turn it is

Every operation reads and writes alternately, whatever the link does. Which turn it starts
with depends on the role alone, and which one it leaves when it succeeds on the operation
alone. An end that accepted its connection therefore never writes without having read. An
end that opened it starts a transmission with a write, right after a write of its own if
there was one before on this connection.
-/
namespace NfcLink

open NfcLink.Action Outcome

/-- From this turn on the calls alternate, and to that turn if they succeed. -/
def TurnsOver {α : Type} (first : Turn) (calls : List LinkCall) (result : Except Error α)
    (last : Turn) : Prop :=
  ∃ turn, Alternates first calls turn ∧ (result.isOk = true → turn = last)

namespace TurnsOver

variable {α β : Type} {first middle last : Turn} {calls earlier later : List LinkCall}
variable {result : Except Error α}

theorem of_alternates (alternates : Alternates first calls last) :
    TurnsOver first calls result last :=
  ⟨last, alternates, fun _ => rfl⟩

theorem of_error {error : Error} (alternates : Alternates first calls middle) :
    TurnsOver first calls (.error error : Except Error α) last :=
  ⟨middle, alternates, nofun⟩

theorem alternates {answer : α} (turns : TurnsOver first calls (.ok answer) last) :
    Alternates first calls last := by
  obtain ⟨turn, alternates, same⟩ := turns
  rw [← same rfl]
  exact alternates

theorem append (start : Alternates first earlier middle)
    (rest : TurnsOver middle later result last) :
    TurnsOver first (earlier ++ later) result last := by
  obtain ⟨turn, alternates, same⟩ := rest
  exact ⟨turn, start.append alternates, same⟩

/-- A failure that calls nothing more leaves the turn as it was. -/
theorem fails {error : Error} (turns : TurnsOver first calls result middle) :
    TurnsOver first calls (.error error : Except Error β) last := by
  obtain ⟨turn, alternates, -⟩ := turns
  exact of_error alternates

end TurnsOver

/-! ### Reads that decide -/

theorem TakesTurn.turns {calls : List LinkCall} {result : Except Error Unit}
    (turn : TakesTurn calls result) : Alternates .hear calls .speak := by
  cases turn <;> exact .read _

theorem Waits.turns {wanted : List PduType} {calls : List LinkCall} {result : Except Error Bytes}
    (waits : Waits wanted calls result) : TurnsOver .hear calls result .speak := by
  induction waits with
  | expired => exact .of_error (.still .hear)
  | unread | untyped | taken | unexpected | exhausted => exact .of_alternates (.read _)
  | unanswered symm other error => exact .of_error (.heard _ (.written _ _ _))
  | answered symm other rest ih => exact .append (.heard _ (.written _ _ _)) ih

theorem Hears.turns {α : Type} {type : PduType} {make : Bytes → Except Error α}
    {calls : List LinkCall} {result : Except Error α} (hears : Hears type make calls result) :
    TurnsOver .hear calls result .speak := by
  cases hears with
  | unmet waits => exact waits.turns.fails
  | met waits => exact .of_alternates waits.turns.alternates

section Asking

variable {header body : Bytes} {reply : PduType} {calls : List LinkCall}
variable {result : Except Error Bytes}

theorem Asks.turns (asks : Asks header body reply calls result) :
    TurnsOver .speak calls result .speak := by
  cases asks with
  | unsent error => exact .of_error (.written _ _ _)
  | sent waits => exact .append (.written _ _ _) waits.turns

theorem AsksInTurn.turns (asks : AsksInTurn header body reply calls result) :
    TurnsOver .hear calls result .speak := by
  cases asks with
  | noTurn turn => exact .of_error turn.turns
  | turn turn asks => exact .append turn.turns asks.turns

/-- The turn with which a role starts to ask. -/
def Role.turn : Role → Turn
  | .target => .hear
  | .initiator => .speak

theorem AsksAs.turns {role : Role} (asks : AsksAs role header body reply calls result) :
    TurnsOver role.turn calls result .speak := by
  cases role with
  | target => exact AsksInTurn.turns asks
  | initiator => exact Asks.turns asks

end Asking

/-! ### Operations -/

namespace Operation

/-- Has the link activated instead of using it. -/
def activates : Operation → Bool
  | activate _ => true
  | _ => false

/-- The turn that an operation starts with. -/
def firstTurn (role : Role) : Operation → Turn
  | transmit _ _ => role.turn
  | _ => .hear

/-- The turn that an operation leaves when it succeeds. -/
def lastTurn : Operation → Turn
  | connect _ => .speak
  | release => .speak
  | _ => .hear

/-- The role that an operation leaves to its endpoint. -/
def roleAfter (role : Role) : Operation → Role
  | connect _ => .initiator
  | accept _ => .target
  | _ => role

variable {operation : Operation} {role : Role}

theorem roleAfter_of_needsConnection (needed : operation.needsConnection = true) :
    operation.roleAfter role = role := by
  cases operation with
  | activate | connect | accept => cases needed
  | transmit | receive | release | acceptRelease => rfl

theorem opens_of_needsConnection (needed : operation.needsConnection = true) :
    operation.opens = false := by
  cases operation with
  | activate | connect | accept => cases needed
  | transmit | receive | release | acceptRelease => rfl

theorem activates_of_needsConnection (needed : operation.needsConnection = true) :
    operation.activates = false := by
  cases operation with
  | activate | connect | accept => cases needed
  | transmit | receive | release | acceptRelease => rfl

/-- Only a transmission can start with a write. -/
theorem transmits_of_speak (speaks : operation.firstTurn role = .speak) :
    ∃ header body, operation = .transmit header body := by
  cases operation with
  | transmit header body => exact ⟨header, body, rfl⟩
  | activate | connect | accept | receive | release | acceptRelease => cases speaks

theorem firstTurn_target : operation.firstTurn .target = .hear := by
  cases operation <;> rfl

end Operation

namespace Performs

variable {operation : Operation} {before after : Connection} {calls : List LinkCall}
variable {result : Except Error (Option Bytes)}

theorem role (performs : Performs operation before calls result after) :
    after.role = operation.roleAfter before.role := by
  cases performs with
  | refused needed missing => exact (Operation.roleAfter_of_needsConnection needed).symm
  | _ => rfl

/-- An operation that uses the link, whatever comes of it, reads and writes alternately. -/
theorem turns (performs : Performs operation before calls result after)
    (uses : operation.activates = false) :
    TurnsOver (operation.firstTurn before.role) calls result operation.lastTurn := by
  have mapped {α : Type} {first last : Turn} {calls : List LinkCall} {ending : Except Error α}
      (turns : TurnsOver first calls ending last) :
      TurnsOver first calls (ending.map fun _ => (none : Option Bytes)) last := by
    obtain ⟨turn, alternates, same⟩ := turns
    exact ⟨turn, alternates, fun succeeds => same (isOk_map _ ending ▸ succeeds)⟩
  cases performs with
  | refused needed missing => exact .of_error (.still _)
  | activated timeoutMs result => cases uses
  | proposed asks => exact mapped asks.turns
  | unheard hears => exact hears.turns.fails
  | accepted hears result => exact .of_alternates (hears.turns.alternates.append (.written _ _ _))
  | released connected asks => exact mapped asks.turns
  | unreleased connected waits => exact waits.turns.fails
  | releaseAccepted connected waits result =>
    exact .of_alternates (waits.turns.alternates.append (.written _ _ _))
  | unconfirmed connected asks => exact asks.turns.fails
  | confirmed connected asks result =>
    exact .of_alternates (asks.turns.alternates.append (.written _ _ _))
  | unreceived connected hears => exact hears.turns.fails
  | unacknowledged connected hears error | received connected hears =>
    exact .of_alternates (hears.turns.alternates.append (.written _ _ _))

/-- A transfer that succeeds ends with a SYMM or an acknowledgement. -/
theorem closes {answer : Option Bytes}
    (performs : Performs operation before calls (.ok answer) after)
    (transfers : operation.transfers = true) :
    ∃ frame, calls.getLast? = some (.written frame [] (.ok ())) ∧
      (PduHeader.typeOf frame = .ok .symm ∨ PduHeader.typeOf frame = .ok .receiveReady) := by
  generalize succeeds : Except.ok answer = result at performs
  cases performs with
  | activated | proposed | accepted | released | releaseAccepted => cases transfers
  | refused | unheard | unreleased | unconfirmed | unreceived | unacknowledged => cases succeeds
  | confirmed connected asks result =>
    cases result with
    | ok answer => exact ⟨_, List.getLast?_concat, .inl rfl⟩
    | error error => cases succeeds
  | @received _ _ inbound _ connected hears =>
    have typed := PduHeader.typeOf_encode (Connection.acknowledgement inbound) [] rfl
    rw [List.append_nil] at typed
    exact ⟨_, List.getLast?_concat, .inr typed⟩

/-- A transmission of an initiator that succeeds begins with its information PDU, and from then on
it reads and writes alternately. -/
theorem speaks_at_once {header body : Bytes} {answer : Option Bytes}
    (performs : Performs (.transmit header body) before calls (.ok answer) after)
    (initiator : before.role = .initiator) :
    ∃ more, calls = .written (before.information.encode ++ header) body (.ok ()) :: more ∧
      Alternates .hear more .hear := by
  generalize succeeds : Except.ok answer = result at performs
  cases performs with
  | refused | unconfirmed => cases succeeds
  | confirmed connected asks result =>
    rw [initiator] at asks
    cases asks with
    | sent waits => exact ⟨_, rfl, waits.turns.alternates.append (.written _ _ _)⟩

end Performs

/-! ### Runs -/

section Runs

variable {σ : Type} [Host σ] [PeerLink σ] {first last : Endpoint (Observed σ)}
variable {opening : Step (Observed σ)} {history later : List (Step (Observed σ))} {timeoutMs : Nat}

/-- The observer has seen the calls of the steps, one step after the other. -/
theorem Run.calls (run : Run first history last) :
    last.link.calls = first.link.calls ++ history.flatMap Step.calls := by
  induction run with
  | start => simp
  | step run ended ih =>
    obtain ⟨seen, -⟩ := Step.observed ended
    rw [seen, ih, List.append_assoc, List.flatMap_append]
    simp

/-- On a connection the role stays. -/
theorem Run.role (run : Run first history last)
    (needs : ∀ step ∈ history, step.operation.needsConnection = true) :
    last.connection.role = first.connection.role := by
  induction run with
  | start => rfl
  | step run ended ih =>
    have earlier := ih fun step member => needs step (List.mem_append_left _ member)
    obtain ⟨-, performs⟩ := Step.observed ended
    have needed := needs _ List.mem_concat_self
    exact performs.role.trans ((Operation.roleAfter_of_needsConnection needed).trans earlier)

theorem Run.target_turns (run : Run first history last)
    (target : first.connection.role = .target)
    (needs : ∀ step ∈ history, step.operation.needsConnection = true) (before : List LinkCall) :
    WritesFollowReads before (history.flatMap Step.calls) := by
  induction run with
  | start =>
    intro earlier header body result later impossible
    simp at impossible
  | step run ended ih =>
    have needed := fun step member => needs step (List.mem_append_left _ member)
    obtain ⟨-, performs⟩ := Step.observed ended
    have uses := Operation.activates_of_needsConnection (needs _ List.mem_concat_self)
    obtain ⟨turn, alternates, -⟩ := performs.turns uses
    rw [run.role needed, target, Operation.firstTurn_target] at alternates
    rw [List.flatMap_append, List.flatMap_singleton]
    exact (ih needed).append (alternates.writesFollowReads nofun)

/-- Once an end has accepted a connection, it writes after reads only. -/
theorem Run.accepted_turns (run : Run first (opening :: later) last)
    (accepts : opening.operation = .accept timeoutMs)
    (needs : ∀ step ∈ later, step.operation.needsConnection = true) :
    WritesFollowReads [] ((opening :: later).flatMap Step.calls) := by
  obtain ⟨between, accepting, rest⟩ := run.uncons
  obtain ⟨rfl, rfl, patience, ended⟩ := accepting.single
  obtain ⟨-, performs⟩ := Step.observed ended
  have target : opening.after.connection.role = .target := by
    rw [performs.role, accepts]
    rfl
  have opens := performs.turns (by rw [accepts]; rfl)
  rw [accepts] at opens
  obtain ⟨turn, alternates, -⟩ := opens
  rw [List.flatMap_cons]
  exact (alternates.writesFollowReads nofun).append (rest.target_turns target needs _)

/-- The steps of a run follow on one another. -/
theorem Run.follows {earlier : List (Step (Observed σ))} {previous step : Step (Observed σ)}
    (run : Run first (earlier ++ previous :: step :: later) last) :
    previous.after = step.before := by
  rw [List.append_cons] at run
  obtain ⟨beginning, -⟩ := run.took
  obtain ⟨between, -, final⟩ := beginning.split
  obtain ⟨-, same, -⟩ := final.single
  exact same

theorem Run.performs {earlier : List (Step (Observed σ))} {step : Step (Observed σ)}
    (run : Run first (earlier ++ step :: later) last) :
    Performs step.operation step.before.connection step.calls step.result
      step.after.connection := by
  obtain ⟨-, patience, ended⟩ := run.took
  obtain ⟨-, performs⟩ := Step.observed ended
  exact performs

/-- An end that opened its connection is the initiator, and its opening ended with a read. -/
theorem Run.opens (run : Run first [opening] last)
    (opens : opening.operation = .connect timeoutMs) (succeeds : opening.result.isOk = true) :
    last.connection.role = .initiator ∧ Alternates .hear opening.calls .speak := by
  have alone : Run first ([] ++ [opening]) last := run
  have performs := alone.performs
  obtain ⟨-, rfl, -⟩ := run.single
  obtain ⟨answer, answered⟩ := isOk_iff.mp succeeds
  rw [opens, answered] at performs
  exact ⟨performs.role, (performs.turns rfl).alternates⟩

/-- An operation that succeeds on the connection of an initiator. -/
theorem Run.performs_as_initiator {earlier : List (Step (Observed σ))} {step : Step (Observed σ)}
    (run : Run first (earlier ++ step :: later) last)
    (initiator : first.connection.role = .initiator)
    (needs : ∀ other ∈ earlier ++ step :: later, other.operation.needsConnection = true)
    (succeeds : step.result.isOk = true) :
    ∃ answer, step.before.connection.role = .initiator ∧
      Performs step.operation step.before.connection step.calls (.ok answer)
        step.after.connection ∧
      Alternates (step.operation.firstTurn .initiator) step.calls step.operation.lastTurn := by
  obtain ⟨beginning, -⟩ := run.took
  have kept := beginning.role fun other member => needs other (List.mem_append_left _ member)
  have role : step.before.connection.role = .initiator := kept.trans initiator
  obtain ⟨answer, answered⟩ := isOk_iff.mp succeeds
  have performs := run.performs
  rw [answered] at performs
  have needed := needs step (List.mem_append_right _ List.mem_cons_self)
  have turns := performs.turns (Operation.activates_of_needsConnection needed)
  rw [role] at turns
  exact ⟨answer, role, performs, turns.alternates⟩

/-- Between two operations on a connection that both succeed stands a SYMM or an acknowledgement
that the first one sent. -/
theorem Run.closes {earlier : List (Step (Observed σ))} {previous step : Step (Observed σ)}
    (run : Run first (earlier ++ previous :: step :: later) last)
    (succeeds : previous.result.isOk = true ∧ step.result.isOk = true)
    (needs : previous.operation.needsConnection = true ∧ step.operation.needsConnection = true) :
    ∃ frame, (previous.calls).getLast? = some (.written frame [] (.ok ())) ∧
      (PduHeader.typeOf frame = .ok .symm ∨ PduHeader.typeOf frame = .ok .receiveReady) := by
  have performs := run.performs
  rw [run.follows] at performs
  -- A release would have left no connection for the second operation.
  have connected : step.before.connection.phase = .connected := by
    rw [List.append_cons] at run
    exact run.performs.connected needs.2 succeeds.2
  have transfers : previous.operation.transfers = true := by
    rcases performs.connected_iff.mp connected with ⟨opens, -⟩ | ⟨transfers, -⟩
    · rw [Operation.opens_of_needsConnection needs.1] at opens
      cases opens
    · exact transfers
  obtain ⟨answer, answered⟩ := isOk_iff.mp succeeds.1
  rw [answered] at performs
  exact performs.closes transfers

/-- A step that transmits after another one on the connection that `opening` opened. -/
def TransmitsAgain (earlier : List (Step (Observed σ))) (step : Step (Observed σ)) : Prop :=
  2 ≤ earlier.length ∧ ∃ header body, step.operation = .transmit header body

/-- On a connection that this end opened, as long as every operation succeeds, it writes after reads
only, with one exception: a transmission that is not the first operation on the connection
starts with its information PDU, right behind the SYMM or the acknowledgement that ended the
operation before. -/
theorem Run.opened_turns (run : Run first (opening :: later) last)
    (opens : opening.operation = .connect timeoutMs)
    (succeeds : ∀ step ∈ opening :: later, step.result.isOk = true)
    (needs : ∀ step ∈ later, step.operation.needsConnection = true) :
    last.link.calls = first.link.calls ++ (opening :: later).flatMap Step.calls ∧
    ∀ earlier step rest, opening :: later = earlier ++ step :: rest →
      (¬TransmitsAgain earlier step →
        WritesFollowReads (earlier.flatMap Step.calls) step.calls) ∧
      (TransmitsAgain earlier step → ∃ frame information body more,
        (earlier.flatMap Step.calls).getLast? = some (.written frame [] (.ok ())) ∧
        (PduHeader.typeOf frame = .ok .symm ∨ PduHeader.typeOf frame = .ok .receiveReady) ∧
        step.calls = .written information body (.ok ()) :: more ∧
        PduHeader.typeOf information = .ok .information ∧
        WritesFollowReads (earlier.flatMap Step.calls ++ [.written information body (.ok ())])
          more) := by
  refine ⟨run.calls, ?_⟩
  intro earlier step rest split
  obtain ⟨between, connecting, standing⟩ := run.uncons
  obtain ⟨initiator, opened⟩ := connecting.opens opens (succeeds opening List.mem_cons_self)
  cases earlier with
  | nil =>
    -- The first step is the opening, and that starts with a read.
    obtain ⟨rfl, -⟩ := List.cons.inj split
    exact ⟨fun _ => opened.writesFollowReads nofun, fun again => absurd again.1 (by simp)⟩
  | cons _ earlier =>
    obtain ⟨rfl, rfl⟩ := List.cons.inj split
    obtain ⟨answer, role, performs, turns⟩ :=
      standing.performs_as_initiator initiator needs (succeeds step (by simp))
    rcases List.eq_nil_or_concat earlier with rfl | ⟨former, previous, rfl⟩
    · -- The first step on the connection may write at once, because the opening ended with a read.
      refine ⟨fun _ => turns.writesFollowReads fun _ => ?_, fun again => absurd again.1 (by simp)⟩
      rcases opened.read_last with ⟨impossible, -⟩ | heard
      · cases impossible
      · simpa using heard
    · -- Any later one stands behind the write that ended `previous`.
      rw [List.concat_eq_append] at *
      have adjacent : Run between (former ++ previous :: step :: rest) last := by
        simpa using standing
      obtain ⟨frame, closing, type⟩ := adjacent.closes
        ⟨succeeds previous (by simp), succeeds step (by simp)⟩
        ⟨needs previous (by simp), needs step (by simp)⟩
      have behind : ((opening :: (former ++ [previous])).flatMap Step.calls).getLast? =
          some (.written frame [] (.ok ())) := by
        rw [← List.cons_append, List.flatMap_append, List.flatMap_singleton, List.getLast?_append,
          closing]
        rfl
      constructor
      · intro others
        refine turns.writesFollowReads fun speaks => absurd ⟨?_, ?_⟩ others
        · simp
        · exact Operation.transmits_of_speak speaks
      · rintro ⟨-, header, body, transmits⟩
        rw [transmits] at performs
        obtain ⟨more, same, waits⟩ := performs.speaks_at_once role
        exact ⟨frame, _, body, more, behind, type, same, PduHeader.typeOf_encode _ header rfl,
          waits.writesFollowReads nofun⟩

end Runs

/-- Accepts a connection and acknowledges two PDUs, the second one after a SYMM. -/
def acceptingPeer : Observed (Bench PeerScript) :=
  let script := [[0x00, 0x00], [0x81, 0x84], [0x83, 0x44, 0x01], [0x00, 0x00], [0x83, 0x44, 0x02]]
  { inner := { device := { inbound := script.map .ok } } }

theorem run_with_acceptingPeer :
    ∃ opening former latter last, Run { link := acceptingPeer } [opening, former, latter] last ∧
      opening.operation = .connect 1000 ∧ former.operation = .transmit [] [0x78] ∧
      latter.operation = .transmit [] [0x79] ∧
      (∀ step ∈ [opening, former, latter], step.result.isOk = true) ∧
      speaksTwice ([opening, former, latter].flatMap Step.calls) = true := by
  have runs : (runOf 9 { link := acceptingPeer }
      [.connect 1000, .transmit [] [0x78], .transmit [] [0x79]]).any fun (history, _) =>
        history.all (fun step => step.result.isOk) && speaksTwice (history.flatMap Step.calls) := by
    decide +kernel
  obtain ⟨⟨history, last⟩, found, summary⟩ := (Option.any_eq_true ..).mp runs
  obtain ⟨run, operations⟩ := runOf_sound found
  simp only [List.map_eq_cons_iff, List.map_eq_nil_iff] at operations
  obtain ⟨opening, _, rfl, opens, former, _, rfl, first, latter, _, rfl, second, rfl⟩ := operations
  obtain ⟨succeeds, twice⟩ := Bool.and_eq_true_iff.mp summary
  exact ⟨opening, former, latter, last, run, opens, first, second, List.all_eq_true.mp succeeds,
    twice⟩

/-- Two transmissions that both succeed send two PDUs in a row: the SYMM that ends the first one and
the information PDU of the second. -/
theorem opened_speaks_twice :
    ¬∀ opening later last timeoutMs, Run { link := acceptingPeer } (opening :: later) last →
      opening.operation = .connect timeoutMs →
      (∀ step ∈ opening :: later, step.result.isOk = true) →
      (∀ step ∈ later, step.operation.transfers = true ∨ step.operation = .release) →
      WritesFollowReads [] ((opening :: later).flatMap Step.calls) := by
  intro follows
  obtain ⟨opening, former, latter, last, run, opens, first, second, succeeds, twice⟩ :=
    run_with_acceptingPeer
  have transfers : ∀ step ∈ [former, latter],
      step.operation.transfers = true ∨ step.operation = .release := by
    simp [first, second, Operation.transfers]
  have once := (follows opening _ last 1000 run opens succeeds transfers).not_speaksTwice
  rw [twice] at once
  cases once

theorem acceptingPeer_opened_turns :
    ∃ opening former latter last, Run { link := acceptingPeer } [opening, former, latter] last ∧
      TransmitsAgain [opening, former] latter ∧
      WritesFollowReads [] opening.calls ∧ WritesFollowReads opening.calls former.calls ∧
      ∃ information body more, latter.calls = .written information body (.ok ()) :: more ∧
        ∃ frame, (opening.calls ++ former.calls).getLast? = some (.written frame [] (.ok ())) := by
  obtain ⟨opening, former, latter, last, run, opens, first, second, succeeds, -⟩ :=
    run_with_acceptingPeer
  have needs : ∀ step ∈ [former, latter], step.operation.needsConnection = true := by
    simp [first, second, Operation.needsConnection]
  obtain ⟨-, turns⟩ := run.opened_turns opens succeeds needs
  have again : TransmitsAgain [opening, former] latter := ⟨Nat.le_refl 2, _, _, second⟩
  obtain ⟨start, -⟩ := turns [] opening [former, latter] rfl
  obtain ⟨next, -⟩ := turns [opening] former [latter] rfl
  obtain ⟨-, final⟩ := turns [opening, former] latter [] rfl
  obtain ⟨frame, information, body, more, behind, -, same, -⟩ := final again
  refine ⟨opening, former, latter, last, run, again, ?_, ?_, information, body, more, same, frame,
    ?_⟩
  · exact start fun early => absurd early.1 (by simp)
  · simpa using next fun early => absurd early.1 (by simp)
  · simpa using behind

end NfcLink
