import NfcLink.Proofs.Llcp.Performed
import NfcLink.Snep.Exchange

/-!
# How objects are exchanged

Pushing and pulling are operations carried out one after the other, with a look at the
message in between. `Pushes` and `Pulls` list every way in which they can end, so that
statements about them are read off what is known of the operations.
-/
namespace NfcLink

open NfcLink.Action Outcome

/-- Operations that succeeded one after the other, with what each of them answered. -/
inductive Carries (before : Connection) : List Operation → List LinkCall → List (Option Bytes) →
    Connection → Prop where
  | start : Carries before [] [] [] before
  | next {plan : List Operation} {calls more : List LinkCall} {answers : List (Option Bytes)}
      {between after : Connection} {operation : Operation} {answer : Option Bytes}
      (carries : Carries before plan calls answers between)
      (performs : Performs operation between more (.ok answer) after) :
    Carries before (plan ++ [operation]) (calls ++ more) (answers ++ [answer]) after

/-- The first operations of a plan succeeded, and the one after them failed. -/
inductive Stops (before : Connection) (plan : List Operation) : List LinkCall → Error →
    Connection → Prop where
  | here {earlier later : List Operation} {operation : Operation} {calls more : List LinkCall}
      {answers : List (Option Bytes)} {between after : Connection} {error : Error}
      (split : plan = earlier ++ operation :: later)
      (carries : Carries before earlier calls answers between)
      (performs : Performs operation between more (.error error) after) :
    Stops before plan (calls ++ more) error after

theorem Carries.nothing {before after : Connection} {calls : List LinkCall}
    {answers : List (Option Bytes)} (carries : Carries before [] calls answers after) :
    calls = [] ∧ answers = [] ∧ after = before := by
  generalize none : ([] : List Operation) = plan at carries
  cases carries with
  | start => exact ⟨rfl, rfl, rfl⟩
  | next carries performs => simp at none

/-- The last operation of a plan, and the ones before it. -/
theorem Carries.last {before after : Connection} {plan : List Operation} {operation : Operation}
    {calls : List LinkCall} {answers : List (Option Bytes)}
    (carries : Carries before (plan ++ [operation]) calls answers after) :
    ∃ given answer earlier more between, answers = given ++ [answer] ∧ calls = earlier ++ more ∧
      Carries before plan earlier given between ∧
      Performs operation between more (.ok answer) after := by
  generalize whole : plan ++ [operation] = all at carries
  cases carries with
  | start => simp at whole
  | next carries performs =>
    obtain ⟨rfl, ⟨rfl⟩⟩ := List.append_inj' whole rfl
    exact ⟨_, _, _, _, _, rfl, rfl, carries, performs⟩

theorem Carries.single {before after : Connection} {operation : Operation}
    {calls : List LinkCall} {answers : List (Option Bytes)}
    (carries : Carries before [operation] calls answers after) :
    ∃ answer, answers = [answer] ∧ Performs operation before calls (.ok answer) after := by
  have one : Carries before ([] ++ [operation]) calls answers after := carries
  obtain ⟨_, answer, _, _, _, rfl, rfl, started, performs⟩ := one.last
  obtain ⟨rfl, rfl, rfl⟩ := started.nothing
  exact ⟨answer, rfl, performs⟩

theorem Carries.pair {before after : Connection} {first second : Operation}
    {calls : List LinkCall} {answers : List (Option Bytes)}
    (carries : Carries before [first, second] calls answers after) :
    ∃ former latter earlier later between, answers = [former, latter] ∧
      calls = earlier ++ later ∧ Performs first before earlier (.ok former) between ∧
      Performs second between later (.ok latter) after := by
  have both : Carries before ([first] ++ [second]) calls answers after := carries
  obtain ⟨_, latter, earlier, later, between, rfl, rfl, started, performs⟩ := both.last
  obtain ⟨former, rfl, starts⟩ := started.single
  exact ⟨former, latter, earlier, later, between, rfl, rfl, starts, performs⟩

namespace Snep

/-- What brings an object to an activated peer, up to its response. -/
def pushPlan (object : Bytes) (timeoutMs : Nat) : List Operation :=
  [.connect timeoutMs, .transmit (header putRequest object.length) object, .receive]

/-- What takes a request from an activated peer. -/
def pullPlan (timeoutMs : Nat) : List Operation := [.accept timeoutMs, .receive]

/-- The three operations of a push that were carried out. -/
theorem carries_pushPlan {object : Bytes} {timeoutMs : Nat} {before after : Connection}
    {calls : List LinkCall} {first second third : Option Bytes}
    (carries : Carries before (pushPlan object timeoutMs) calls [first, second, third] after) :
    ∃ connecting sending receiving connected sent, calls = connecting ++ (sending ++ receiving) ∧
      Performs (.connect timeoutMs) before connecting (.ok first) connected ∧
      Performs (.transmit (header putRequest object.length) object) connected sending (.ok second)
        sent ∧
      Performs .receive sent receiving (.ok third) after := by
  let connects : Operation := .connect timeoutMs
  let sends : Operation := .transmit (header putRequest object.length) object
  have whole : Carries before ([connects, sends] ++ [.receive]) calls ([first, second] ++ [third])
    after := carries
  obtain ⟨_, _, _, receiving, sent, same, rfl, started, received⟩ := whole.last
  obtain ⟨rfl, ⟨rfl⟩⟩ := List.append_inj' same rfl
  obtain ⟨_, _, connecting, sending, connected, ⟨rfl⟩, rfl, proposed, transmitted⟩ := started.pair
  exact ⟨connecting, sending, receiving, connected, sent, List.append_assoc .., proposed,
    transmitted, received⟩

/-- The two operations of a pull that brought a request. -/
theorem carries_pullPlan {timeoutMs : Nat} {before after : Connection} {calls : List LinkCall}
    {first second : Option Bytes}
    (carries : Carries before (pullPlan timeoutMs) calls [first, second] after) :
    ∃ accepting receiving accepted, calls = accepting ++ receiving ∧
      Performs (.accept timeoutMs) before accepting (.ok first) accepted ∧
      Performs .receive accepted receiving (.ok second) after := by
  obtain ⟨_, _, accepting, receiving, accepted, ⟨rfl⟩, rfl, accepts, receives⟩ := carries.pair
  exact ⟨accepting, receiving, accepted, rfl, accepts, receives⟩

/-- Every way in which pushing an object can end. -/
inductive Pushes (object : Bytes) (timeoutMs : Nat) (before : Connection) :
    List LinkCall → Except Error Unit → Connection → Prop where
  | tooLarge (exceeds : maxObject < object.length) :
    Pushes object timeoutMs before [] (.error (.payloadTooLarge object.length maxObject)) before
  | unactivated {calls : List LinkCall} {error : Error} {after : Connection}
      (fits : object.length ≤ maxObject)
      (performs : Performs (.activate timeoutMs) before calls (.error error) after) :
    Pushes object timeoutMs before calls (.error error) after
  | stopped {activation calls : List LinkCall} {error : Error} {ready after : Connection}
      (fits : object.length ≤ maxObject)
      (activates : Performs (.activate timeoutMs) before activation (.ok none) ready)
      (stops : Stops ready (pushPlan object timeoutMs) calls error after) :
    Pushes object timeoutMs before (activation ++ calls) (.error error) after
  | rejected {activation calls : List LinkCall} {ready after : Connection} {response : Bytes}
      {error : Error} (fits : object.length ≤ maxObject)
      (activates : Performs (.activate timeoutMs) before activation (.ok none) ready)
      (carries : Carries ready (pushPlan object timeoutMs) calls [none, none, some response] after)
      (rejects : expectSuccess response = .error error) :
    Pushes object timeoutMs before (activation ++ calls) (.error error) after
  /-- What comes of the release does not matter. -/
  | pushed {activation calls more : List LinkCall} {ready between after : Connection}
      {response : Bytes} {ending : Except Error (Option Bytes)}
      (fits : object.length ≤ maxObject)
      (activates : Performs (.activate timeoutMs) before activation (.ok none) ready)
      (carries : Carries ready (pushPlan object timeoutMs) calls [none, none, some response]
        between)
      (accepts : expectSuccess response = .ok ())
      (releases : Performs .release between more ending after) :
    Pushes object timeoutMs before (activation ++ (calls ++ more)) (.ok ()) after

/-- The object of a request that may stand behind stray octets. -/
def readRequest (acceptShifted : Bool) (request : Bytes) : Except Error Bytes := do
  request.requireLength headerLength
  object (if acceptShifted && shifted request then request.drop 4 else request)

section Pulling

variable {σ : Type} [Host σ] [PeerLink σ]

/-- What a pull does up to the request. -/
def hearRequest (timeoutMs : Nat) : Action (Endpoint σ) Bytes := do
  Endpoint.activate timeoutMs
  Endpoint.accept timeoutMs
  Endpoint.receive

/-- What a pull does with the request. -/
def answerRequest (acceptShifted : Bool) (request : Bytes) : Action (Endpoint σ) Bytes := do
  request.requireLength headerLength
  let aligned ← realign acceptShifted request
  let object ← object aligned
  Host.note (.pulled object.length)
  Endpoint.transmit (header success 0) []
  return object

theorem pullWithin_eq (acceptShifted : Bool) (timeoutMs : Nat) :
    (pullWithin acceptShifted timeoutMs : Action (Endpoint σ) Bytes) =
      hearRequest timeoutMs >>= answerRequest acceptShifted := by
  simp only [hearRequest, bind_assoc]
  rfl

omit [PeerLink σ] in
/-- Entries in the journal apart, a request is realigned by itself. -/
theorem realign_eq (acceptShifted : Bool) (request : Bytes) (patience : Nat)
    (endpoint : Endpoint σ) :
    ∃ notices, realign acceptShifted request patience endpoint =
      .done (if acceptShifted && shifted request then request.drop 4 else request)
        (Host.recordAll notices endpoint) := by
  unfold realign
  split
  · exact ⟨[_], rfl⟩
  · exact ⟨[], rfl⟩

/-- Entries in the journal apart, success is reported if the request can be read, and nothing is
done if not. -/
theorem answerRequest_eq (acceptShifted : Bool) (request : Bytes) (patience : Nat)
    (endpoint : Endpoint σ) :
    ∃ notices, answerRequest acceptShifted request patience endpoint =
      (do
        let object ← readRequest acceptShifted request
        Endpoint.transmit (header success 0) []
        return object : Action (Endpoint σ) Bytes) patience (Host.recordAll notices endpoint) := by
  obtain ⟨notices, aligned⟩ := realign_eq acceptShifted request patience endpoint
  unfold answerRequest readRequest
  cases request.requireLength headerLength with
  | error error => exact ⟨[], rfl⟩
  | ok long =>
    rw [lift_ok_bind, bind_of_done aligned]
    cases read : object (if acceptShifted && shifted request then request.drop 4 else request) with
    | error error => exact ⟨notices, rfl⟩
    | ok object =>
      refine ⟨notices ++ [.pulled object.length], ?_⟩
      rw [lift_ok_bind, note_bind, Host.recordAll_append]
      rfl

end Pulling

/-- Every way in which pulling an object can end. -/
inductive Pulls (acceptShifted : Bool) (timeoutMs : Nat) (before : Connection) :
    List LinkCall → Except Error Bytes → Connection → Prop where
  | unactivated {calls : List LinkCall} {error : Error} {after : Connection}
      (performs : Performs (.activate timeoutMs) before calls (.error error) after) :
    Pulls acceptShifted timeoutMs before calls (.error error) after
  | stopped {activation calls : List LinkCall} {error : Error} {ready after : Connection}
      (activates : Performs (.activate timeoutMs) before activation (.ok none) ready)
      (stops : Stops ready (pullPlan timeoutMs) calls error after) :
    Pulls acceptShifted timeoutMs before (activation ++ calls) (.error error) after
  | rejected {activation calls : List LinkCall} {ready after : Connection} {request : Bytes}
      {error : Error}
      (activates : Performs (.activate timeoutMs) before activation (.ok none) ready)
      (carries : Carries ready (pullPlan timeoutMs) calls [none, some request] after)
      (rejects : readRequest acceptShifted request = .error error) :
    Pulls acceptShifted timeoutMs before (activation ++ calls) (.error error) after
  /-- The object counts once the peer has acknowledged the response. -/
  | answered {activation calls more : List LinkCall} {ready between after : Connection}
      {request object : Bytes} {ending : Except Error (Option Bytes)}
      (activates : Performs (.activate timeoutMs) before activation (.ok none) ready)
      (carries : Carries ready (pullPlan timeoutMs) calls [none, some request] between)
      (reads : readRequest acceptShifted request = .ok object)
      (responds : Performs (.transmit (header success 0) []) between more ending after) :
    Pulls acceptShifted timeoutMs before (activation ++ (calls ++ more))
      (ending.map fun _ => object) after

end Snep

namespace Recording

variable {σ α β : Type} [Host σ] [PeerLink σ] {recording : Recording σ}
variable {patience : Nat} {endpoint : Endpoint σ}
variable {kind : List LinkCall → Except Error β → Connection → Prop}

/-- One operation of a plan: it stops the plan, or is one more that was carried out. -/
theorem carries_bind {act : Action (Endpoint σ) α} {next : α → Action (Endpoint σ) β}
    {before : Connection} {earlier : List Operation} {calls : List LinkCall}
    {answers : List (Option Bytes)} {operation : Operation} {answer : α → Option Bytes}
    (carries : Carries before earlier calls answers endpoint.connection)
    (performs : recording.Reports act patience endpoint fun calls result connection =>
      Performs operation endpoint.connection calls (result.map answer) connection)
    (later : List Operation)
    (stop : ∀ more error after, Stops before (earlier ++ operation :: later) more error after →
      kind more (.error error) after)
    (rest : ∀ more found between,
      Carries before (earlier ++ [operation]) more (answers ++ [answer found])
        between.connection →
      recording.Reports (next found) patience between fun further => kind (more ++ further)) :
    recording.Reports (act >>= next) patience endpoint fun more => kind (calls ++ more) := by
  apply performs.bind
  · intro more error after performs
    exact stop _ _ _ (.here rfl carries performs)
  · intro more found between performs
    have carried := rest (calls ++ more) found between (carries.next performs)
    simpa only [List.append_assoc] using carried

theorem pushWithin_pushes (object : Bytes) (timeoutMs : Nat) :
    recording.Reports (Snep.pushWithin object timeoutMs) patience endpoint
      (Snep.Pushes object timeoutMs endpoint.connection) := by
  unfold Snep.pushWithin
  split
  next exceeds => exact reports_fail (.tooLarge exceeds)
  next within =>
    have fits := Nat.le_of_not_gt within
    apply (activate_performs timeoutMs).bind
    · intro calls error after performs
      exact .unactivated fits performs
    intro activation answer activated activates
    have stop : ∀ more error after,
        Stops activated.connection (Snep.pushPlan object timeoutMs) more error after →
        Snep.Pushes object timeoutMs endpoint.connection (activation ++ more) (.error error)
          after :=
      fun more error after stops => .stopped fits activates stops
    -- Each operation either stops the plan or is carried out and leaves a shorter rest of it.
    apply carries_bind .start (connect_performs timeoutMs) [_, .receive] stop
    intro calls answer connected carries
    apply (note_quiet _).bind
    intro answer noted same
    rw [← same] at carries
    apply carries_bind carries (transmit_performs _ object) [.receive] stop
    intro calls answer transmitted carries
    apply carries_bind carries receive_performs [] stop
    intro calls response received carries
    apply reports_lift
    · intro error rejects
      rw [List.append_nil]
      exact .rejected fits activates carries rejects
    intro answer accepts
    apply release_performs.attempt_bind
    intro more ending released releases
    have pushed := Snep.Pushes.pushed fits activates carries accepts releases
    cases ending with
    | ok answer =>
      apply reports_pure
      rw [List.append_nil]
      exact pushed
    | error error =>
      apply (note_quiet _).mono
      rintro further result connection ⟨rfl, succeeds, rfl⟩
      cases result with
      | ok answer =>
        rw [List.append_nil]
        exact pushed
      | error other => cases succeeds

theorem pullWithin_pulls (acceptShifted : Bool) (timeoutMs : Nat) :
    recording.Reports (Snep.pullWithin acceptShifted timeoutMs) patience endpoint
      (Snep.Pulls acceptShifted timeoutMs endpoint.connection) := by
  unfold Snep.pullWithin
  apply (activate_performs timeoutMs).bind
  · intro calls error after performs
    exact .unactivated performs
  intro activation answer activated activates
  have stop : ∀ more error after,
      Stops activated.connection (Snep.pullPlan timeoutMs) more error after →
      Snep.Pulls acceptShifted timeoutMs endpoint.connection (activation ++ more) (.error error)
        after :=
    fun more error after stops => .stopped activates stops
  apply carries_bind .start (accept_performs timeoutMs) [.receive] stop
  intro calls answer accepted carries
  apply carries_bind carries receive_performs [] stop
  intro calls request received carries
  obtain ⟨notices, same⟩ := Snep.answerRequest_eq acceptShifted request patience received
  apply Reports.noted same
  rw [← Endpoint.recordAll_connection notices received] at carries
  apply reports_lift
  · intro error rejects
    rw [List.append_nil]
    exact .rejected activates carries rejects
  intro object reads
  apply (transmit_performs (Snep.header Snep.success 0) []).bind
  · intro more error after responds
    exact .answered activates carries reads responds
  · intro more answer transmitted responds
    apply reports_pure
    rw [List.append_nil]
    exact .answered activates carries reads responds

end Recording

end NfcLink
