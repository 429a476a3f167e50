import NfcLink.Proofs.Llcp.Conduct

/-!
# What operations report

`Reports` says of an action on an endpoint that, if it ends, then with calls, a result
and a connection of some kind. Its rules follow the steps of an endpoint one by one, up
to the exchanges which operations are made of.
-/
namespace NfcLink

open NfcLink.Action Outcome

theorem Endpoint.recordAll_connection {σ : Type} [Host σ] (notices : List Notice)
    (endpoint : Endpoint σ) :
    (Host.recordAll notices endpoint).connection = endpoint.connection := by
  induction notices generalizing endpoint with
  | nil => rfl
  | cons notice later ih => exact ih _

namespace Recording

variable {σ α β : Type} [Host σ] [PeerLink σ] (recording : Recording σ)

/-- If the action ends, then with calls, a result and a connection of this kind. -/
def Reports (act : Action (Endpoint σ) α) (patience : Nat) (endpoint : Endpoint σ)
    (kind : List LinkCall → Except Error α → Connection → Prop) : Prop :=
  (act patience endpoint).IfEnds fun result after =>
    ∃ calls, recording.spans endpoint.link calls after.link ∧ kind calls result after.connection

/-- The action makes one call, which sends this PDU. -/
def Speaks (act : Action (Endpoint σ) Unit) (header body : Bytes) (patience : Nat)
    (endpoint : Endpoint σ) : Prop :=
  recording.Reports act patience endpoint fun calls result connection =>
    calls = [.written header body result] ∧ connection = endpoint.connection

/-- The action succeeds without a call and without a change of the connection. -/
def Quiet (act : Action (Endpoint σ) α) (patience : Nat) (endpoint : Endpoint σ) : Prop :=
  recording.Reports act patience endpoint fun calls result connection =>
    calls = [] ∧ result.isOk = true ∧ connection = endpoint.connection

variable {recording} {patience : Nat} {endpoint : Endpoint σ}
variable {kind : List LinkCall → Except Error β → Connection → Prop}

/-! ### Steps of an endpoint -/

theorem Reports.mono {act : Action (Endpoint σ) α}
    {kind weaker : List LinkCall → Except Error α → Connection → Prop}
    (reports : recording.Reports act patience endpoint kind)
    (weaken : ∀ calls result connection, kind calls result connection →
      weaker calls result connection) :
    recording.Reports act patience endpoint weaker := by
  apply IfEnds.mono reports
  rintro result after ⟨calls, spans, holds⟩
  exact ⟨calls, spans, weaken calls result after.connection holds⟩

theorem Reports.bind {first : Action (Endpoint σ) α} {next : α → Action (Endpoint σ) β}
    {middle : List LinkCall → Except Error α → Connection → Prop}
    (start : recording.Reports first patience endpoint middle)
    (stop : ∀ calls error connection, middle calls (.error error) connection →
      kind calls (.error error) connection)
    (rest : ∀ calls answer between, middle calls (.ok answer) between.connection →
      recording.Reports (next answer) patience between fun more => kind (calls ++ more)) :
    recording.Reports (first >>= next) patience endpoint kind := by
  apply ifEnds_bind start
  · rintro error between ⟨calls, spans, holds⟩
    exact ⟨calls, spans, stop calls error between.connection holds⟩
  · rintro answer between ⟨calls, spans, holds⟩
    apply IfEnds.mono (rest calls answer between holds)
    rintro result after ⟨more, further, holds⟩
    exact ⟨calls ++ more, recording.append spans further, holds⟩

theorem Reports.attempt_bind {act : Action (Endpoint σ) α}
    {next : Except Error α → Action (Endpoint σ) β}
    {middle : List LinkCall → Except Error α → Connection → Prop}
    (reports : recording.Reports act patience endpoint middle)
    (rest : ∀ calls ending between, middle calls ending between.connection →
      recording.Reports (next ending) patience between fun more => kind (calls ++ more)) :
    recording.Reports (act.attempt >>= next) patience endpoint kind := by
  have attempted : recording.Reports act.attempt patience endpoint fun calls result connection =>
      ∃ ending, result = .ok ending ∧ middle calls ending connection := by
    apply ifEnds_attempt
    apply IfEnds.mono reports
    rintro ending after ⟨calls, spans, holds⟩
    exact ⟨calls, spans, ending, rfl, holds⟩
  apply attempted.bind
  · rintro calls error connection ⟨ending, impossible, -⟩
    cases impossible
  · rintro calls ending between ⟨_, ⟨rfl⟩, holds⟩
    exact rest calls ending between holds

/-- After an action whose answer was discarded. -/
theorem Reports.unit_bind {first : Action (Endpoint σ) Unit} {next : Unit → Action (Endpoint σ) β}
    {middle : List LinkCall → Except Error α → Connection → Prop}
    (start : recording.Reports first patience endpoint fun calls result connection =>
      ∃ answer, middle calls answer connection ∧ result = answer.map fun _ => ())
    (stop : ∀ calls error connection, middle calls (.error error) connection →
      kind calls (.error error) connection)
    (rest : ∀ calls answer between, middle calls (.ok answer) between.connection →
      recording.Reports (next ()) patience between fun more => kind (calls ++ more)) :
    recording.Reports (first >>= next) patience endpoint kind := by
  apply start.bind
  · rintro calls error connection ⟨answer, holds, failed⟩
    cases answer with
    | ok answer => cases failed
    | error other =>
      cases failed
      exact stop calls error connection holds
  · rintro calls _ between ⟨answer, holds, succeeded⟩
    cases answer with
    | error other => cases succeeded
    | ok answer => exact rest calls answer between holds

theorem Quiet.bind {first : Action (Endpoint σ) α} {next : α → Action (Endpoint σ) β}
    (quiet : recording.Quiet first patience endpoint)
    (rest : ∀ answer between, between.connection = endpoint.connection →
      recording.Reports (next answer) patience between kind) :
    recording.Reports (first >>= next) patience endpoint kind := by
  apply Reports.bind quiet
  · rintro calls error connection ⟨-, succeeds, -⟩
    cases succeeds
  · rintro calls answer between ⟨rfl, -, same⟩
    exact rest answer between same

theorem reports_pure {answer : β} (holds : kind [] (.ok answer) endpoint.connection) :
    recording.Reports (pure answer) patience endpoint kind :=
  ⟨[], recording.still endpoint.link, holds⟩

theorem reports_fail {error : Error} (holds : kind [] (.error error) endpoint.connection) :
    recording.Reports (fail error) patience endpoint kind :=
  ⟨[], recording.still endpoint.link, holds⟩

theorem reports_map {act : Action (Endpoint σ) α} {answer : α → β}
    (reports : recording.Reports act patience endpoint fun calls result =>
      kind calls (result.map answer)) :
    recording.Reports
      (do
        let found ← act
        return answer found)
      patience endpoint kind := by
  apply reports.bind
  · intro calls error connection holds
    exact holds
  · intro calls found between holds
    apply reports_pure
    rw [List.append_nil]
    exact holds

theorem note_quiet (notice : Notice) :
    recording.Quiet (Host.note notice) patience endpoint :=
  ⟨[], recording.noted notice endpoint.link, rfl, rfl, rfl⟩

/-- Entries in the journal are no calls. -/
theorem Reports.noted {act other : Action (Endpoint σ) β} {notices : List Notice}
    (same : act patience endpoint = other patience (Host.recordAll notices endpoint))
    (reports : recording.Reports other patience (Host.recordAll notices endpoint) kind) :
    recording.Reports act patience endpoint kind := by
  have still : recording.spans endpoint.link [] (Host.recordAll notices endpoint).link := by
    clear same reports
    induction notices generalizing endpoint with
    | nil => exact recording.still endpoint.link
    | cons notice later ih =>
      exact recording.append (recording.noted notice endpoint.link)
        (@ih (Host.record notice endpoint))
  rw [Reports, same]
  apply IfEnds.mono reports
  rintro result after ⟨calls, spans, holds⟩
  exact ⟨calls, recording.append still spans, holds⟩

theorem clock_quiet : recording.Quiet Host.clock patience endpoint :=
  ⟨[], recording.looked endpoint.link, rfl, rfl, rfl⟩

theorem pure_quiet (answer : α) : recording.Quiet (pure answer) patience endpoint :=
  reports_pure ⟨rfl, rfl, rfl⟩

theorem after_quiet (timeoutMs : Nat) :
    recording.Quiet (Deadline.after timeoutMs) patience endpoint := by
  unfold Deadline.after
  split
  · exact pure_quiet _
  · exact clock_quiet.bind fun instant between same => reports_pure ⟨rfl, rfl, same⟩

theorem expired_quiet (deadline : Deadline) :
    recording.Quiet (Deadline.expired deadline) patience endpoint := by
  unfold Deadline.expired
  split
  · exact pure_quiet _
  · exact clock_quiet.bind fun instant between same => reports_pure ⟨rfl, rfl, same⟩

theorem transferDeadline_quiet :
    recording.Quiet Endpoint.transferDeadline patience endpoint :=
  after_quiet endpoint.settings.transferTimeoutMs

theorem reports_current {next : Connection → Action (Endpoint σ) β}
    (rest : recording.Reports (next endpoint.connection) patience endpoint kind) :
    recording.Reports (Endpoint.current >>= next) patience endpoint kind :=
  rest

theorem reports_get {next : Endpoint σ → Action (Endpoint σ) β}
    (rest : recording.Reports (next endpoint) patience endpoint kind) :
    recording.Reports (Action.get >>= next) patience endpoint kind :=
  rest

theorem reports_update {change : Connection → Connection} {next : Unit → Action (Endpoint σ) β}
    (rest : recording.Reports (next ()) patience
      { endpoint with connection := change endpoint.connection } kind) :
    recording.Reports (Endpoint.update change >>= next) patience endpoint kind :=
  rest

theorem reports_lift {result : Except Error α} {next : α → Action (Endpoint σ) β}
    (stop : ∀ error, result = .error error → kind [] (.error error) endpoint.connection)
    (rest : ∀ answer, result = .ok answer →
      recording.Reports (next answer) patience endpoint kind) :
    recording.Reports ((liftM result : Action (Endpoint σ) α) >>= next) patience endpoint kind := by
  cases result with
  | ok answer => exact rest answer rfl
  | error error => exact reports_fail (stop error rfl)

theorem readPdu_reports :
    recording.Reports Endpoint.readPdu patience endpoint fun calls result connection =>
      calls = [.read result] ∧ connection = endpoint.connection := by
  apply ifEnds_on
  apply IfEnds.mono (recording.read patience endpoint.link)
  intro result link spans
  exact ⟨_, spans, rfl, rfl⟩

theorem sendPdu_speaks (header body : Bytes) :
    recording.Speaks (Endpoint.sendPdu header body) header body patience endpoint := by
  apply (note_quiet _).bind
  intro answer between same
  rw [← same]
  apply ifEnds_on
  apply IfEnds.mono (recording.written header body patience between.link)
  intro result link spans
  exact ⟨_, spans, rfl, rfl⟩

theorem sendPlain_speaks (type : PduType) (body : Bytes) {connection : Connection}
    (current : endpoint.connection = connection) :
    recording.Speaks (Endpoint.sendPlain type body) (connection.plain type).encode body patience
      endpoint := by
  subst current
  exact reports_current (sendPdu_speaks _ body)

theorem enter_reports (phase : Phase) :
    recording.Reports (Endpoint.enter phase) patience endpoint fun calls result connection =>
      calls = [] ∧ result = .ok () ∧ connection = { endpoint.connection with phase } := by
  apply reports_current
  by_cases same : endpoint.connection.phase = phase
  · rw [if_pos same]
    subst same
    exact reports_pure ⟨rfl, rfl, rfl⟩
  · rw [if_neg same]
    apply (note_quiet _).bind
    intro answer between unchanged
    refine ⟨[], recording.still between.link, rfl, rfl, ?_⟩
    rw [← unchanged]

theorem enter_bind {phase : Phase} {next : Unit → Action (Endpoint σ) β}
    (rest : ∀ between, between.connection = { endpoint.connection with phase } →
      recording.Reports (next ()) patience between kind) :
    recording.Reports (Endpoint.enter phase >>= next) patience endpoint kind := by
  apply (enter_reports phase).bind
  · rintro calls error connection ⟨-, impossible, -⟩
    cases impossible
  · rintro calls answer between ⟨rfl, -, entered⟩
    exact rest between entered

theorem takeTurn_reports :
    recording.Reports Endpoint.takeTurn patience endpoint fun calls result connection =>
      TakesTurn calls result ∧ connection = endpoint.connection := by
  apply readPdu_reports.bind
  · rintro calls error connection ⟨rfl, rfl⟩
    exact ⟨.unread error, rfl⟩
  · rintro calls pdu between ⟨rfl, same⟩
    apply reports_lift
    · intro error typed
      exact ⟨.untyped typed, same⟩
    · intro type typed
      by_cases symm : type = .symm
      · subst symm
        rw [if_pos rfl]
        exact reports_pure ⟨.taken typed, same⟩
      · rw [if_neg symm]
        exact reports_fail ⟨.other typed symm, same⟩

theorem awaitFrom_reports (wanted : List PduType) (deadline : Deadline) (rounds absorbed : Nat) :
    recording.Reports (Endpoint.awaitFrom wanted deadline rounds absorbed) patience endpoint
      fun calls result connection =>
        Waits wanted calls result ∧ connection = endpoint.connection := by
  -- Each SYMM that is answered costs one round and starts the wait anew.
  induction rounds generalizing absorbed endpoint with
  | zero => exact True.intro
  | succ rounds ih =>
    unfold Endpoint.awaitFrom
    apply (expired_quiet deadline).bind
    intro passed looked same
    split
    · apply (note_quiet _).bind
      intro answer noted unchanged
      exact reports_fail ⟨.expired, unchanged.trans same⟩
    · apply readPdu_reports.bind
      · rintro calls error connection ⟨rfl, rfl⟩
        exact ⟨.unread error, same⟩
      · rintro calls pdu received ⟨rfl, unread⟩
        apply reports_lift
        · intro error typed
          exact ⟨.untyped typed, unread.trans same⟩
        · intro type typed
          apply (note_quiet _).bind
          intro answer noted unchanged
          have kept := unchanged.trans (unread.trans same)
          by_cases member : type ∈ wanted
          · rw [if_pos member]
            exact reports_pure ⟨.taken typed member, kept⟩
          · rw [if_neg member]
            by_cases different : type ≠ .symm
            · rw [if_pos different]
              exact reports_fail ⟨.unexpected typed member different, kept⟩
            · rw [if_neg different]
              obtain rfl : type = .symm := Decidable.not_not.mp different
              apply reports_get
              split
              · apply (note_quiet _).bind
                intro answer limited unlooked
                exact reports_fail ⟨.exhausted typed member, unlooked.trans kept⟩
              · apply (sendPdu_speaks _ _).bind
                · rintro calls error connection ⟨rfl, unsent⟩
                  exact ⟨.unanswered typed member error, unsent.trans kept⟩
                · rintro calls answer between ⟨rfl, sent⟩
                  apply (ih (absorbed + 1)).mono
                  rintro calls result connection ⟨waits, stays⟩
                  exact ⟨.answered typed member waits, stays.trans (sent.trans kept)⟩

theorem await_reports (wanted : List PduType) (deadline : Deadline) :
    recording.Reports (Endpoint.await wanted deadline) patience endpoint
      fun calls result connection => Waits wanted calls result ∧ connection = endpoint.connection :=
  awaitFrom_reports wanted deadline patience 0

/-! ### Exchanges -/

theorem discard_reports {act : Action (Endpoint σ) α}
    {middle : List LinkCall → Except Error α → Connection → Prop}
    (reports : recording.Reports act patience endpoint middle) :
    recording.Reports (discard act) patience endpoint fun calls result connection =>
      ∃ answer, middle calls answer connection ∧ result = answer.map fun _ => () := by
  apply Reports.bind reports
  · intro calls error connection holds
    exact ⟨.error error, holds, rfl⟩
  · intro calls answer between holds
    apply reports_pure
    rw [List.append_nil]
    exact ⟨.ok answer, holds, rfl⟩

theorem hears_reports (type : PduType) (make : Bytes → Except Error α) (deadline : Deadline) :
    recording.Reports
      (do
        let pdu ← Endpoint.await [type] deadline
        (liftM (make pdu) : Action (Endpoint σ) α))
      patience endpoint fun calls result connection =>
        Hears type make calls result ∧ connection = endpoint.connection := by
  apply (await_reports [type] deadline).bind
  · rintro calls error connection ⟨waits, same⟩
    exact ⟨.unmet waits, same⟩
  · rintro calls pdu between ⟨waits, same⟩
    have heard : Hears type make (calls ++ []) (make pdu) := by
      rw [List.append_nil]
      exact .met waits
    cases made : make pdu with
    | ok answer => exact reports_pure ⟨made ▸ heard, same⟩
    | error error => exact reports_fail ⟨made ▸ heard, same⟩

theorem asks_reports {say : Action (Endpoint σ) Unit} {header body : Bytes}
    (speaks : recording.Speaks say header body patience endpoint) (reply : PduType)
    (deadline : Deadline) :
    recording.Reports
      (do
        say
        discard (Endpoint.await [reply] deadline))
      patience endpoint fun calls result connection =>
        ∃ answer, (Asks header body reply calls answer ∧ connection = endpoint.connection) ∧
          result = answer.map fun _ => () := by
  apply Reports.bind speaks
  · rintro calls error connection ⟨rfl, same⟩
    exact ⟨.error error, ⟨.unsent error, same⟩, rfl⟩
  · rintro calls answer between ⟨rfl, same⟩
    apply (discard_reports (await_reports [reply] deadline)).mono
    rintro calls result connection ⟨found, ⟨waits, kept⟩, rfl⟩
    exact ⟨found, ⟨.sent waits, kept.trans same⟩, rfl⟩

theorem asksInTurn_reports {say : Action (Endpoint σ) Unit} {header body : Bytes}
    (speaks : ∀ between, between.connection = endpoint.connection →
      recording.Speaks say header body patience between)
    (reply : PduType) (deadline : Deadline) :
    recording.Reports
      (do
        Endpoint.takeTurn
        say
        discard (Endpoint.await [reply] deadline))
      patience endpoint fun calls result connection =>
        ∃ answer, (AsksInTurn header body reply calls answer ∧ connection = endpoint.connection) ∧
          result = answer.map fun _ => () := by
  apply takeTurn_reports.bind
  · rintro calls error connection ⟨turn, same⟩
    exact ⟨.error error, ⟨.noTurn turn, same⟩, rfl⟩
  · rintro calls answer between ⟨turn, same⟩
    apply (asks_reports (speaks between same) reply deadline).mono
    rintro more result connection ⟨found, ⟨asks, kept⟩, rfl⟩
    exact ⟨found, ⟨.turn turn asks, kept.trans same⟩, rfl⟩

theorem asksAs_reports (role : Role) (header body : Bytes) (reply : PduType)
    (deadline : Deadline) :
    recording.Reports
      (do
        if role = .target then Endpoint.takeTurn
        Endpoint.sendPdu header body
        discard (Endpoint.await [reply] deadline))
      patience endpoint fun calls result connection =>
        ∃ answer, (AsksAs role header body reply calls answer ∧
          connection = endpoint.connection) ∧ result = answer.map fun _ => () := by
  cases role with
  | target => exact asksInTurn_reports (fun _ _ => sendPdu_speaks header body) reply deadline
  | initiator => exact asks_reports (sendPdu_speaks header body) reply deadline

/-- The text of an operation has what follows in both branches, with and without a turn to take. -/
theorem asksAs_bind {role : Role} {header body : Bytes} {reply : PduType} {deadline : Deadline}
    {next : Action (Endpoint σ) β}
    (stop : ∀ calls error, AsksAs role header body reply calls (.error error) →
      kind calls (.error error) endpoint.connection)
    (rest : ∀ calls pdu between, AsksAs role header body reply calls (.ok pdu) →
      between.connection = endpoint.connection →
      recording.Reports next patience between fun more => kind (calls ++ more)) :
    recording.Reports
      (do
        if role = .target then Endpoint.takeTurn
        Endpoint.sendPdu header body
        discard (Endpoint.await [reply] deadline)
        next)
      patience endpoint kind := by
  have asks : recording.Reports
      ((do
        if role = .target then Endpoint.takeTurn
        Endpoint.sendPdu header body
        discard (Endpoint.await [reply] deadline)) >>= fun _ => next)
      patience endpoint kind := by
    apply (asksAs_reports role header body reply deadline).unit_bind
    · rintro calls error connection ⟨asks, rfl⟩
      exact stop calls error asks
    · rintro calls pdu between ⟨asks, kept⟩
      exact rest calls pdu between asks kept
  -- With the role known, both sides are the same chain of steps up to where it is bracketed.
  cases role with
  | target => simpa only [reduceIte, bind_assoc] using asks
  | initiator => simpa only [reduceCtorEq, reduceIte, bind_assoc] using asks

theorem conclude_reports {handshake : Action (Endpoint σ) Unit} {success : Phase}
    {middle : List LinkCall → Except Error Unit → Connection → Prop}
    (reports : recording.Reports handshake patience endpoint middle) :
    recording.Reports (Endpoint.conclude handshake success) patience endpoint
      fun calls result connection => ∃ before, middle calls result before ∧
        connection = { before with phase := success.concluding result } := by
  unfold Endpoint.conclude
  apply reports.attempt_bind
  intro calls ending between holds
  cases ending with
  | ok answer =>
    apply (enter_reports success).mono
    rintro more result connection ⟨rfl, rfl, rfl⟩
    rw [List.append_nil]
    exact ⟨between.connection, holds, rfl⟩
  | error error =>
    apply enter_bind
    intro last entered
    apply reports_fail
    rw [List.append_nil]
    exact ⟨between.connection, holds, entered⟩

end Recording

end NfcLink
