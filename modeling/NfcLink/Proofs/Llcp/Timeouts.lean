import NfcLink.Proofs.Llcp.Absorption
import NfcLink.Proofs.Llcp.Endings

/-!
# Why an operation times out

An operation has a deadline, counted from its beginning. Where the SYMMs that a wait may answer are
not limited, the operation times out only if a call on the link failed or the clock has reached that
deadline. How far the clock goes on a script is known beforehand: an operation looks at it once to
set the deadline and then once a round, and every round but the last one uses up a frame.
-/
namespace NfcLink

open NfcLink.Action Outcome

/-- The deadline that is set while the clock shows this. -/
def Deadline.countedFrom (startNs timeoutMs : Nat) : Deadline :=
  if timeoutMs = 0 then .never else ⟨some (startNs + timeoutMs * nanosecondsPerMillisecond)⟩

/-- It is reached no earlier than the other one. -/
def Deadline.NotBefore (deadline other : Deadline) : Prop :=
  ∀ instantNs, deadline.PassedBy instantNs → other.PassedBy instantNs

theorem Deadline.PassedBy.later {deadline : Deadline} {instantNs laterNs : Nat}
    (passed : deadline.PassedBy instantNs) (le : instantNs ≤ laterNs) :
    deadline.PassedBy laterNs := by
  obtain ⟨limit, limited, reached⟩ := passed
  exact ⟨limit, limited, Nat.le_trans reached le⟩

theorem Deadline.countedFrom_notBefore {startNs laterNs : Nat} (le : startNs ≤ laterNs)
    (timeoutMs : Nat) :
    (countedFrom laterNs timeoutMs).NotBefore (countedFrom startNs timeoutMs) := by
  unfold countedFrom
  split
  · exact fun _ passed => passed
  · rintro instantNs ⟨_, ⟨rfl⟩, reached⟩
    exact ⟨_, rfl, Nat.le_trans (Nat.add_le_add_right le _) reached⟩

/-- How long an operation may take, zero for any time. Waiting for an initiator is left to the
controller. -/
def Operation.timeoutMs (settings : LinkSettings) : Operation → Nat
  | activate _ => 0
  | connect timeoutMs => timeoutMs
  | accept timeoutMs => timeoutMs
  | _ => settings.transferTimeoutMs

/-- Its deadline, if it is begun here. -/
def Operation.deadline (operation : Operation)
    (before : Endpoint (Observed (Bench PeerScript))) : Deadline :=
  .countedFrom before.link.inner.clockNs (operation.timeoutMs before.settings)

/-- So many looks at the clock take less time than the operation is given. -/
def Operation.HasTimeFor (operation : Operation) (looks : Nat)
    (endpoint : Endpoint (Observed (Bench PeerScript))) : Prop :=
  operation.timeoutMs endpoint.settings ≠ 0 →
    looks * endpoint.link.inner.tickNs <
      operation.timeoutMs endpoint.settings * nanosecondsPerMillisecond

/-- The operation was over before its deadline. -/
def Step.InTime (step : Step (Observed (Bench PeerScript))) : Prop :=
  ¬(step.operation.deadline step.before).PassedBy step.after.link.inner.clockNs

namespace PeerScript

/-- What any two states of an endpoint on a script have in common, the earlier one first. -/
structure Follows (first now : Endpoint (Observed (Bench PeerScript))) : Prop where
  settings : now.settings = first.settings
  tick : now.link.inner.tickNs = first.link.inner.tickNs
  inbound : now.link.inner.device.inbound.length ≤ first.link.inner.device.inbound.length
  clock : first.link.inner.clockNs ≤ now.link.inner.clockNs
  calls : first.link.calls <+: now.link.calls

theorem Follows.refl (first : Endpoint (Observed (Bench PeerScript))) : Follows first first :=
  ⟨rfl, rfl, Nat.le_refl _, Nat.le_refl _, List.prefix_refl _⟩

theorem Follows.trans {first between last : Endpoint (Observed (Bench PeerScript))}
    (start : Follows first between) (rest : Follows between last) : Follows first last :=
  ⟨rest.settings.trans start.settings, rest.tick.trans start.tick,
    Nat.le_trans rest.inbound start.inbound, Nat.le_trans start.clock rest.clock,
    start.calls.trans rest.calls⟩

/-- The clock can be looked at so many times, and once more for every frame to come, before it is
past the horizon. -/
structure Underway (first : Endpoint (Observed (Bench PeerScript))) (horizon looks : Nat)
    (now : Endpoint (Observed (Bench PeerScript))) : Prop extends Follows first now where
  early : now.link.inner.clockNs +
    (now.link.inner.device.inbound.length + looks) * now.link.inner.tickNs ≤ horizon

/-- There is a reason to time out: the deadline has been reached, or a call has failed. -/
def Excused (first : Endpoint (Observed (Bench PeerScript))) (deadline : Deadline)
    (now : Endpoint (Observed (Bench PeerScript))) : Prop :=
  deadline.PassedBy now.link.inner.clockNs ∨
    ∃ calls, now.link.calls = first.link.calls ++ calls ∧ ∃ call ∈ calls, call.succeeds = false

/-- With so many looks to spare the action leaves so many if it succeeds. It does not time out
without a reason. -/
def Timely {α : Type} (first : Endpoint (Observed (Bench PeerScript))) (deadline : Deadline)
    (horizon looks left : Nat) (act : Action (Endpoint (Observed (Bench PeerScript))) α) : Prop :=
  ∀ patience before, Underway first horizon looks before →
    (act patience before).IfEnds fun result after =>
      match result with
      | .ok _ => Underway first horizon left after
      | .error error =>
        Underway first horizon 0 after ∧ (error = .timeout → Excused first deadline after)

variable {α β : Type} {first before : Endpoint (Observed (Bench PeerScript))}
variable {deadline : Deadline} {horizon looks left : Nat}

theorem Underway.fewer {fewer : Nat} (underway : Underway first horizon looks before)
    (le : fewer ≤ looks) : Underway first horizon fewer before := by
  refine ⟨underway.toFollows, Nat.le_trans (Nat.add_le_add_left ?_ _) underway.early⟩
  exact Nat.mul_le_mul_right _ (Nat.add_le_add_left le _)

theorem Underway.look (underway : Underway first horizon (looks + 1) before) :
    Underway first horizon looks (Host.now before).2 := by
  -- A tick is taken from what is to spare and put on what the clock shows.
  have early := underway.early
  rw [← Nat.add_assoc, Nat.succ_mul] at early
  have passes : before.link.inner.clockNs ≤ before.link.inner.clockNs + before.link.inner.tickNs :=
    Nat.le_add_right _ _
  refine ⟨⟨underway.settings, underway.tick, underway.inbound,
    Nat.le_trans underway.clock passes, underway.calls⟩, ?_⟩
  change before.link.inner.clockNs + before.link.inner.tickNs + _ ≤ horizon
  rw [Nat.add_assoc, Nat.add_comm before.link.inner.tickNs]
  exact early

/-- The journal and the connection have no part in it. -/
theorem Underway.aside (underway : Underway first horizon looks before) (journal : List Notice)
    (connection : Connection) :
    Underway first horizon looks { before with
      connection, link := { before.link with inner := { before.link.inner with journal } } } :=
  ⟨⟨underway.settings, underway.tick, underway.inbound, underway.clock, underway.calls⟩,
    underway.early⟩

/-- A call that takes frames off the script pays for as many looks. -/
theorem Underway.call {device : PeerScript} (underway : Underway first horizon looks before)
    (call : LinkCall)
    (paid : device.inbound.length + left ≤ before.link.inner.device.inbound.length + looks)
    (fewer : device.inbound.length ≤ before.link.inner.device.inbound.length) :
    Underway first horizon left { before with
      link := ⟨{ before.link.inner with device }, before.link.calls ++ [call]⟩ } := by
  refine ⟨⟨underway.settings, underway.tick, Nat.le_trans fewer underway.inbound, underway.clock,
    underway.calls.trans (List.prefix_append _ _)⟩, ?_⟩
  exact Nat.le_trans (Nat.add_le_add_left (Nat.mul_le_mul_right _ paid) _) underway.early

/-! ### Ways of composing -/

theorem timely_pure (answer : α) : Timely first deadline horizon looks looks (pure answer) :=
  fun _ _ underway => underway

theorem timely_fail {error : Error} (different : error ≠ .timeout) :
    Timely first deadline horizon looks left (Action.fail error : Action _ α) :=
  fun _ _ underway => ⟨underway.fewer (Nat.zero_le looks), fun same => absurd same different⟩

theorem timely_lift {result : Except Error α} (timeless : result ≠ .error .timeout) :
    Timely first deadline horizon looks looks (liftM result) := by
  cases result with
  | ok answer => exact timely_pure answer
  | error error => exact timely_fail fun late => timeless (congrArg Except.error late)

theorem timely_bind {between : Nat} {act : Action (Endpoint (Observed (Bench PeerScript))) α}
    {next : α → Action (Endpoint (Observed (Bench PeerScript))) β}
    (start : Timely first deadline horizon looks between act)
    (rest : ∀ answer, Timely first deadline horizon between left (next answer)) :
    Timely first deadline horizon looks left (act >>= next) := by
  intro patience before underway
  apply ifEnds_bind (start patience before underway)
  · exact fun error after failed => failed
  · exact fun answer after underway => rest answer patience after underway

theorem timely_ite {condition : Prop} [Decidable condition]
    {yes no : Action (Endpoint (Observed (Bench PeerScript))) α}
    (holds : Timely first deadline horizon looks left yes)
    (fails : Timely first deadline horizon looks left no) :
    Timely first deadline horizon looks left (if condition then yes else no) := by
  split
  · exact holds
  · exact fails

theorem Timely.fewer {act : Action (Endpoint (Observed (Bench PeerScript))) α} {fewer : Nat}
    (timely : Timely first deadline horizon looks left act) (le : fewer ≤ left) :
    Timely first deadline horizon looks fewer act := by
  intro patience before underway
  apply (timely patience before underway).mono
  intro result after holds
  cases result with
  | ok answer => exact holds.fewer le
  | error error => exact holds

theorem timely_discard {act : Action (Endpoint (Observed (Bench PeerScript))) α}
    (timely : Timely first deadline horizon looks left act) :
    Timely first deadline horizon looks left (discard act) :=
  timely_bind timely fun _ => timely_pure ()

/-! ### Steps of an endpoint -/

theorem timely_note (notice : Notice) :
    Timely first deadline horizon looks looks (Host.note notice) :=
  fun _ before underway =>
    underway.aside (before.link.inner.journal ++ [notice]) before.connection

theorem timely_update (change : Connection → Connection) :
    Timely first deadline horizon looks looks (Endpoint.update change) :=
  fun _ before underway => underway.aside before.link.inner.journal (change before.connection)

theorem timely_current : Timely first deadline horizon looks looks Endpoint.current :=
  fun _ _ underway => underway

theorem timely_onlyConnected :
    Timely first deadline horizon looks looks Endpoint.onlyConnected :=
  timely_bind timely_current fun _ => timely_ite (timely_pure ()) (timely_fail nofun)

theorem timely_enter (phase : Phase) :
    Timely first deadline horizon looks looks (Endpoint.enter phase) := by
  apply timely_bind timely_current
  intro connection
  apply timely_ite (timely_pure ())
  exact timely_bind (timely_note _) fun _ => timely_update _

/-- One call on the link. Every frame that it takes when it succeeds is a look to spare. -/
theorem timely_call {seen : Except Error α → LinkCall}
    {act : PeerScript → Except Error α × PeerScript} (frames : Nat)
    (fails : (seen (.error .timeout)).succeeds = false)
    (takes : ∀ {script result after}, act script = (result, after) →
      after.inbound.length ≤ script.inbound.length ∧
        (result.isOk = true → after.inbound.length + frames ≤ script.inbound.length)) :
    Timely first deadline horizon looks (looks + frames)
      ((Observed.call seen (Bench.step act)).on Endpoint.linkPart) := by
  intro patience before underway
  apply ifEnds_on
  apply Observed.call_step.ifEnds.mono
  rintro result link ⟨does, same⟩
  obtain ⟨fewer, taken⟩ := takes does
  rw [same]
  cases result with
  | ok answer =>
    have paid := Nat.add_le_add_right (taken rfl) looks
    rw [Nat.add_assoc, Nat.add_comm frames] at paid
    exact underway.call _ paid fewer
  | error error =>
    refine ⟨underway.call _ (Nat.add_le_add fewer (Nat.zero_le looks)) fewer, ?_⟩
    -- If this call has timed out, it is itself the reason.
    rintro rfl
    obtain ⟨calls, called⟩ := underway.calls
    refine .inr ⟨calls ++ [seen (.error .timeout)], ?_, _,
      List.mem_append_right _ (List.mem_singleton_self _), fails⟩
    rw [← List.append_assoc, called]
    rfl

theorem takes_nothing {script after : PeerScript} {result : Except Error α}
    (same : after.inbound = script.inbound) :
    after.inbound.length ≤ script.inbound.length ∧
      (result.isOk = true → after.inbound.length + 0 ≤ script.inbound.length) := by
  rw [same]
  exact ⟨Nat.le_refl _, fun _ => Nat.le_refl _⟩

theorem timely_readPdu : Timely first deadline horizon looks (looks + 1) Endpoint.readPdu :=
  timely_call 1 rfl length_of_read

theorem timely_sendPdu (header body : Bytes) :
    Timely first deadline horizon looks looks (Endpoint.sendPdu header body) := by
  apply timely_bind (timely_note _)
  intro noted
  exact timely_call 0 rfl fun does => takes_nothing (inbound_of_write does)

theorem timely_sendPlain (type : PduType) (body : Bytes) :
    Timely first deadline horizon looks looks (Endpoint.sendPlain type body) :=
  timely_bind timely_current fun _ => timely_sendPdu _ body

theorem timely_takeTurn : Timely first deadline horizon looks looks Endpoint.takeTurn := by
  apply timely_bind (timely_readPdu.fewer (Nat.le_succ looks))
  intro pdu
  apply timely_bind (timely_lift (PduHeader.typeOf_timeless pdu))
  intro type
  exact timely_ite (timely_pure ()) (timely_fail nofun)

/-! ### Deadlines -/

/-- To give up is excused where the deadline has been reached. -/
theorem timely_expired_bind {limit : Deadline} (later : limit.NotBefore deadline)
    (notice : Notice) {rest : Action (Endpoint (Observed (Bench PeerScript))) α}
    (timely : Timely first deadline horizon looks left rest) :
    Timely first deadline horizon (looks + 1) left (do
      if ← limit.expired then do
        Host.note notice
        Action.fail .timeout
      else rest) := by
  intro patience before underway
  obtain ⟨instant?⟩ := limit
  cases instant? with
  | none => exact timely patience before (underway.fewer (Nat.le_succ looks))
  | some instant =>
    have looked := underway.look
    change (ite (decide (instant ≤ before.link.inner.clockNs) = true) _ rest patience
      (Host.now before).2).IfEnds _
    split
    case isTrue reached =>
      have passed : deadline.PassedBy before.link.inner.clockNs :=
        later _ ⟨instant, rfl, of_decide_eq_true reached⟩
      exact ⟨(looked.fewer (Nat.zero_le looks)).aside _ _,
        fun _ => .inl (passed.later (Nat.le_add_right _ _))⟩
    case isFalse => exact timely patience _ looked

/-- A deadline that is set later is not reached earlier. -/
theorem timely_after_bind {timeoutMs : Nat}
    {next : Deadline → Action (Endpoint (Observed (Bench PeerScript))) α}
    (counted : deadline = .countedFrom first.link.inner.clockNs timeoutMs)
    (rest : ∀ limit, limit.NotBefore deadline →
      Timely first deadline horizon looks left (next limit)) :
    Timely first deadline horizon (looks + 1) left (Deadline.after timeoutMs >>= next) := by
  intro patience before underway
  have later := Deadline.countedFrom_notBefore underway.clock timeoutMs
  rw [← counted] at later
  unfold Deadline.countedFrom at later
  unfold Deadline.after
  split
  case isTrue endless =>
    rw [if_pos endless] at later
    exact rest _ later patience before (underway.fewer (Nat.le_succ looks))
  case isFalse limited =>
    rw [if_neg limited] at later
    exact rest _ later patience _ underway.look

theorem timely_transferDeadline_bind
    {next : Deadline → Action (Endpoint (Observed (Bench PeerScript))) α}
    (counted : deadline =
      .countedFrom first.link.inner.clockNs first.settings.transferTimeoutMs)
    (rest : ∀ limit, limit.NotBefore deadline →
      Timely first deadline horizon looks left (next limit)) :
    Timely first deadline horizon (looks + 1) left (Endpoint.transferDeadline >>= next) := by
  intro patience before underway
  rw [← underway.settings] at counted
  exact timely_after_bind counted rest patience before underway

/-! ### Waits -/

/-- In every round the frame that is read pays for the look at the clock in the next one. -/
theorem timely_awaitFrom (uncapped : first.settings.maxSymm = none) {limit : Deadline}
    (later : limit.NotBefore deadline) (wanted : List PduType) (rounds absorbed : Nat) :
    Timely first deadline horizon (looks + 1) looks
      (Endpoint.awaitFrom wanted limit rounds absorbed) := by
  induction rounds generalizing absorbed with
  | zero => exact fun _ _ _ => True.intro
  | succ rounds ih =>
    unfold Endpoint.awaitFrom
    apply timely_expired_bind later
    apply timely_bind timely_readPdu
    intro pdu
    apply timely_bind (timely_lift (PduHeader.typeOf_timeless pdu))
    intro type
    apply timely_bind (timely_note _)
    intro noted
    apply timely_ite ((timely_pure pdu).fewer (Nat.le_succ looks))
    refine timely_ite (timely_fail ?_) ?_
    · intro late
      cases late
    intro patience before underway
    -- However many SYMMs have come, the wait answers one more.
    have free :
        (before.settings.maxSymm.any fun limit => decide (limit < absorbed + 1)) = false := by
      rw [underway.settings, uncapped]
      rfl
    rw [get_bind, free, if_neg Bool.false_ne_true]
    exact timely_bind (timely_sendPdu _ _) (fun _ => ih (absorbed + 1)) patience before underway

theorem timely_await (uncapped : first.settings.maxSymm = none) {limit : Deadline}
    (later : limit.NotBefore deadline) (wanted : List PduType) :
    Timely first deadline horizon (looks + 1) looks (Endpoint.await wanted limit) :=
  fun patience => timely_awaitFrom uncapped later wanted patience 0 patience

/-! ### Operations -/

theorem enter_aside (phase : Phase) (patience : Nat)
    (endpoint : Endpoint (Observed (Bench PeerScript))) :
    ∃ journal connection, Endpoint.enter phase patience endpoint = .done () { endpoint with
      connection
      link := { endpoint.link with inner := { endpoint.link.inner with journal } } } := by
  unfold Endpoint.enter
  rw [Endpoint.current_bind]
  split
  · exact ⟨endpoint.link.inner.journal, endpoint.connection, rfl⟩
  · exact ⟨_, _, rfl⟩

/-- A phase that is taken back does not take back the reason for a timeout. -/
theorem timely_takingBack {act : Action (Endpoint (Observed (Bench PeerScript))) α}
    (timely : Timely first deadline horizon looks left act) (phase : Phase) :
    Timely first deadline horizon looks left (act.onFailure fun _ => Endpoint.enter phase) := by
  intro patience before underway
  have ends := timely patience before underway
  unfold onFailure
  cases acted : act patience before with
  | done answer after =>
    rw [acted] at ends
    rw [bind_of_done (attempt_of_done acted)]
    exact ends
  | failed error after =>
    rw [acted] at ends
    obtain ⟨underway, excused⟩ := ends
    obtain ⟨journal, connection, entered⟩ := enter_aside phase patience after
    rw [bind_of_done (attempt_of_failed acted)]
    change ((Endpoint.enter phase >>= fun _ => Action.fail error) patience after).IfEnds _
    rw [bind_of_done entered]
    exact ⟨underway.aside journal connection, excused⟩
  | waiting =>
    rw [bind_apply, attempt, acted]
    exact True.intro

theorem timely_conclude {handshake : Action (Endpoint (Observed (Bench PeerScript))) Unit}
    (timely : Timely first deadline horizon looks left handshake) (success : Phase) :
    Timely first deadline horizon looks left (Endpoint.conclude handshake success) := by
  rw [Endpoint.conclude_eq]
  exact timely_bind (timely_takingBack timely .idle) fun _ => timely_enter success

theorem timely_activate (timeoutMs : Nat) :
    Timely first deadline horizon looks looks (Endpoint.activate timeoutMs) := by
  apply timely_bind (timely_enter .activating)
  intro entered
  apply timely_takingBack
  exact timely_call 0 rfl fun does => takes_nothing (inbound_of_activate does)

section Waiting

variable (uncapped : first.settings.maxSymm = none)
include uncapped

theorem timely_accept {timeoutMs : Nat}
    (counted : deadline = .countedFrom first.link.inner.clockNs timeoutMs) :
    Timely first deadline horizon (looks + 2) looks (Endpoint.accept timeoutMs) := by
  apply timely_bind (timely_update _)
  intro updated
  apply timely_bind (timely_enter .connecting)
  intro entered
  apply timely_after_bind counted
  intro limit later
  apply timely_conclude
  apply timely_bind (timely_await uncapped later _)
  intro pdu
  apply timely_bind (timely_lift (PduHeader.parse_timeless pdu))
  intro connect
  exact timely_bind (timely_update _) fun _ => timely_sendPlain _ _

theorem timely_connect {timeoutMs : Nat}
    (counted : deadline = .countedFrom first.link.inner.clockNs timeoutMs) :
    Timely first deadline horizon (looks + 2) looks (Endpoint.connect timeoutMs) := by
  apply timely_bind (timely_update _)
  intro updated
  apply timely_bind (timely_enter .connecting)
  intro entered
  apply timely_after_bind counted
  intro limit later
  apply timely_conclude
  apply timely_bind timely_takeTurn
  intro turn
  apply timely_bind (timely_sendPlain _ _)
  intro sent
  exact timely_discard (timely_await uncapped later _)

variable (counted :
  deadline = .countedFrom first.link.inner.clockNs first.settings.transferTimeoutMs)
include counted

theorem timely_release : Timely first deadline horizon (looks + 2) looks Endpoint.release := by
  apply timely_bind timely_onlyConnected
  intro connected
  apply timely_bind (timely_enter .disconnecting)
  intro entered
  apply timely_transferDeadline_bind counted
  intro limit later
  apply timely_conclude
  apply timely_bind timely_takeTurn
  intro turn
  apply timely_bind (timely_sendPlain _ _)
  intro sent
  exact timely_discard (timely_await uncapped later _)

theorem timely_acceptRelease :
    Timely first deadline horizon (looks + 2) looks Endpoint.acceptRelease := by
  apply timely_bind timely_onlyConnected
  intro connected
  apply timely_bind (timely_enter .disconnecting)
  intro entered
  apply timely_transferDeadline_bind counted
  intro limit later
  apply timely_conclude
  apply timely_bind (timely_discard (timely_await uncapped later _))
  exact fun heard => timely_sendPlain _ _

theorem timely_transmit (header body : Bytes) :
    Timely first deadline horizon (looks + 2) looks (Endpoint.transmit header body) := by
  apply timely_bind timely_onlyConnected
  intro connected
  apply timely_transferDeadline_bind counted
  intro limit later
  apply timely_bind timely_current
  intro connection
  have sends (information : Bytes) : Timely first deadline horizon (looks + 1) looks (do
      Endpoint.sendPdu information body
      discard (Endpoint.await [.receiveReady] limit)
      Endpoint.update fun connection => { connection with ns := connection.ns.next }
      let after ← Endpoint.current
      Host.note (.acknowledged after.ns)
      Endpoint.passTurn) := by
    apply timely_bind (timely_sendPdu _ _)
    intro sent
    apply timely_bind (timely_discard (timely_await uncapped later _))
    intro acknowledged
    apply timely_bind (timely_update _)
    intro advanced
    apply timely_bind timely_current
    intro after
    exact timely_bind (timely_note _) fun _ => timely_sendPdu _ _
  -- Only a target has its turn to take first.
  exact timely_ite (timely_bind timely_takeTurn fun _ => sends _) (sends _)

theorem timely_receive : Timely first deadline horizon (looks + 2) looks Endpoint.receive := by
  apply timely_bind timely_onlyConnected
  intro connected
  apply timely_transferDeadline_bind counted
  intro limit later
  apply timely_bind (timely_await uncapped later _)
  intro pdu
  apply timely_bind (timely_lift (PduHeader.split_timeless pdu))
  intro halves
  apply timely_bind (timely_update _)
  intro rebound
  apply timely_bind (timely_sendPdu _ _)
  intro sent
  exact timely_bind (timely_update _) fun _ => timely_pure _

end Waiting

theorem timely_perform (uncapped : first.settings.maxSymm = none) (operation : Operation) :
    Timely first (operation.deadline first) horizon (looks + 2) looks operation.perform := by
  cases operation with
  | activate timeoutMs =>
    apply timely_bind ((timely_activate timeoutMs).fewer (Nat.le_add_right looks 2))
    exact fun _ => timely_pure _
  | connect timeoutMs =>
    exact timely_bind (timely_connect uncapped rfl) fun _ => timely_pure _
  | accept timeoutMs =>
    exact timely_bind (timely_accept uncapped rfl) fun _ => timely_pure _
  | transmit header body =>
    exact timely_bind (timely_transmit uncapped rfl header body) fun _ => timely_pure _
  | receive => exact timely_bind (timely_receive uncapped rfl) fun _ => timely_pure _
  | release => exact timely_bind (timely_release uncapped rfl) fun _ => timely_pure _
  | acceptRelease =>
    exact timely_bind (timely_acceptRelease uncapped rfl) fun _ => timely_pure _

section Ended

variable {after : Endpoint (Observed (Bench PeerScript))} {patience : Nat}

/-- Where all calls have succeeded it is the deadline that was reached. -/
theorem Excused.passedBy {calls : List LinkCall} (excused : Excused before deadline after)
    (called : after.link.calls = before.link.calls ++ calls)
    (succeed : ∀ call ∈ calls, call.succeeds = true) :
    deadline.PassedBy after.link.inner.clockNs := by
  rcases excused with passed | ⟨found, calledToo, call, member, fails⟩
  · exact passed
  · obtain rfl : calls = found := List.append_cancel_left (called.symm.trans calledToo)
    cases (succeed call member).symm.trans fails

theorem await_excused {wanted : List PduType} {pdu : Except Error Bytes}
    (uncapped : before.settings.maxSymm = none)
    (ended : (Endpoint.await wanted deadline patience before).ended = some (pdu, after))
    (late : pdu = .error .timeout) : Excused before deadline after := by
  cases late
  have begun : Underway before _ 1 before := ⟨.refl before, Nat.le_refl _⟩
  obtain ⟨-, excused⟩ := (ifEnds_iff _ _).mp
    (timely_await uncapped (fun _ passed => passed) wanted patience before begun) _ after ended
  exact excused rfl

variable {operation : Operation} {result : Except Error (Option Bytes)}

/-- Beside the looks at the clock that go with the frames it takes, an operation spends two. -/
theorem perform_spends (uncapped : before.settings.maxSymm = none)
    (ended : (operation.perform patience before).ended = some (result, after)) :
    Underway before (before.link.inner.clockNs +
      (before.link.inner.device.inbound.length + 2) * before.link.inner.tickNs) 0 after ∧
      (result = .error .timeout → Excused before (operation.deadline before) after) := by
  have begun : Underway before _ 2 before := ⟨.refl before, Nat.le_refl _⟩
  have ends := (ifEnds_iff _ _).mp (timely_perform uncapped operation patience before begun)
    result after ended
  cases result with
  | ok answer => exact ⟨ends, nofun⟩
  | error error => exact ⟨ends.1, fun late => ends.2 (Except.error.inj late)⟩

end Ended

section Runs

variable {first last : Endpoint (Observed (Bench PeerScript))}
variable {history : List (Step (Observed (Bench PeerScript)))}

theorem follows_of_run (run : Run first history last) (uncapped : first.settings.maxSymm = none) :
    Follows first last := by
  induction run with
  | start => exact .refl first
  | step run ended ih =>
    have spends := perform_spends ((congrArg _ ih.settings).trans uncapped) ended
    exact ih.trans spends.1.toFollows

/-- Operations that have time for a look at the clock with every frame, and for two more, are over
in time. -/
theorem inTime_of_run {frames : Nat} (run : Run first history last)
    (uncapped : first.settings.maxSymm = none)
    (few : first.link.inner.device.inbound.length ≤ frames)
    (time : ∀ step ∈ history, step.operation.HasTimeFor (frames + 2) first) :
    ∀ step ∈ history, step.InTime := by
  intro step member passed
  obtain ⟨earlier, later, rfl⟩ := List.append_of_mem member
  obtain ⟨beginning, patience, ended⟩ := run.took
  have follows := follows_of_run beginning uncapped
  have spends := perform_spends ((congrArg _ follows.settings).trans uncapped) ended
  have time := time step member
  -- The settings and the tick are those at the start of the run, and no more frames are to come.
  unfold Operation.HasTimeFor at time
  rw [← follows.settings, ← follows.tick] at time
  have early : step.after.link.inner.clockNs ≤
      step.before.link.inner.clockNs + (frames + 2) * step.before.link.inner.tickNs := by
    apply Nat.le_trans (Nat.le_add_right _ _) (Nat.le_trans spends.1.early _)
    apply Nat.add_le_add_left
    exact Nat.mul_le_mul_right _ (Nat.add_le_add_right (Nat.le_trans follows.inbound few) 2)
  unfold Operation.deadline Deadline.countedFrom at passed
  split at passed
  case isTrue =>
    obtain ⟨limit, never, -⟩ := passed
    cases never
  case isFalse limited =>
    obtain ⟨_, ⟨rfl⟩, reached⟩ := passed
    have spare := time limited
    omega

end Runs

end PeerScript

end NfcLink
