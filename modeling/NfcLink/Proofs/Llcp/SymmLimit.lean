import NfcLink.Proofs.Llcp.Correspondence
import NfcLink.Proofs.Llcp.Traffic

/-!
# What a limit on SYMMs bounds

With a limit a wait reads one PDU more than it may answer, whatever the deadline is and
whatever the link does. An operation waits once and takes its turn at most once before, so
its reads are bounded by the limit too, and on a link whose calls return it ends.
-/
namespace NfcLink

open NfcLink.Action Outcome

/-- Calls on the link come to an end of some kind within this patience. -/
structure Returns (σ : Type) [PeerLink σ] (patience : Nat) : Prop where
  activated : ∀ timeoutMs state,
    (PeerLink.activate timeoutMs : Action σ Unit) patience state ≠ .waiting
  read : ∀ state, (PeerLink.read : Action σ Bytes) patience state ≠ .waiting
  written : ∀ header body state,
    (PeerLink.write header body : Action σ Unit) patience state ≠ .waiting

def LinkCall.reads : LinkCall → Bool
  | read _ => true
  | _ => false

/-- How often the link was read. -/
def readsIn (calls : List LinkCall) : Nat := calls.countP LinkCall.reads

/-- How many SYMMs have gone out. -/
def symmsIn (calls : List LinkCall) : Nat :=
  calls.count (.written PduHeader.symm.encode [] (.ok ()))

theorem readsIn_append (earlier later : List LinkCall) :
    readsIn (earlier ++ later) = readsIn earlier + readsIn later :=
  List.countP_append

/-- The last call has read a SYMM, which was left without an answer. -/
def LeftAtSymm (calls : List LinkCall) : Prop :=
  ∃ pdu, calls.getLast? = some (.read (.ok pdu)) ∧ IsSymm pdu

def Endpoint.Limited {σ : Type} (limit : Nat) (endpoint : Endpoint σ) : Prop :=
  endpoint.settings.maxSymm = some limit

namespace SymmLimit

variable {σ α β : Type}

/-- The action comes to an end, with calls and a result of this kind. -/
def Halts (limit : Nat) (act : Action (Endpoint (Observed σ)) α) (patience : Nat)
    (before : Endpoint (Observed σ)) (kind : List LinkCall → Except Error α → Prop) : Prop :=
  (act patience before).Ends fun result after => after.Limited limit ∧
    ∃ calls, after.link.calls = before.link.calls ++ calls ∧ kind calls result

/-- The action comes to an end and reads the link this often at most. -/
def ReadsAtMost (most limit : Nat) (act : Action (Endpoint (Observed σ)) α) (patience : Nat)
    (before : Endpoint (Observed σ)) : Prop :=
  Halts limit act patience before fun calls _ => readsIn calls ≤ most

/-- The action comes to an end without a call. -/
def Quiet (limit : Nat) (act : Action (Endpoint (Observed σ)) α) (patience : Nat)
    (before : Endpoint (Observed σ)) : Prop :=
  Halts limit act patience before fun calls _ => calls = []

variable {limit patience most : Nat} {before : Endpoint (Observed σ)}
variable {first : Action (Endpoint (Observed σ)) α} {next : α → Action (Endpoint (Observed σ)) β}

/-! ### Putting actions together -/

theorem Halts.mono {kind weaker : List LinkCall → Except Error α → Prop}
    (halts : Halts limit first patience before kind)
    (weaken : ∀ calls result, kind calls result → weaker calls result) :
    Halts limit first patience before weaker := by
  apply Ends.mono halts
  rintro result after ⟨limited, calls, seen, holds⟩
  exact ⟨limited, calls, seen, weaken calls result holds⟩

theorem Halts.bind {middle : List LinkCall → Except Error α → Prop}
    {kind : List LinkCall → Except Error β → Prop}
    (start : Halts limit first patience before middle)
    (stop : ∀ calls error, middle calls (.error error) → kind calls (.error error))
    (rest : ∀ calls answer between, first patience before = .done answer between →
      between.Limited limit → middle calls (.ok answer) →
      Halts limit (next answer) patience between fun more => kind (calls ++ more)) :
    Halts limit (first >>= next) patience before kind := by
  unfold Halts at *
  rw [bind_apply]
  cases same : first patience before with
  | done answer between =>
    rw [same] at start
    obtain ⟨limited, calls, seen, holds⟩ := start
    apply (rest calls answer between same limited holds).mono
    rintro result after ⟨limited, more, further, holds⟩
    exact ⟨limited, calls ++ more, by rw [further, seen, List.append_assoc], holds⟩
  | failed error between =>
    rw [same] at start
    obtain ⟨limited, calls, seen, holds⟩ := start
    exact ⟨limited, calls, seen, stop calls error holds⟩
  | waiting =>
    rw [same] at start
    exact start

theorem Quiet.bind {kind : List LinkCall → Except Error β → Prop}
    (start : Quiet limit first patience before) (stop : ∀ error, kind [] (.error error))
    (rest : ∀ answer between, first patience before = .done answer between →
      between.Limited limit → Halts limit (next answer) patience between kind) :
    Halts limit (first >>= next) patience before kind := by
  apply Halts.bind start
  · rintro calls error rfl
    exact stop error
  · rintro calls answer between same limited rfl
    exact rest answer between same limited

theorem Quiet.readsAtMost (quiet : Quiet limit first patience before) :
    ReadsAtMost most limit first patience before := by
  apply Halts.mono quiet
  rintro calls result rfl
  exact Nat.zero_le most

theorem ReadsAtMost.mono {fewer : Nat} (reads : ReadsAtMost fewer limit first patience before)
    (le : fewer ≤ most) : ReadsAtMost most limit first patience before :=
  Halts.mono reads fun _ _ counted => Nat.le_trans counted le

theorem ReadsAtMost.bind_done {reads more : Nat}
    (start : ReadsAtMost reads limit first patience before)
    (rest : ∀ answer between, first patience before = .done answer between →
      between.Limited limit → ReadsAtMost more limit (next answer) patience between) :
    ReadsAtMost (reads + more) limit (first >>= next) patience before := by
  apply Halts.bind start
  · exact fun calls error counted => Nat.le_add_right_of_le counted
  · intro calls answer between same limited counted
    apply Halts.mono (rest answer between same limited)
    intro later result further
    rw [readsIn_append]
    exact Nat.add_le_add counted further

theorem ReadsAtMost.bind {reads more : Nat}
    (start : ReadsAtMost reads limit first patience before)
    (rest : ∀ answer between, between.Limited limit →
      ReadsAtMost more limit (next answer) patience between) :
    ReadsAtMost (reads + more) limit (first >>= next) patience before :=
  start.bind_done fun answer between _ limited => rest answer between limited

/-- What follows reads nothing. -/
theorem ReadsAtMost.finally (start : ReadsAtMost most limit first patience before)
    (rest : ∀ answer between, between.Limited limit →
      ReadsAtMost 0 limit (next answer) patience between) :
    ReadsAtMost most limit (first >>= next) patience before :=
  start.bind rest

/-- What precedes reads nothing. -/
theorem ReadsAtMost.initially (start : ReadsAtMost 0 limit first patience before)
    (rest : ∀ answer between, between.Limited limit →
      ReadsAtMost most limit (next answer) patience between) :
    ReadsAtMost most limit (first >>= next) patience before :=
  (start.bind rest).mono (Nat.le_of_eq (Nat.zero_add most))

theorem Quiet.then (start : Quiet limit first patience before)
    (rest : ∀ answer between, between.Limited limit → Quiet limit (next answer) patience between) :
    Quiet limit (first >>= next) patience before :=
  start.bind (fun _ => rfl) fun answer between _ limited => rest answer between limited

theorem Quiet.then_reads (start : Quiet limit first patience before)
    (rest : ∀ answer between, between.Limited limit →
      ReadsAtMost most limit (next answer) patience between) :
    ReadsAtMost most limit (first >>= next) patience before :=
  start.readsAtMost.initially rest

theorem halts_pure (limited : before.Limited limit) (answer : α)
    {kind : List LinkCall → Except Error α → Prop} (holds : kind [] (.ok answer)) :
    Halts limit (pure answer) patience before kind :=
  ⟨limited, [], (List.append_nil _).symm, holds⟩

theorem halts_fail (limited : before.Limited limit) (error : Error)
    {kind : List LinkCall → Except Error α → Prop} (holds : kind [] (.error error)) :
    Halts limit (fail error) patience before kind :=
  ⟨limited, [], (List.append_nil _).symm, holds⟩

theorem lift_quiet (limited : before.Limited limit) (result : Except Error α) :
    Quiet limit (liftM result) patience before := by
  cases result with
  | ok answer => exact halts_pure limited answer rfl
  | error error => exact halts_fail limited error rfl

theorem lift_bind {result : Except Error α} {kind : List LinkCall → Except Error β → Prop}
    (limited : before.Limited limit)
    (stop : ∀ error, result = .error error → kind [] (.error error))
    (rest : ∀ answer, result = .ok answer → Halts limit (next answer) patience before kind) :
    Halts limit ((liftM result : Action (Endpoint (Observed σ)) α) >>= next) patience before
      kind := by
  cases result with
  | ok answer => exact rest answer rfl
  | error error => exact halts_fail limited error (stop error rfl)

/-- What an answer is made into is of no account. -/
theorem ReadsAtMost.map (reads : ReadsAtMost most limit first patience before) (answer : α → β) :
    ReadsAtMost most limit (first >>= fun found => pure (answer found)) patience before := by
  apply reads.finally
  intro found between limited
  exact halts_pure limited _ (Nat.zero_le 0)

theorem attempt_reads (reads : ReadsAtMost most limit first patience before) :
    ReadsAtMost most limit first.attempt patience before :=
  ends_attempt reads

theorem onFailure_reads {react : Error → Action (Endpoint (Observed σ)) Unit}
    (reads : ReadsAtMost most limit first patience before)
    (reaction : ∀ error between, between.Limited limit →
      ReadsAtMost 0 limit (react error) patience between) :
    ReadsAtMost most limit (first.onFailure react) patience before := by
  apply (attempt_reads reads).finally
  intro result between limited
  cases result with
  | ok answer => exact halts_pure limited answer (Nat.zero_le 0)
  | error error =>
    apply (reaction error between limited).finally
    intro answer last limited
    exact halts_fail limited error (Nat.zero_le 0)

/-! ### Steps of an endpoint -/

theorem update_quiet (limited : before.Limited limit) (change : Connection → Connection) :
    Quiet limit (Endpoint.update change) patience before :=
  ⟨limited, [], (List.append_nil _).symm, rfl⟩

theorem current_quiet (limited : before.Limited limit) :
    Quiet limit Endpoint.current patience before :=
  ⟨limited, [], (List.append_nil _).symm, rfl⟩

theorem get_quiet (limited : before.Limited limit) :
    Quiet limit Action.get patience before :=
  ⟨limited, [], (List.append_nil _).symm, rfl⟩

theorem onlyConnected_quiet (limited : before.Limited limit) :
    Quiet limit Endpoint.onlyConnected patience before := by
  apply (current_quiet limited).then
  intro connection between limited
  split
  · exact halts_pure limited () rfl
  · exact halts_fail limited _ rfl

theorem onlyConnected_same {answer : Unit} {between : Endpoint (Observed σ)}
    (done : Endpoint.onlyConnected patience before = .done answer between) : between = before := by
  by_cases connected : before.connection.phase = .connected
  · rw [Endpoint.onlyConnected_of_connected connected] at done
    cases done
    rfl
  · rw [Endpoint.onlyConnected_of_other connected] at done
    cases done

/-- A call on the link is one call, whatever comes of it. -/
theorem call_halts {act : Action σ α} (returns : ∀ state, act patience state ≠ .waiting)
    (limited : before.Limited limit) (seen : Except Error α → LinkCall) :
    Halts limit ((Observed.call seen act).on Endpoint.linkPart) patience before
      fun calls result => calls = [seen result] := by
  have ended := Observed.call_ended seen act patience before.link
  apply ends_on
  rw [ends_iff]
  cases same : act patience before.link.inner with
  | done answer inner =>
    rw [same] at ended
    exact ⟨_, _, ended, limited, _, rfl, rfl⟩
  | failed error inner =>
    rw [same] at ended
    exact ⟨_, _, ended, limited, _, rfl, rfl⟩
  | waiting => exact absurd same (returns before.link.inner)

theorem readPdu_halts [PeerLink σ] (returns : Returns σ patience)
    (limited : before.Limited limit) :
    Halts limit Endpoint.readPdu patience before fun calls result => calls = [.read result] :=
  call_halts returns.read limited _

theorem takeTurn_reads [PeerLink σ] (returns : Returns σ patience)
    (limited : before.Limited limit) :
    ReadsAtMost 1 limit Endpoint.takeTurn patience before := by
  have read : ReadsAtMost 1 limit Endpoint.readPdu patience before := by
    apply Halts.mono (readPdu_halts returns limited)
    rintro calls result rfl
    exact Nat.le_refl 1
  apply read.finally
  intro pdu between limited
  apply (lift_quiet limited _).then_reads
  intro type typed limited
  split
  · exact halts_pure limited () (Nat.le_refl 0)
  · exact halts_fail limited _ (Nat.le_refl 0)

variable [Host σ]

theorem note_quiet (limited : before.Limited limit) (notice : Notice) :
    Quiet limit (Host.note notice) patience before :=
  ⟨limited, [], (List.append_nil _).symm, rfl⟩

theorem noted_bind {notice : Notice} {next : Unit → Action (Endpoint (Observed σ)) β}
    {kind : List LinkCall → Except Error β → Prop} (limited : before.Limited limit)
    (rest : ∀ noted, noted.Limited limit → noted.connection = before.connection →
      Halts limit (next ()) patience noted kind) :
    Halts limit (Host.note notice >>= next) patience before kind :=
  rest (Host.record notice before) limited rfl

theorem clock_quiet (limited : before.Limited limit) :
    Quiet limit Host.clock patience before :=
  ⟨limited, [], (List.append_nil _).symm, rfl⟩

theorem after_quiet (limited : before.Limited limit) (timeoutMs : Nat) :
    Quiet limit (Deadline.after timeoutMs) patience before := by
  unfold Deadline.after
  split
  · exact halts_pure limited _ rfl
  · apply (clock_quiet limited).then
    intro now between limited
    exact halts_pure limited _ rfl

theorem expired_quiet (limited : before.Limited limit) (deadline : Deadline) :
    Quiet limit deadline.expired patience before := by
  unfold Deadline.expired
  split
  · exact halts_pure limited _ rfl
  · apply (clock_quiet limited).then
    intro now between limited
    exact halts_pure limited _ rfl

theorem transferDeadline_quiet (limited : before.Limited limit) :
    Quiet limit Endpoint.transferDeadline patience before := by
  apply (get_quiet limited).then
  intro endpoint between limited
  exact after_quiet limited _

theorem enter_quiet (limited : before.Limited limit) (phase : Phase) :
    Quiet limit (Endpoint.enter phase) patience before := by
  apply (current_quiet limited).then
  intro connection between limited
  split
  · exact halts_pure limited () rfl
  · apply (note_quiet limited _).then
    intro answer noted limited
    exact update_quiet limited _

variable [PeerLink σ]

theorem sendPdu_halts (returns : Returns σ patience) (limited : before.Limited limit)
    (header body : Bytes) :
    Halts limit (Endpoint.sendPdu header body) patience before
      fun calls result => calls = [.written header body result] := by
  apply noted_bind limited
  rintro noted limited -
  exact call_halts (returns.written header body) limited (.written header body)

theorem sendPdu_reads (returns : Returns σ patience) (limited : before.Limited limit)
    (header body : Bytes) :
    ReadsAtMost 0 limit (Endpoint.sendPdu header body) patience before := by
  apply Halts.mono (sendPdu_halts returns limited header body)
  rintro calls result rfl
  exact Nat.zero_le 0

theorem sendPlain_reads (returns : Returns σ patience) (limited : before.Limited limit)
    (type : PduType) (body : Bytes) :
    ReadsAtMost 0 limit (Endpoint.sendPlain type body) patience before := by
  apply (current_quiet limited).then_reads
  intro connection between limited
  exact sendPdu_reads returns limited _ body

/-! ### A wait -/

/-- A wait that may answer so many SYMMs. -/
structure Waited (wanted : List PduType) (allowed : Nat) (calls : List LinkCall)
    (result : Except Error Bytes) : Prop where
  reads : readsIn calls ≤ symmsIn calls + 1
  symms : symmsIn calls ≤ allowed
  gaveUp : LeftAtSymm calls → .symm ∉ wanted → result = .error .timeout ∧ symmsIn calls = allowed

variable {wanted : List PduType} {allowed : Nat} {result : Except Error Bytes}

theorem Waited.nothing : Waited wanted allowed [] result where
  reads := Nat.zero_le 1
  symms := Nat.zero_le allowed
  gaveUp := by
    rintro ⟨pdu, last, -⟩
    cases last

/-- The wait ends with what the read has brought. -/
theorem Waited.once {read : Except Error Bytes}
    (other : ∀ pdu, read = .ok pdu → IsSymm pdu → .symm ∈ wanted) :
    Waited wanted allowed [.read read] result where
  reads := Nat.le_refl 1
  symms := Nat.zero_le allowed
  gaveUp := by
    rintro ⟨pdu, last, symm⟩ unwanted
    cases last
    exact absurd (other pdu rfl symm) unwanted

/-- No SYMM may be answered any more. -/
theorem Waited.exhausted {pdu : Bytes} :
    Waited wanted 0 [.read (.ok pdu)] (.error .timeout) where
  reads := Nat.le_refl 1
  symms := Nat.le_refl 0
  gaveUp _ _ := ⟨rfl, rfl⟩

theorem Waited.unanswered {pdu : Bytes} {error : Error} :
    Waited wanted allowed
      [.read (.ok pdu), .written PduHeader.symm.encode [] (.error error)] result where
  reads := Nat.le_refl 1
  symms := Nat.zero_le allowed
  gaveUp := by
    rintro ⟨_, last, -⟩
    cases last

theorem Waited.answered {pdu : Bytes} {calls : List LinkCall}
    (waited : Waited wanted allowed calls result) :
    Waited wanted (allowed + 1)
      (.read (.ok pdu) :: .written PduHeader.symm.encode [] (.ok ()) :: calls) result := by
  have reads : readsIn (.read (.ok pdu) :: .written PduHeader.symm.encode [] (.ok ()) :: calls) =
      readsIn calls + 1 := by
    simp [readsIn, List.countP_cons, LinkCall.reads]
  have symms : symmsIn (.read (.ok pdu) :: .written PduHeader.symm.encode [] (.ok ()) :: calls) =
      symmsIn calls + 1 := by
    simp [symmsIn]
  constructor
  · rw [reads, symms]
    exact Nat.succ_le_succ waited.reads
  · rw [symms]
    exact Nat.succ_le_succ waited.symms
  · rintro ⟨found, last, symm⟩ unwanted
    have left : LeftAtSymm calls := by
      cases calls with
      | nil => cases last
      | cons call later =>
        rw [List.getLast?_cons_cons, List.getLast?_cons_cons] at last
        exact ⟨found, last, symm⟩
    obtain ⟨timeout, answered⟩ := waited.gaveUp left unwanted
    exact ⟨timeout, by rw [symms, answered]⟩

/-- Every round but the last one answers a SYMM, so there are rounds left as long as another one may
be answered. -/
theorem awaitFrom_waited (returns : Returns σ patience) (wanted : List PduType)
    (deadline : Deadline) {rounds absorbed : Nat} (limited : before.Limited limit)
    (left : absorbed + allowed = limit) (enough : allowed < rounds) :
    Halts limit (Endpoint.awaitFrom wanted deadline rounds absorbed) patience before
      (Waited wanted allowed) := by
  -- What may still be answered falls with the rounds, and runs out first.
  induction rounds generalizing absorbed allowed before with
  | zero => exact absurd enough (Nat.not_lt_zero allowed)
  | succ rounds ih =>
    unfold Endpoint.awaitFrom
    apply (expired_quiet limited deadline).bind
    · exact fun _ => .nothing
    intro passed looked _ limited
    split
    · apply noted_bind limited
      rintro noted limited -
      exact halts_fail limited .timeout .nothing
    apply (readPdu_halts returns limited).bind
    · rintro calls error rfl
      refine .once ?_
      rintro pdu ⟨⟩
    rintro _ pdu read - limited rfl
    apply lift_bind limited
    · intro error untyped
      refine .once ?_
      rintro _ ⟨rfl⟩ symm
      cases symm.symm.trans untyped
    intro type typed
    apply noted_bind limited
    rintro noted limited -
    split
    next member =>
      apply halts_pure limited pdu
      refine .once ?_
      rintro _ ⟨rfl⟩ symm
      cases symm.symm.trans typed
      exact member
    split
    next different =>
      apply halts_fail limited
      refine .once ?_
      rintro _ ⟨rfl⟩ symm
      cases symm.symm.trans typed
      exact absurd rfl different
    rw [Halts, get_bind]
    split
    next exceeded =>
      -- This SYMM is the one that is left without an answer.
      have none : allowed = 0 := by
        rw [show noted.settings.maxSymm = _ from limited, Option.any_some, decide_eq_true_eq]
          at exceeded
        omega
      subst none
      apply noted_bind limited
      rintro noted limited -
      exact halts_fail limited .timeout .exhausted
    next permitted =>
      rw [show noted.settings.maxSymm = _ from limited, Option.any_some, decide_eq_true_eq]
        at permitted
      obtain ⟨allowed, rfl⟩ : ∃ fewer, allowed = fewer + 1 := ⟨allowed - 1, by omega⟩
      apply (sendPdu_halts returns limited _ _).bind
      · rintro calls error rfl
        exact .unanswered
      · rintro _ answer sent - limited rfl
        have fewer : absorbed + 1 + allowed = limit := by omega
        apply (ih limited fewer (Nat.lt_of_succ_lt_succ enough)).mono
        intro calls result waited
        exact waited.answered

theorem await_waited (returns : Returns σ patience) (limited : before.Limited limit)
    (enough : limit < patience) (wanted : List PduType) (deadline : Deadline) :
    Halts limit (Endpoint.await wanted deadline) patience before (Waited wanted limit) :=
  awaitFrom_waited returns wanted deadline limited (Nat.zero_add limit) enough

theorem await_reads (returns : Returns σ patience) (limited : before.Limited limit)
    (enough : limit < patience) (wanted : List PduType) (deadline : Deadline) :
    ReadsAtMost (limit + 1) limit (Endpoint.await wanted deadline) patience before := by
  apply (await_waited returns limited enough wanted deadline).mono
  intro calls result waited
  exact Nat.le_trans waited.reads (Nat.succ_le_succ waited.symms)

/-! ### Operations -/

theorem conclude_reads {handshake : Action (Endpoint (Observed σ)) Unit}
    (reads : ReadsAtMost most limit handshake patience before) (success : Phase) :
    ReadsAtMost most limit (Endpoint.conclude handshake success) patience before := by
  rw [Endpoint.conclude_eq]
  apply (onFailure_reads reads ?_).finally
  · intro answer between limited
    exact (enter_quiet limited success).readsAtMost
  · intro error between limited
    exact (enter_quiet limited .idle).readsAtMost

/-- Sending a PDU and waiting for a reply takes the reads of the wait. -/
theorem discard_await_reads (returns : Returns σ patience) (limited : before.Limited limit)
    (enough : limit < patience) (wanted : List PduType) (deadline : Deadline) :
    ReadsAtMost (limit + 1) limit (discard (Endpoint.await wanted deadline)) patience before := by
  apply (await_reads returns limited enough wanted deadline).finally
  intro pdu between limited
  exact halts_pure limited () (Nat.zero_le 0)

theorem activate_reads (returns : Returns σ patience) (limited : before.Limited limit)
    (timeoutMs : Nat) :
    ReadsAtMost 0 limit (Endpoint.activate timeoutMs) patience before := by
  apply (enter_quiet limited .activating).then_reads
  intro answer entered limited
  apply onFailure_reads
  · apply Halts.mono (call_halts (returns.activated timeoutMs) limited (.activated timeoutMs))
    rintro calls result rfl
    exact Nat.zero_le 0
  · intro error between limited
    exact (enter_quiet limited .idle).readsAtMost

theorem accept_reads (returns : Returns σ patience) (limited : before.Limited limit)
    (enough : limit < patience) (timeoutMs : Nat) :
    ReadsAtMost (limit + 1) limit (Endpoint.accept timeoutMs) patience before := by
  apply (update_quiet limited _).then_reads
  intro answer accepting limited
  apply (enter_quiet limited .connecting).then_reads
  intro answer entered limited
  apply (after_quiet limited timeoutMs).then_reads
  intro deadline looked limited
  apply conclude_reads
  apply (await_reads returns limited enough [.connect] deadline).finally
  intro pdu heard limited
  apply (lift_quiet limited _).then_reads
  intro connect parsed limited
  apply (update_quiet limited _).then_reads
  intro answer rebound limited
  exact sendPlain_reads returns limited .cc []

omit [Host σ] in
/-- Taking the turn reads once more. -/
theorem inTurn_reads (returns : Returns σ patience) (limited : before.Limited limit)
    {next : Unit → Action (Endpoint (Observed σ)) β}
    (rest : ∀ between, between.Limited limit →
      ReadsAtMost (limit + 1) limit (next ()) patience between) :
    ReadsAtMost (limit + 2) limit (Endpoint.takeTurn >>= next) patience before := by
  apply ReadsAtMost.mono ((takeTurn_reads returns limited).bind fun _ => rest)
  omega

theorem connect_reads (returns : Returns σ patience) (limited : before.Limited limit)
    (enough : limit < patience) (timeoutMs : Nat) :
    ReadsAtMost (limit + 2) limit (Endpoint.connect timeoutMs) patience before := by
  apply (update_quiet limited _).then_reads
  intro answer proposing limited
  apply (enter_quiet limited .connecting).then_reads
  intro answer entered limited
  apply (after_quiet limited timeoutMs).then_reads
  intro deadline looked limited
  apply conclude_reads
  apply inTurn_reads returns limited
  intro turned limited
  apply (sendPlain_reads returns limited _ _).initially
  intro answer sent limited
  exact discard_await_reads returns limited enough [.cc] deadline

theorem release_reads (returns : Returns σ patience) (limited : before.Limited limit)
    (enough : limit < patience) :
    ReadsAtMost (limit + 2) limit Endpoint.release patience before := by
  apply (onlyConnected_quiet limited).then_reads
  intro answer connected limited
  apply (enter_quiet limited .disconnecting).then_reads
  intro answer entered limited
  apply (transferDeadline_quiet limited).then_reads
  intro deadline looked limited
  apply conclude_reads
  apply inTurn_reads returns limited
  intro turned limited
  apply (sendPlain_reads returns limited _ _).initially
  intro answer sent limited
  exact discard_await_reads returns limited enough [.dm] deadline

theorem acceptRelease_reads (returns : Returns σ patience) (limited : before.Limited limit)
    (enough : limit < patience) :
    ReadsAtMost (limit + 1) limit Endpoint.acceptRelease patience before := by
  apply (onlyConnected_quiet limited).then_reads
  intro answer connected limited
  apply (enter_quiet limited .disconnecting).then_reads
  intro answer entered limited
  apply (transferDeadline_quiet limited).then_reads
  intro deadline looked limited
  apply conclude_reads
  apply (discard_await_reads returns limited enough [.disc] deadline).finally
  intro answer released limited
  exact sendPlain_reads returns limited .dm []

theorem receive_reads (returns : Returns σ patience) (limited : before.Limited limit)
    (enough : limit < patience) :
    ReadsAtMost (limit + 1) limit Endpoint.receive patience before := by
  apply (onlyConnected_quiet limited).then_reads
  intro answer connected limited
  apply (transferDeadline_quiet limited).then_reads
  intro deadline looked limited
  apply (await_reads returns limited enough [.information] deadline).finally
  intro pdu heard limited
  apply (lift_quiet limited _).then_reads
  intro halves split limited
  apply (update_quiet limited _).then_reads
  intro answer rebound limited
  apply (sendPdu_reads returns limited _ []).initially
  intro answer acknowledged limited
  apply (update_quiet limited _).then_reads
  intro answer counted limited
  exact halts_pure limited _ (Nat.zero_le 0)

/-- Sending an information PDU and taking its acknowledgement, once it is our turn. -/
theorem confirmed_reads (returns : Returns σ patience) (limited : before.Limited limit)
    (enough : limit < patience) (header body : Bytes) (deadline : Deadline) :
    ReadsAtMost (limit + 1) limit
      (do
        Endpoint.sendPdu header body
        discard (Endpoint.await [.receiveReady] deadline)
        Endpoint.update fun connection => { connection with ns := connection.ns.next }
        let after ← Endpoint.current
        Host.note (.acknowledged after.ns)
        Endpoint.passTurn)
      patience before := by
  apply (sendPdu_reads returns limited header body).initially
  intro answer sent limited
  apply (discard_await_reads returns limited enough [.receiveReady] deadline).finally
  intro answer acknowledged limited
  apply (update_quiet limited _).then_reads
  intro answer advanced limited
  apply (current_quiet limited).then_reads
  intro connection same limited
  apply (note_quiet limited _).then_reads
  intro answer noted limited
  exact sendPdu_reads returns limited _ []

/-- Looking at the clock leaves the role alone. -/
theorem transferDeadline_role {deadline : Deadline} {looked : Endpoint (Observed σ)}
    (done : Endpoint.transferDeadline patience before = .done deadline looked) :
    looked.connection.role = before.connection.role := by
  have quiet : Recording.blind.Quiet Endpoint.transferDeadline patience before :=
    Recording.transferDeadline_quiet
  rw [Recording.Quiet, Recording.Reports, done] at quiet
  obtain ⟨-, -, -, -, same⟩ := quiet
  rw [same]

/-- Only a target has its turn to take first. -/
theorem transmit_reads_as (returns : Returns σ patience) (limited : before.Limited limit)
    (enough : limit < patience) (header body : Bytes) :
    ReadsAtMost (if before.connection.role = .target then limit + 2 else limit + 1) limit
      (Endpoint.transmit header body) patience before := by
  apply Quiet.bind (onlyConnected_quiet limited)
  · exact fun _ => Nat.zero_le _
  intro answer connected passed limited
  cases onlyConnected_same passed
  apply Quiet.bind (transferDeadline_quiet limited)
  · exact fun _ => Nat.zero_le _
  intro deadline looked counted limited
  rw [← transferDeadline_role counted]
  rw [Halts, Endpoint.current_bind]
  split
  · apply inTurn_reads returns limited
    intro turned limited
    exact confirmed_reads returns limited enough _ body deadline
  · exact confirmed_reads returns limited enough _ body deadline

theorem transmit_reads (returns : Returns σ patience) (limited : before.Limited limit)
    (enough : limit < patience) (header body : Bytes) :
    ReadsAtMost (limit + 2) limit (Endpoint.transmit header body) patience before := by
  apply ReadsAtMost.mono (transmit_reads_as returns limited enough header body)
  split
  · exact Nat.le_refl _
  · exact Nat.le_succ _

end SymmLimit

/-- The most reads of an operation that waits for so many SYMMs. -/
def Operation.mostReads (limit : Nat) : Operation → Nat
  | activate _ => 0
  | accept _ | receive | acceptRelease => limit + 1
  | connect _ | transmit _ _ | release => limit + 2

/-- An operation waits once, and some take their turn before. -/
theorem Operation.perform_reads {σ : Type} [Host σ] [PeerLink σ] {limit patience : Nat}
    {before : Endpoint (Observed σ)} (returns : Returns σ patience)
    (limited : before.Limited limit) (enough : limit < patience) (operation : Operation) :
    SymmLimit.ReadsAtMost (operation.mostReads limit) limit operation.perform patience before := by
  cases operation with
  | activate timeoutMs =>
    exact (SymmLimit.activate_reads returns limited timeoutMs).map fun _ => none
  | connect timeoutMs =>
    exact (SymmLimit.connect_reads returns limited enough timeoutMs).map fun _ => none
  | accept timeoutMs =>
    exact (SymmLimit.accept_reads returns limited enough timeoutMs).map fun _ => none
  | transmit header body =>
    exact (SymmLimit.transmit_reads returns limited enough header body).map fun _ => none
  | receive => exact (SymmLimit.receive_reads returns limited enough).map some
  | release => exact (SymmLimit.release_reads returns limited enough).map fun _ => none
  | acceptRelease => exact (SymmLimit.acceptRelease_reads returns limited enough).map fun _ => none

end NfcLink
