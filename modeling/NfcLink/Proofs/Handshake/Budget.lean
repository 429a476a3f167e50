import Mathlib.Data.List.Basic
import NfcLink.Proofs.Handshake.Metered
import NfcLink.Proofs.Handshake.Stream

/-!
# What the handshake spends

A wait polls until the answer is another than "not ready" and pauses between two polls, so a
budget buys one poll more than it has milliseconds, and a budget of zero buys as many as it
takes. A command spends one write, one wait and one read, each only after the one before it
succeeded.
-/
namespace NfcLink.Metered

open NfcLink.Action Outcome

/-! ### Polling -/

variable {σ : Type} [Host σ] [Transport σ]
variable {patience count : Nat} {first last polled : σ} {spent : List Expense}

/-- So many polls in a row find the controller not ready, each with a pause behind it. -/
inductive Unready (patience : Nat) : Nat → σ → σ → Prop where
  | none (state : σ) : Unready patience 0 state state
  | round {count : Nat} {first polled last : σ} :
      Transport.poll patience first = .done false polled →
      Unready patience count (Host.sleep pollIntervalMs polled) last →
      Unready patience (count + 1) first last

/-- What these polls and pauses cost. -/
def unready (count : Nat) : List Expense :=
  (List.replicate count [.call (.polled (.ok false)), .pause pollIntervalMs]).flatten

/-- One poll, and what is done if it does not find the controller ready. -/
def pollOr (rest : Action (Metered σ) Unit) : Action (Metered σ) Unit := do
  if ← Transport.poll then pure () else rest

omit [Host σ] in
theorem pollOr_of_settled (rest : Action (Metered σ) Unit) {answer : Except Error Bool}
    (polling : (Transport.poll patience first).ended = some (answer, polled))
    (settled : answer ≠ .ok false) :
    (pollOr rest patience ⟨first, spent⟩).ended =
      some (answer.map fun _ => (), ⟨polled, spent ++ [.call (.polled answer)]⟩) := by
  have called := call_ended .polled Transport.poll patience first spent
  rw [polling] at called
  cases answer with
  | ok ready =>
    have found : ready = true := by
      cases ready with
      | true => rfl
      | false => exact absurd rfl settled
    subst found
    exact congrArg Outcome.ended (bind_of_done (ended_eq_ok_iff.mp called))
  | error error => exact congrArg Outcome.ended (bind_of_failed (ended_eq_error_iff.mp called))

omit [Host σ] in
theorem pollOr_of_unready (rest : Action (Metered σ) Unit)
    (polling : Transport.poll patience first = .done false polled) :
    pollOr rest patience ⟨first, spent⟩ =
      rest patience ⟨polled, spent ++ [.call (.polled (.ok false))]⟩ := by
  have called := call_ended .polled Transport.poll patience first spent
  rw [polling] at called
  exact bind_of_done (ended_eq_ok_iff.mp called)

/-- Polls, and after each pause as it polled before. -/
def Repolls (wait : Nat → Action (Metered σ) Unit) : Prop :=
  ∀ left, wait (left + 1) = pollOr do
    Host.pause pollIntervalMs
    wait left

theorem repolls_pollWithin : Repolls (σ := σ) Transport.pollWithin := fun _ => rfl

theorem repolls_pollForever : Repolls (σ := σ) Transport.pollForever := fun _ => rfl

/-- Each round that finds the controller not ready uses up one of the pauses. -/
theorem Repolls.of_unready {wait : Nat → Action (Metered σ) Unit} (repolls : Repolls wait)
    (left : Nat) (rounds : Unready patience count first last) :
    wait (count + left) patience ⟨first, spent⟩ =
      wait left patience ⟨last, spent ++ unready count⟩ := by
  induction rounds generalizing spent with
  | none state =>
    rw [Nat.zero_add, unready, List.replicate_zero, List.flatten_nil, List.append_nil]
  | round polling later ih =>
    rw [Nat.add_right_comm, repolls, pollOr_of_unready _ polling]
    refine ih.trans ?_
    rw [List.append_assoc, List.append_assoc]
    rfl

/-- The first answer that is not "not ready" ends the wait, if it comes within the budget. -/
theorem awaitReady_of_settled {budgetMs : Nat} {answer : Except Error Bool}
    (rounds : Unready patience count first last)
    (polling : (Transport.poll patience last).ended = some (answer, polled))
    (settled : answer ≠ .ok false)
    (within : if budgetMs = 0 then count < patience else count + 1 ≤ budgetMs + 1) :
    (Transport.awaitReady budgetMs patience (⟨first, spent⟩ : Metered σ)).ended =
      some (answer.map fun _ => (),
        ⟨polled, spent ++ unready count ++ [.call (.polled answer)]⟩) := by
  unfold Transport.awaitReady
  split at within
  next endless =>
    obtain ⟨left, enough⟩ := Nat.exists_eq_add_of_lt within
    have reached : Transport.pollForever (count + (left + 1)) patience
        (⟨first, spent⟩ : Metered σ) = _ := repolls_pollForever.of_unready (left + 1) rounds
    rw [← Nat.add_assoc, ← enough] at reached
    rw [if_pos endless, patience_bind, reached]
    exact pollOr_of_settled _ polling settled
  next limited =>
    obtain ⟨left, rfl⟩ := Nat.exists_eq_add_of_le (Nat.le_of_succ_le_succ within)
    rw [if_neg limited, repolls_pollWithin.of_unready left rounds]
    -- Whether pauses are left or none, it is this poll that ends the wait.
    cases left with
    | zero => exact pollOr_of_settled _ polling settled
    | succ left => exact pollOr_of_settled _ polling settled

theorem awaitReady_of_exhausted {budgetMs : Nat} (limited : budgetMs ≠ 0)
    (rounds : Unready patience budgetMs first last)
    (polling : Transport.poll patience last = .done false polled) :
    Transport.awaitReady budgetMs patience (⟨first, spent⟩ : Metered σ) =
      .failed .timeout ⟨polled, spent ++ unready budgetMs ++ [.call (.polled (.ok false))]⟩ := by
  unfold Transport.awaitReady
  rw [if_neg limited]
  exact (repolls_pollWithin.of_unready 0 rounds).trans (pollOr_of_unready _ polling)

/-! ### What a wait spends -/

/-- What a wait spends that may pause so often, or as often as it takes. -/
inductive Waits : (pauses : Option Nat) → Except Error Unit → List Expense → Prop where
  | settled {pauses : Option Nat} {count : Nat} {answer : Except Error Bool} :
      (∀ most, pauses = some most → count ≤ most) → answer ≠ .ok false →
      Waits pauses (answer.map fun _ => ()) (unready count ++ [.call (.polled answer)])
  | exhausted (most : Nat) :
      Waits (some most) (.error .timeout) (unready most ++ [.call (.polled (.ok false))])

theorem Waits.again {pauses : Option Nat} {result : Except Error Unit} {expenses : List Expense}
    (waits : Waits pauses result expenses) :
    Waits (pauses.map (· + 1)) result
      ([.call (.polled (.ok false)), .pause pollIntervalMs] ++ expenses) := by
  cases waits with
  | @settled _ count answer within settled =>
    refine @Waits.settled _ (count + 1) answer ?_ settled
    intro most allowed
    obtain ⟨fewer, same, rfl⟩ := Option.map_eq_some_iff.mp allowed
    exact Nat.succ_le_succ (within fewer same)
  | exhausted most => exact .exhausted (most + 1)

omit [Host σ] in
theorem pollOr_spends {rest : Action (Metered σ) Unit} {pauses : Option Nat}
    {follows : Except Error Unit → List Expense → Prop} (more : Spends patience rest follows)
    (again : ∀ result later, follows result later →
      Waits pauses result (.call (.polled (.ok false)) :: later)) :
    Spends patience (pollOr rest) (Waits pauses) := by
  have settles (answer : Except Error Bool) (settled : answer ≠ .ok false) :
      Waits pauses (answer.map fun _ => ()) [.call (.polled answer)] :=
    @Waits.settled _ 0 answer (fun most _ => Nat.zero_le most) settled
  refine (spends_call .polled _).bind ?_ ?_
  · rintro error _ rfl
    exact settles (.error error) nofun
  · rintro ready _ rfl
    cases ready with
    | true => exact spends_pure (settles (.ok true) nofun)
    | false => exact fun before => (more before).mono fun result after ⟨later, spent, paid⟩ =>
        ⟨later, spent, again result later paid⟩

theorem Repolls.spends {wait : Nat → Action (Metered σ) Unit} (repolls : Repolls wait)
    {left : Nat} {pauses : Option Nat} (rest : Spends patience (wait left) (Waits pauses)) :
    Spends patience (wait (left + 1)) (Waits (pauses.map (· + 1))) := by
  rw [repolls left]
  have paused : Spends patience (Host.pause pollIntervalMs >>= fun _ => wait left)
      fun result later => ∃ expenses,
        later = .pause pollIntervalMs :: expenses ∧ Waits pauses result expenses := by
    refine (spends_pause pollIntervalMs Nat.one_ne_zero).bind ?_ ?_
    · rintro error expenses ⟨impossible, -⟩
      cases impossible
    · rintro _ _ ⟨-, rfl⟩ before
      exact (rest before).mono fun result after ⟨expenses, spent, waits⟩ =>
        ⟨expenses, spent, expenses, rfl, waits⟩
  refine pollOr_spends paused ?_
  rintro result _ ⟨expenses, rfl, waits⟩
  exact waits.again

/-- A budget in milliseconds is one of pauses, and zero is none at all. -/
def allowance (budgetMs : Nat) : Option Nat := if budgetMs = 0 then none else some budgetMs

theorem pollWithin_spends (left : Nat) :
    Spends patience (Transport.pollWithin left : Action (Metered σ) Unit) (Waits (some left)) := by
  induction left with
  | zero =>
    -- No pause is left, so what follows the last poll is the timeout.
    have fails : Spends patience (fail .timeout : Action (Metered σ) Unit) fun result later =>
        result = .error .timeout ∧ later = [] :=
      fun before => ⟨[], (List.append_nil _).symm, rfl, rfl⟩
    refine pollOr_spends fails ?_
    rintro _ _ ⟨rfl, rfl⟩
    exact .exhausted 0
  | succ left ih => exact repolls_pollWithin.spends ih

theorem pollForever_spends (rounds : Nat) :
    Spends patience (Transport.pollForever rounds : Action (Metered σ) Unit) (Waits none) := by
  induction rounds with
  | zero => exact fun before => True.intro
  | succ rounds ih => exact repolls_pollForever.spends ih

theorem awaitReady_spends (budgetMs : Nat) :
    Spends patience (Transport.awaitReady budgetMs : Action (Metered σ) Unit)
      (Waits (allowance budgetMs)) := by
  unfold Transport.awaitReady allowance
  split
  · exact pollForever_spends patience
  · exact pollWithin_spends budgetMs

/-! ### A command -/

/-- What a command spends once its frame is out. -/
inductive Acknowledges (budgetMs : Nat) : Except Error Unit → List Expense → Prop where
  | unready {error : Error} {polls : List Expense} :
      Waits (allowance budgetMs) (.error error) polls →
      Acknowledges budgetMs (.error error) polls
  | unread {polls : List Expense} (error : Error) :
      Waits (allowance budgetMs) (.ok ()) polls →
      Acknowledges budgetMs (.error error)
        (polls ++ [.call (.received Ack.frame.length budgetMs (.error error))])
  | read {polls : List Expense} (bytes : Bytes) :
      Waits (allowance budgetMs) (.ok ()) polls →
      Acknowledges budgetMs (Ack.expect bytes)
        (polls ++ [.call (.received Ack.frame.length budgetMs (.ok bytes))])

/-- The part of a command after the write. -/
def acknowledgement (budgetMs : Nat) : Action σ Unit := do
  (Transport.awaitReady budgetMs).onFailure fun _ => Transport.note .ackMissing
  let ack ← Transport.receive Ack.frame.length budgetMs
  Transport.note (.ackRead · ack)
  (Action.ofExcept (Ack.expect ack)).onFailure fun _ => Transport.note (.ackInvalid · ack)

theorem acknowledgement_spends (budgetMs : Nat) :
    Spends patience (acknowledgement budgetMs : Action (Metered σ) Unit)
      (Acknowledges budgetMs) := by
  refine ((awaitReady_spends budgetMs).onFailure_note _).bind (fun _ _ => .unready) ?_
  intro _ polls waits
  refine (spends_call (.received _ budgetMs) _).bind ?_ ?_
  · rintro error _ rfl
    exact .unread error waits
  · rintro bytes _ rfl
    apply spends_note_then
    apply Spends.onFailure_note
    exact spends_ofExcept (by
      rw [List.append_nil]
      exact .read bytes waits)

theorem idle_of_mem {expense : Expense} {answer : Except Error Bool}
    (member : expense ∈ unready count ++ [.call (.polled answer)]) : expense.Idle := by
  rcases List.mem_append.mp member with early | final
  · obtain ⟨round, repeated, found⟩ := List.mem_flatten.mp early
    rw [List.eq_of_mem_replicate repeated] at found
    cases found with
    | head => exact True.intro
    | tail _ pause =>
      rw [List.mem_singleton.mp pause]
      exact True.intro
  · rw [List.mem_singleton.mp final]
    exact True.intro

theorem Waits.idle {pauses : Option Nat} {result : Except Error Unit} {polls : List Expense}
    (waits : Waits pauses result polls) {expense : Expense} (member : expense ∈ polls) :
    expense.Idle := by
  cases waits with
  | settled => exact idle_of_mem member
  | exhausted => exact idle_of_mem member

/-- A wait that succeeds ends with the poll that found the controller ready. -/
theorem Waits.ends_ready {pauses : Option Nat} {polls : List Expense}
    (waits : Waits pauses (.ok ()) polls) :
    ∃ earlier, polls = earlier ++ [.call (.polled (.ok true))] := by
  generalize same : Except.ok () = result at waits
  cases waits with
  | @settled _ count answer within settled =>
    cases answer with
    | ok ready =>
      cases ready with
      | true => exact ⟨_, rfl⟩
      | false => exact absurd rfl settled
    | error error => cases same
  | exhausted => cases same

/-- How the expenses of a command follow its write, and what its result tells of them. -/
structure Orderly (budgetMs : Nat) (result sending : Except Error Unit) (later : List Expense) :
    Prop where
  once : ∀ frame outcome, .call (.sent frame outcome) ∉ later
  unsent : ∀ error, sending = .error error → later = [] ∧ result = .error error
  waited : sending = .ok () → Acknowledges budgetMs result later
  read : ∀ earlier wanted timeoutMs reading rest,
    later = earlier ++ .call (.received wanted timeoutMs reading) :: rest →
    wanted = Ack.frame.length ∧ rest = [] ∧
      ∃ polls, earlier = polls ++ [.call (.polled (.ok true))]
  accepted : result = .ok () ↔ ∃ earlier timeoutMs,
    later = earlier ++ [.call (.received Ack.frame.length timeoutMs (.ok Ack.frame))]

theorem orderly_of_unsent (budgetMs : Nat) (error : Error) :
    Orderly budgetMs (.error error) (.error error) [] where
  once _ _ := List.not_mem_nil
  unsent := by
    rintro _ ⟨rfl⟩
    exact ⟨rfl, rfl⟩
  waited := nofun
  read := by
    intro earlier wanted timeoutMs reading rest split
    exact absurd split.symm (List.append_ne_nil_of_right_ne_nil _ (List.cons_ne_nil _ _))
  accepted := by
    constructor
    · nofun
    · rintro ⟨earlier, timeoutMs, split⟩
      exact absurd split.symm (List.append_ne_nil_of_right_ne_nil _ (List.cons_ne_nil _ _))

variable {budgetMs : Nat}

/-- After a wait that failed nothing is read. -/
theorem Waits.orderly_of_error {error : Error} {polls : List Expense}
    (waits : Waits (allowance budgetMs) (.error error) polls) :
    Orderly budgetMs (.error error) (.ok ()) polls where
  once _ _ := waits.idle
  unsent := nofun
  waited _ := .unready waits
  read := by
    rintro earlier wanted timeoutMs reading rest rfl
    exact (waits.idle (List.mem_append_right _ List.mem_cons_self)).elim
  accepted := by
    constructor
    · nofun
    · rintro ⟨earlier, timeoutMs, rfl⟩
      exact (waits.idle (List.mem_append_right _ List.mem_cons_self)).elim

/-- After a wait that succeeded there is one read, and its bytes decide. -/
theorem Waits.orderly_of_read {polls : List Expense} {result : Except Error Unit}
    {reading : Except Error Bytes} (waits : Waits (allowance budgetMs) (.ok ()) polls)
    (acknowledges : Acknowledges budgetMs result
      (polls ++ [.call (.received Ack.frame.length budgetMs reading)]))
    (decides : result = .ok () ↔ reading = .ok Ack.frame) :
    Orderly budgetMs result (.ok ())
      (polls ++ [.call (.received Ack.frame.length budgetMs reading)]) where
  once frame outcome member := by
    rcases List.mem_append.mp member with early | final
    · exact waits.idle early
    · cases List.mem_singleton.mp final
  unsent := nofun
  waited _ := acknowledges
  read := by
    intro earlier wanted timeoutMs found rest split
    have absent : .call (.received wanted timeoutMs found) ∉ polls := waits.idle
    obtain ⟨rfl, same, rfl⟩ :=
      (List.append_cons_inj_of_notMem absent List.not_mem_nil).mp split
    cases same
    exact ⟨rfl, rfl, waits.ends_ready⟩
  accepted := by
    rw [decides]
    constructor
    · rintro rfl
      exact ⟨polls, budgetMs, rfl⟩
    · rintro ⟨earlier, timeoutMs, split⟩
      cases List.append_inj_right' split rfl
      rfl

theorem Acknowledges.orderly {result : Except Error Unit} {later : List Expense}
    (acknowledges : Acknowledges budgetMs result later) :
    Orderly budgetMs result (.ok ()) later := by
  cases acknowledges with
  | unready waits => exact waits.orderly_of_error
  | unread error waits =>
    exact waits.orderly_of_read (.unread error waits) (iff_of_false nofun nofun)
  | read bytes waits =>
    apply waits.orderly_of_read (.read bytes waits)
    rw [Ack.expect_eq_ok_iff]
    exact ⟨congrArg Except.ok, Except.ok.inj⟩

/-- A frame that would count too much is not even written. -/
theorem putCommand_of_overlong {header body : Bytes}
    (overlong : 254 < header.length + body.length) (metered : Metered σ) :
    Transport.putCommand header body patience metered =
      .failed (.invalidLength Frame.maxCounted (header.length + body.length + 1)) metered := by
  unfold Transport.putCommand
  apply bind_of_failed
  rw [Frame.encode, Frame.encodeFrom_of_overlong _ _ _ overlong]
  rfl

theorem putCommand_spends {header body frame : Bytes}
    (encoded : Frame.encode header body = .ok frame) (first : σ) (spent : List Expense) :
    (Transport.putCommand header body patience (⟨first, spent⟩ : Metered σ)).IfEnds
      fun result after => ∃ sending sent later,
        (Transport.send frame patience
          (Host.record (.commandWritten (Transport.kind first) frame) first)).ended =
            some (sending, sent) ∧
        after.spent = spent ++ .call (.sent frame sending) :: later ∧
        Orderly (Transport.ackBudgetMs sent) result sending later := by
  unfold Transport.putCommand
  rw [encoded, lift_ok_bind, Transport.note_bind]
  refine ifEnds_bind (call_ifEnds (.sent frame) _ _ _) ?_ ?_
  · rintro error after ⟨bare, paid⟩
    exact ⟨.error error, after.inner, [], bare, paid, orderly_of_unsent _ error⟩
  · rintro _ between ⟨bare, paid⟩
    rw [get_bind]
    refine (acknowledgement_spends (Transport.ackBudgetMs between) between).mono ?_
    rintro result after ⟨later, more, acknowledges⟩
    refine ⟨.ok (), between.inner, later, bare, ?_, acknowledges.orderly⟩
    rw [more, paid, List.append_assoc]
    rfl

/-- Where the calls come to an end, a command does. -/
theorem putCommand_ends {kept : σ → Prop} (returns : Transport.Returns kept patience)
    (header body : Bytes) (metered : Metered σ) (holds : kept metered.inner) :
    (Transport.putCommand header body patience metered).Ends fun _ after => kept after.inner := by
  have bare := returns.putCommand header body metered.inner holds
  have same := (alike patience).putCommand header body metered metered.inner rfl
  generalize Transport.putCommand header body patience metered = outcome at same ⊢
  generalize Transport.putCommand header body patience metered.inner = image at same bare
  cases same with
  | done answer inner =>
    subst inner
    exact bare
  | failed error inner =>
    subst inner
    exact bare
  | waiting => exact bare

/-- A wait makes the polls up to the first that says something else, if its budget reaches so
far, and returns what that one said; else it makes one poll more than it may pause and times out.
A command that is too long makes no call. Any other writes one frame, waits only if that went
well, reads only what a poll has found, and succeeds on the acknowledgement alone. -/
theorem handshake_spends_its_budget (first : σ) (spent : List Expense) (patience : Nat) :
    (∀ budgetMs count last answer polled, Unready patience count first last →
      (Transport.poll patience last).ended = some (answer, polled) → answer ≠ .ok false →
      (if budgetMs = 0 then count < patience else count + 1 ≤ budgetMs + 1) →
      (Transport.awaitReady budgetMs patience (⟨first, spent⟩ : Metered σ)).ended =
        some (answer.map fun _ => (),
          ⟨polled, spent ++ unready count ++ [.call (.polled answer)]⟩)) ∧
    (∀ budgetMs last polled, budgetMs ≠ 0 → Unready patience budgetMs first last →
      Transport.poll patience last = .done false polled →
      Transport.awaitReady budgetMs patience (⟨first, spent⟩ : Metered σ) =
        .failed .timeout
          ⟨polled, spent ++ unready budgetMs ++ [.call (.polled (.ok false))]⟩) ∧
    ((Transport.awaitReady 0 patience (⟨first, spent⟩ : Metered σ)).IfEnds fun result after =>
      ∃ count answer, answer ≠ .ok false ∧ result = answer.map (fun _ => ()) ∧
        after.spent = spent ++ unready count ++ [.call (.polled answer)]) ∧
    ∀ header body,
      (254 < header.length + body.length →
        Transport.putCommand header body patience (⟨first, spent⟩ : Metered σ) =
          .failed (.invalidLength Frame.maxCounted (header.length + body.length + 1))
            ⟨first, spent⟩) ∧
      (header.length + body.length ≤ 254 → ∃ frame, Frame.encode header body = .ok frame ∧
        (Transport.putCommand header body patience (⟨first, spent⟩ : Metered σ)).IfEnds
          fun result after => ∃ sending sent later,
            (Transport.send frame patience
              (Host.record (.commandWritten (Transport.kind first) frame) first)).ended =
                some (sending, sent) ∧
            after.spent = spent ++ .call (.sent frame sending) :: later ∧
            Orderly (Transport.ackBudgetMs sent) result sending later) ∧
      ∀ kept, Transport.Returns kept patience → kept first →
        (Transport.putCommand header body patience (⟨first, spent⟩ : Metered σ)).Ends
          fun _ after => kept after.inner := by
  refine ⟨fun _ _ _ _ _ rounds polling settled within =>
      awaitReady_of_settled rounds polling settled within,
    fun _ _ _ limited rounds polling => awaitReady_of_exhausted limited rounds polling, ?_, ?_⟩
  · refine (awaitReady_spends 0 ⟨first, spent⟩).mono ?_
    rintro result after ⟨expenses, paid, waits⟩
    -- There is no timeout among the ways in which this wait ends.
    cases waits with
    | @settled _ count answer _ settled =>
      exact ⟨count, answer, settled, rfl, by rw [paid, List.append_assoc]⟩
  · intro header body
    refine ⟨fun overlong => putCommand_of_overlong overlong _, ?_, ?_⟩
    · intro fits
      have within : header.length + body.length < Frame.maxCounted := Nat.lt_succ_of_le fits
      have encoded := Frame.encode_of_fits header body within
      exact ⟨_, encoded, putCommand_spends encoded first spent⟩
    · intro kept returns holds
      exact putCommand_ends returns header body _ holds

/-- A controller that is busy for two polls: a budget of two finds it ready, one of one does
not. -/
theorem handshake_spends_its_budget_on_slow_controller :
    let first : Bench StreamDevice := { device := { busyPolls := 2 } }
    ∃ early late : Bench StreamDevice,
      Transport.awaitReady 1 1 (⟨first, []⟩ : Metered (Bench StreamDevice)) =
        .failed .timeout ⟨early, unready 1 ++ [.call (.polled (.ok false))]⟩ ∧
      Transport.awaitReady 2 1 (⟨first, []⟩ : Metered (Bench StreamDevice)) =
        .done () ⟨late, unready 2 ++ [.call (.polled (.ok true))]⟩ := by
  intro first
  have spends := handshake_spends_its_budget first [] 1
  have once : Unready 1 1 first _ := .round rfl (.none _)
  have twice : Unready 1 2 first _ := .round rfl (.round rfl (.none _))
  refine ⟨_, _, spends.2.1 1 _ _ Nat.one_ne_zero once rfl,
    ended_eq_ok_iff.mp (spends.1 2 2 _ (.ok true) _ twice rfl nofun (by decide))⟩

end NfcLink.Metered
