import NfcLink.Proofs.Handshake.Steps

/-!
# Overheard transports

An observer between a channel and its transport hears every call and what came of it, in
order, and changes nothing. What a response was read from are the bytes that it has heard
coming in.
-/
namespace NfcLink

open NfcLink.Action Outcome

/-- A call on a transport, with what came of it. -/
inductive TransportCall where
  | opened (result : Except Error Unit)
  | woken (result : Except Error Unit)
  | polled (result : Except Error Bool)
  | sent (frame : Bytes) (result : Except Error Unit)
  | received (wanted timeoutMs : Nat) (result : Except Error Bytes)

def TransportCall.brings : TransportCall → Bytes
  | received _ _ (.ok bytes) => bytes
  | _ => []

/-- The bytes that have come in, in order. -/
def receivedIn (calls : List TransportCall) : Bytes := calls.flatMap TransportCall.brings

@[simp] theorem receivedIn_append (earlier later : List TransportCall) :
    receivedIn (earlier ++ later) = receivedIn earlier ++ receivedIn later :=
  List.flatMap_append

@[simp] theorem receivedIn_received (wanted timeoutMs : Nat) (bytes : Bytes) :
    receivedIn [.received wanted timeoutMs (.ok bytes)] = bytes :=
  List.append_nil bytes

structure Overheard (σ : Type) where
  inner : σ
  calls : List TransportCall := []

namespace Overheard

variable {σ α β : Type}

def innerPart : Part (Overheard σ) σ :=
  ⟨Overheard.inner, fun inner overheard => { overheard with inner }⟩

instance [Host σ] : Host (Overheard σ) := Host.through innerPart

/-- Hands a call on and keeps what came of it. -/
def call (seen : Except Error α → TransportCall) (act : Action σ α) : Action (Overheard σ) α := do
  let result ← (act.on innerPart).attempt
  Action.modify fun overheard => { overheard with calls := overheard.calls ++ [seen result] }
  Action.ofExcept result

instance [Transport σ] : Transport (Overheard σ) where
  kind overheard := Transport.kind overheard.inner
  ackBudgetMs overheard := Transport.ackBudgetMs overheard.inner
  openBus := call .opened Transport.openBus
  wake := call .woken Transport.wake
  poll := call .polled Transport.poll
  send frame := call (.sent frame) (Transport.send frame)
  receive wanted timeoutMs :=
    call (.received wanted timeoutMs) (Transport.receive wanted timeoutMs)

/-- The call ends as it would without an observer, and is the last one heard. -/
theorem call_ended (seen : Except Error α → TransportCall) (act : Action σ α) (patience : Nat)
    (overheard : Overheard σ) :
    (call seen act patience overheard).ended =
      (act patience overheard.inner).ended.map fun (result, inner) =>
        (result, ⟨inner, overheard.calls ++ [seen result]⟩) := by
  unfold call
  rw [bind_apply]
  simp only [attempt, on, innerPart]
  cases act patience overheard.inner with
  | done answer inner => rfl
  | failed error inner => rfl
  | waiting => rfl

variable {seen : Except Error α → TransportCall} {act : Action σ α} {patience : Nat}
variable {before between after : Overheard σ} {answer : α}

theorem call_done (done : call seen act patience before = .done answer after) :
    after.calls = before.calls ++ [seen (.ok answer)] := by
  have ended := call_ended seen act patience before
  rw [done] at ended
  obtain ⟨⟨result, inner⟩, -, same⟩ := Option.map_eq_some_iff.mp ended.symm
  cases same
  rfl

theorem call_of_done {inner : σ} (seen : Except Error α → TransportCall)
    (done : act patience before.inner = .done answer inner) :
    call seen act patience before =
      .done answer ⟨inner, before.calls ++ [seen (.ok answer)]⟩ := by
  apply ended_eq_ok_iff.mp
  rw [call_ended, done]
  rfl

theorem call_of_failed {error : Error} {inner : σ} (seen : Except Error α → TransportCall)
    (failed : act patience before.inner = .failed error inner) :
    call seen act patience before =
      .failed error ⟨inner, before.calls ++ [seen (.error error)]⟩ := by
  apply ended_eq_error_iff.mp
  rw [call_ended, failed]
  rfl

/-! ### Waiting for the controller -/

/-- No bytes have come in between. -/
def Silent (before after : Overheard σ) : Prop :=
  ∃ calls, after.calls = before.calls ++ calls ∧ receivedIn calls = []

theorem Silent.refl (overheard : Overheard σ) : Silent overheard overheard :=
  ⟨[], (List.append_nil _).symm, rfl⟩

theorem Silent.trans (earlier : Silent before between) (later : Silent between after) :
    Silent before after := by
  obtain ⟨calls, called, nothing⟩ := earlier
  obtain ⟨more, followed, silent⟩ := later
  refine ⟨calls ++ more, by rw [followed, called, List.append_assoc], ?_⟩
  rw [receivedIn_append, nothing, silent, List.append_nil]

/-- The action brings no bytes when it succeeds. -/
def Hushed (act : Action (Overheard σ) α) : Prop :=
  ∀ patience before answer after, act patience before = .done answer after → Silent before after

theorem hushed_pure (answer : α) : Hushed (pure answer : Action (Overheard σ) α) := by
  intro patience before answer after done
  cases done
  exact .refl before

theorem hushed_fail (error : Error) : Hushed (fail error : Action (Overheard σ) α) := by
  intro patience before answer after done
  cases done

theorem hushed_bind {first : Action (Overheard σ) α} {next : α → Action (Overheard σ) β}
    (start : Hushed first) (rest : ∀ answer, Hushed (next answer)) : Hushed (first >>= next) := by
  intro patience before answer after done
  obtain ⟨found, between, began, finished⟩ := (bind_eq_done_iff ..).mp done
  exact (start _ _ _ _ began).trans (rest found _ _ _ _ finished)

variable [Host σ] [Transport σ]

omit [Host σ] in
theorem hushed_poll : Hushed (Transport.poll : Action (Overheard σ) Bool) := by
  intro patience before answer after done
  exact ⟨_, call_done done, rfl⟩

omit [Transport σ] in
theorem hushed_pause (milliseconds : Nat) :
    Hushed (Host.pause milliseconds : Action (Overheard σ) Unit) := by
  intro patience before answer after done
  unfold Host.pause at done
  split at done
  · exact hushed_pure () _ _ _ _ done
  · cases done
    exact ⟨[], (List.append_nil _).symm, rfl⟩

theorem hushed_pollWithin (left : Nat) :
    Hushed (Transport.pollWithin left : Action (Overheard σ) Unit) := by
  induction left with
  | zero =>
    apply hushed_bind hushed_poll
    intro ready
    split
    · exact hushed_pure ()
    · exact hushed_fail .timeout
  | succ left ih =>
    apply hushed_bind hushed_poll
    intro ready
    split
    · exact hushed_pure ()
    · exact hushed_bind (hushed_pause _) fun _ => ih

theorem hushed_pollForever (rounds : Nat) :
    Hushed (Transport.pollForever rounds : Action (Overheard σ) Unit) := by
  induction rounds with
  | zero =>
    -- A wait that goes on has not succeeded.
    intro patience before answer after done
    cases done
  | succ rounds ih =>
    apply hushed_bind hushed_poll
    intro ready
    split
    · exact hushed_pure ()
    · exact hushed_bind (hushed_pause _) fun _ => ih

theorem hushed_awaitReady (budgetMs : Nat) :
    Hushed (Transport.awaitReady budgetMs : Action (Overheard σ) Unit) := by
  intro patience before answer after done
  unfold Transport.awaitReady at done
  split at done
  · exact hushed_pollForever patience _ _ _ _ done
  · exact hushed_pollWithin budgetMs _ _ _ _ done

/-! ### Reading a response -/

/-- What was read for a response is one frame, and no byte more. -/
theorem takeResponse_hears {command : UInt8} {timeoutMs capacity : Nat} {data : Bytes}
    (done : Transport.takeResponse command timeoutMs capacity patience before =
      .done data after) :
    (∃ reading, after.calls = before.calls ++ reading ∧
      receivedIn reading = (Frame.answer command data).wire) ∧
      (Frame.answer command data).Fits ∧ data.length ≤ capacity := by
  obtain ⟨ready, begun, read, head, rest, waited, headRead, restRead, rfl, whole, fits, roomy⟩ :=
    Transport.takeResponse_eq_done done
  obtain ⟨polls, polled, nothing⟩ := hushed_awaitReady timeoutMs _ _ _ _ waited
  have began := call_done headRead
  have finished := call_done restRead
  refine ⟨⟨polls ++ [.received Frame.headLength timeoutMs (.ok head)] ++
    [.received (data.length + 4) timeoutMs (.ok rest)], ?_, ?_⟩, fits, roomy⟩
  · change read.calls = _
    rw [finished, began, polled]
    simp only [List.append_assoc]
  · rw [receivedIn_append, receivedIn_append, nothing, receivedIn_received, receivedIn_received,
      List.nil_append, whole]

end Overheard

end NfcLink
