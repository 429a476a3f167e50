import Mathlib.Algebra.GroupWithZero.Nat
import NfcLink.Proofs.Handshake.Hindered

/-!
# Rereading

Calls on I²C that are repeated until they succeed read a frame as a stream, in pieces of
any sizes and whatever hinders the reads: one call loses nothing and repeats nothing, and
so none of them does.
-/
namespace NfcLink

open NfcLink.Action Outcome

/-! ### Calls until they succeed -/

/-- What a call came to, what was seen of it from below, and what the controller has to give after
it. -/
structure Account where
  wanted : Nat
  timeoutMs : Nat
  result : Except Error Bytes
  events : List I2cEvent
  pending : List Bytes

namespace Account

/-- What the call handed on. -/
def bytes (account : Account) : Bytes := account.result.toOption.getD []

/-- The answers of the calls that succeeded. -/
def answers (accounts : List Account) : List Bytes := accounts.filterMap (·.result.toOption)

/-- The call goes on with a frame of which this much was handed on before. -/
structure Continues (address : UInt8) (frame : Bytes) (later : List Bytes) (handed : Bytes)
    (account : Account) : Prop where
  call : I2cPort.Calls address handed account.wanted account.timeoutMs account.events
    account.result
  writes : account.events.filterMap I2cEvent.written? =
    if handed = [] then [] else [(address, Ack.negative)]
  answer : ∀ bytes, account.result = .ok bytes →
    bytes.length = account.wanted ∧ handed ++ bytes <+: frame
  pending : account.pending = if handed ++ account.bytes = frame then later else frame :: later

/-- Each of the calls goes on where the ones before it stopped. -/
def Stream (address : UInt8) (frame : Bytes) (later : List Bytes) :
    (handed : Bytes) → List Account → Prop
  | _, [] => True
  | handed, account :: rest =>
    account.Continues address frame later handed ∧
      Stream address frame later (handed ++ account.bytes) rest

variable {address : UInt8} {frame handed : Bytes} {later : List Bytes}
variable {accounts more : List Account}

theorem flatten_answers_cons (account : Account) (accounts : List Account) :
    (answers (account :: accounts)).flatten = account.bytes ++ (answers accounts).flatten := by
  cases result : account.result with
  | ok found => simp [answers, bytes, result, Except.toOption]
  | error error => simp [answers, bytes, result, Except.toOption]

theorem Stream.append (stream : Stream address frame later handed accounts)
    (goes : Stream address frame later (handed ++ (answers accounts).flatten) more) :
    Stream address frame later handed (accounts ++ more) := by
  induction accounts generalizing handed with
  | nil =>
    change Stream address frame later (handed ++ []) more at goes
    rwa [List.append_nil] at goes
  | cons account accounts ih =>
    rw [flatten_answers_cons, ← List.append_assoc] at goes
    exact ⟨stream.1, ih stream.2 goes⟩

theorem Stream.continues {earlier rest : List Account} {account : Account}
    (stream : Stream address frame later handed (earlier ++ account :: rest)) :
    account.Continues address frame later (handed ++ (answers earlier).flatten) := by
  induction earlier generalizing handed with
  | nil =>
    change account.Continues address frame later (handed ++ [])
    rw [List.append_nil]
    exact stream.1
  | cons first earlier ih =>
    rw [flatten_answers_cons, ← List.append_assoc]
    exact ih stream.2

end Account

namespace I2cPort

variable {η : Type} [Host η] {patience : Nat} {port : I2cPort (HinderedBus η)}

def receiveAccounted (wanted timeoutMs : Nat) : Action (I2cPort (HinderedBus η)) Account := do
  let before ← Action.get
  let result ← (receive wanted timeoutMs).attempt
  let after ← Action.get
  return {
    wanted, timeoutMs, result
    events := after.bus.events.drop before.bus.events.length
    pending := after.bus.device.frames }

/-- The same call again and again, until one succeeds. -/
def receiveRepeatedly (wanted timeoutMs : Nat) :
    (tries : Nat) → Action (I2cPort (HinderedBus η)) (List Account)
  | 0 => Action.unfinished
  | tries + 1 => do
    let account ← receiveAccounted wanted timeoutMs
    match account.result with
    | .ok _ => return [account]
    | .error _ => do
      let more ← receiveRepeatedly wanted timeoutMs tries
      return account :: more

/-- Pieces of these sizes, each asked for until it is there. -/
def receiveInPieces : List (Nat × Nat) → Action (I2cPort (HinderedBus η)) (List Account)
  | [] => pure []
  | (wanted, timeoutMs) :: pieces => do
    let tries ← Action.patience
    let accounts ← receiveRepeatedly wanted timeoutMs tries
    let more ← receiveInPieces pieces
    return accounts ++ more

variable {address : UInt8} {frame handed piece left : Bytes} {later : List Bytes}

theorem Reading.receiveAccounted (reading : Reading address frame later handed port)
    (whole : frame = handed ++ piece ++ left) (more : piece ≠ []) (timeoutMs : Nat)
    (enough : port.bus.ahead.length < patience) :
    ∃ account after, receiveAccounted piece.length timeoutMs patience port = .done account after ∧
      account.Continues address frame later handed ∧
      Leaves address frame later handed piece port account.result after := by
  have ends := reading.receive whole more timeoutMs patience enough
  obtain ⟨result, after, ended, leaves, events, seen, calls⟩ := (ends_iff _ _).mp ends
  have attempted : (I2cPort.receive piece.length timeoutMs).attempt patience port =
      .done result after := by
    rw [← ended_eq_ok_iff, attempt_ended, ended]
    rfl
  refine ⟨⟨piece.length, timeoutMs, result, events, after.bus.device.frames⟩, after, ?_, ?_, leaves⟩
  · unfold I2cPort.receiveAccounted
    rw [get_bind, bind_of_done attempted, get_bind, seen, List.drop_left]
    rfl
  · refine ⟨calls, calls.writes, ?_, ?_⟩
    · rintro bytes rfl
      obtain ⟨rfl, -⟩ := leaves
      exact ⟨rfl, whole ▸ List.prefix_append _ _⟩
    · cases result with
      | ok bytes =>
        obtain ⟨rfl, kept, -⟩ := leaves
        exact kept.pending
      | error error =>
        obtain ⟨kept, -⟩ := leaves
        change _ = if handed ++ [] = frame then later else frame :: later
        rw [List.append_nil]
        exact kept.pending

/-- Induction on the tries. Each that fails used up a hindrance, so there are not more of them. -/
theorem Reading.receiveRepeatedly (reading : Reading address frame later handed port)
    (whole : frame = handed ++ piece ++ left) (more : piece ≠ []) (timeoutMs tries : Nat)
    (enough : port.bus.ahead.length < tries) (patient : port.bus.ahead.length < patience) :
    ∃ accounts after,
      receiveRepeatedly piece.length timeoutMs tries patience port = .done accounts after ∧
        Account.Stream address frame later handed accounts ∧
        Account.answers accounts = [piece] ∧
        Reading address frame later (handed ++ piece) after ∧
        after.bus.ahead.length ≤ port.bus.ahead.length := by
  induction tries generalizing port with
  | zero => omega
  | succ tries ih =>
    obtain ⟨account, between, does, continues, leaves⟩ :=
      reading.receiveAccounted whole more timeoutMs patient
    unfold I2cPort.receiveRepeatedly
    rw [bind_of_done does]
    cases result : account.result with
    | ok bytes =>
      rw [result] at leaves
      obtain ⟨rfl, kept, fewer⟩ := leaves
      refine ⟨[account], between, rfl, ⟨continues, True.intro⟩, ?_, kept, fewer⟩
      simp [Account.answers, result, Except.toOption]
    | error error =>
      rw [result] at leaves
      obtain ⟨kept, used⟩ := leaves
      obtain ⟨accounts, after, repeats, stream, answers, reached, fewer⟩ :=
        ih kept (by omega) (by omega)
      have nothing : account.bytes = [] := by simp [Account.bytes, result, Except.toOption]
      refine ⟨account :: accounts, after, ?_, ⟨continues, ?_⟩, ?_, reached, by omega⟩
      · dsimp only
        rw [bind_of_done repeats]
        rfl
      · rw [nothing, List.append_nil]
        exact stream
      · simpa [Account.answers, result, Except.toOption] using answers

/-- Induction on the pieces, of which each is the front of what is left of the frame. -/
theorem Reading.receiveInPieces {pieces : List (Nat × Nat)}
    (reading : Reading address frame later handed port) (whole : frame = handed ++ left)
    (positive : ∀ piece ∈ pieces, 0 < piece.1) (split : (pieces.map Prod.fst).sum = left.length)
    (patient : port.bus.ahead.length < patience) :
    ∃ accounts after, receiveInPieces pieces patience port = .done accounts after ∧
      Account.Stream address frame later handed accounts ∧
      (Account.answers accounts).map List.length = pieces.map Prod.fst ∧
      (Account.answers accounts).flatten = left ∧
      Reading address frame later frame after := by
  induction pieces generalizing handed left port with
  | nil =>
    obtain rfl : left = [] := List.eq_nil_of_length_eq_zero split.symm
    rw [List.append_nil] at whole
    exact ⟨[], port, rfl, True.intro, rfl, rfl, whole ▸ reading⟩
  | cons first pieces ih =>
    obtain ⟨wanted, timeoutMs⟩ := first
    have some : 0 < wanted := positive _ List.mem_cons_self
    have fits : wanted + (pieces.map Prod.fst).sum = left.length := split
    have size : (left.take wanted).length = wanted := by
      rw [List.length_take]
      omega
    have more : left.take wanted ≠ [] := List.length_pos_iff.mp (by omega)
    have parts : frame = handed ++ left.take wanted ++ left.drop wanted := by
      rw [List.append_assoc, List.take_append_drop]
      exact whole
    obtain ⟨accounts, between, does, stream, answers, kept, fewer⟩ :=
      reading.receiveRepeatedly parts more timeoutMs patience patient patient
    rw [size] at does
    obtain ⟨others, after, goes, follows, sizes, joined, done⟩ := ih kept parts
      (fun piece member => positive piece (List.mem_cons_of_mem _ member))
      (by rw [List.length_drop]; omega) (by omega)
    have split : Account.answers (accounts ++ others) =
        left.take wanted :: Account.answers others := by
      unfold Account.answers
      rw [List.filterMap_append]
      exact congrArg (· ++ _) answers
    refine ⟨accounts ++ others, after, ?_, stream.append ?_, ?_, ?_, done⟩
    · unfold I2cPort.receiveInPieces
      rw [patience_bind, bind_of_done does, bind_of_done goes]
      rfl
    · rw [answers, List.flatten_singleton]
      exact follows
    · rw [split, List.map_cons, size, sizes]
      rfl
    · rw [split, List.flatten_cons, joined, List.take_append_drop]

/-- A poll that finds the controller ready puts the port to the start of the pending frame. -/
theorem reading_of_poll {polled : I2cPort (HinderedBus η)}
    (pending : port.bus.device.frames = frame :: later) (nonempty : frame ≠ [])
    (polls : (Transport.poll : Action (I2cPort (HinderedBus η)) Bool) patience port =
      .done true polled) :
    Reading port.settings.address frame later [] polled ∧
      polled.bus.ahead.length ≤ port.bus.ahead.length := by
  change ((I2cPort.read 1).attempt >>= _) patience port = _ at polls
  cases next : port.bus.hindrance? with
  | some hindrance =>
    cases hindrance with
    | busy answer unready =>
      rw [bind_of_done (attempt_of_done (read_of_bus (HinderedBus.read_hindered next)))] at polls
      simp only [unready, Bool.false_eq_true, if_false] at polls
      cases polls
    | refused error =>
      rw [bind_of_done (attempt_of_failed (read_of_refusing (HinderedBus.read_hindered next)))]
        at polls
      cases polls
  | none =>
    cases refused : port.bus.device.refusedReads with
    | zero =>
      -- One octet of status is a read of no octet of the frame.
      have front : port.bus.device.frames = ([] ++ frame) :: later := pending
      have does : port.bus.device.read 1 = (.ok [0x01], { port.bus.device with
          frames := if frame = [] then later else frame :: later }) :=
        I2cDevice.read_pending refused front
      rw [if_neg nonempty] at does
      rw [bind_of_done (attempt_of_done (read_of_bus (HinderedBus.read_through next does)))]
        at polls
      cases polls
      refine ⟨⟨rfl, refused, ?_, rfl⟩, ?_⟩
      · exact (if_neg nonempty.symm).symm
      · change port.bus.ahead.tail.length ≤ _
        rw [List.length_tail]
        omega
    | succ left =>
      have does : port.bus.device.read 1 = (.error (.bus "mock read failure"),
          { port.bus.device with refusedReads := left }) := by
        simp only [I2cDevice.read, refused]
      rw [bind_of_done (attempt_of_failed (read_of_refusing (HinderedBus.read_through next does)))]
        at polls
      cases polls

/-- A frame that is pending when a poll succeeds is read as a stream, in pieces of any sizes. -/
theorem frame_is_reread_as_stream {polled : I2cPort (HinderedBus η)} {pieces : List (Nat × Nat)}
    (pending : port.bus.device.frames = frame :: later) (nonempty : frame ≠ [])
    (polls : (Transport.poll : Action (I2cPort (HinderedBus η)) Bool) patience port =
      .done true polled)
    (positive : ∀ piece ∈ pieces, 0 < piece.1)
    (split : (pieces.map Prod.fst).sum = frame.length)
    (patient : port.bus.ahead.length < patience) :
    ∃ accounts after, receiveInPieces pieces patience polled = .done accounts after ∧
      (Account.answers accounts).map List.length = pieces.map Prod.fst ∧
      (Account.answers accounts).flatten = frame ∧
      (∀ earlier account rest, accounts = earlier ++ account :: rest →
        account.Continues port.settings.address frame later (Account.answers earlier).flatten) ∧
      after.bus.device.frames = later := by
  obtain ⟨reading, fewer⟩ := reading_of_poll pending nonempty polls
  have whole : frame = [] ++ frame := rfl
  obtain ⟨accounts, after, does, stream, sizes, joined, done⟩ :=
    reading.receiveInPieces whole positive split (Nat.lt_of_le_of_lt fewer patient)
  refine ⟨accounts, after, does, sizes, joined, ?_, ?_⟩
  · rintro earlier account rest rfl
    exact stream.continues
  · exact done.pending.trans (if_pos rfl)

/-- An acknowledgement with another frame queued behind it. The first piece meets a busy controller
and the second one a read that fails. -/
def hinderedPort : I2cPort (HinderedBus (Bench Unit)) where
  bus := {
    host := { device := () }
    device := { frames := [Ack.frame, [0x00, 0x00, 0xFF]] }
    ahead := [none, some (.busy [0x00] rfl), none, some (.refused (.bus "no answer"))] }
  settings := {}

def hinderedPolled : I2cPort (HinderedBus (Bench Unit)) where
  bus := { hinderedPort.bus with
    ahead := hinderedPort.bus.ahead.tail
    events := [.read 0x24 1 (.ok [0x01])] }
  settings := {}

theorem acknowledgement_is_reread_as_stream :
    (Transport.poll : Action (I2cPort (HinderedBus (Bench Unit))) Bool) 5 hinderedPort =
        .done true hinderedPolled ∧
      ∃ accounts after, receiveInPieces [(2, 10), (4, 0)] 5 hinderedPolled = .done accounts after ∧
        (Account.answers accounts).map List.length = [2, 4] ∧
        (Account.answers accounts).flatten = Ack.frame ∧
        (∀ earlier account rest, accounts = earlier ++ account :: rest →
          account.Continues 0x24 Ack.frame [[0x00, 0x00, 0xFF]]
            (Account.answers earlier).flatten) ∧
        after.bus.device.frames = [[0x00, 0x00, 0xFF]] := by
  have polls : (Transport.poll : Action (I2cPort (HinderedBus (Bench Unit))) Bool) 5 hinderedPort =
      .done true hinderedPolled := rfl
  have nonempty : Ack.frame ≠ [] := by decide
  have positive : ∀ piece ∈ ([(2, 10), (4, 0)] : List (Nat × Nat)), 0 < piece.1 := by decide
  have patient : hinderedPort.bus.ahead.length < 5 := by decide
  exact ⟨polls, frame_is_reread_as_stream rfl nonempty polls positive rfl patient⟩

end I2cPort

end NfcLink
