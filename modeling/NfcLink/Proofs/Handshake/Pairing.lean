import NfcLink.Proofs.Handshake.Overheard
import NfcLink.Sim.Stream

/-!
# Which command a response answers

A channel remembers one octet, the code of the command it wrote last. Over any series of
operations and on any transport this is the code of the latest command with a header,
whatever came of it, and every response that is accepted is one frame that answers it.
-/
namespace NfcLink

open NfcLink.Action Outcome

/-- What a user can ask of a channel. -/
inductive ChannelOperation where
  | put (header body : Bytes)
  | take (timeoutMs : Nat)
  | ask (header body : Bytes)
  | askWithin (header body : Bytes) (timeoutMs : Nat)
  | wake
  deriving DecidableEq, Repr

namespace ChannelOperation

/-- The data of the response, if one is read. -/
def perform {σ : Type} [Host σ] [Transport σ] :
    ChannelOperation → Action (Channel σ) (Option Bytes)
  | put header body => do
    Channel.put header body
    return none
  | take timeoutMs => do
    let data ← Channel.take timeoutMs
    return some data
  | ask header body => do
    let data ← Channel.ask header body
    return some data
  | askWithin header body timeoutMs => do
    let data ← Channel.askWithin header body timeoutMs
    return some data
  | wake => do
    Channel.wake
    return none

/-- The code of the command that is written. -/
def code : ChannelOperation → Option UInt8
  | put header _ | ask header _ | askWithin header _ _ => header.head?
  | take _ | wake => none

end ChannelOperation

/-- The code of the latest command, whether or not it went out. -/
def latestCode (operations : List ChannelOperation) : Option UInt8 :=
  operations.reverse.findSome? ChannelOperation.code

theorem latestCode_append (operations : List ChannelOperation) (operation : ChannelOperation) :
    latestCode (operations ++ [operation]) = operation.code.or (latestCode operations) := by
  unfold latestCode
  rw [List.reverse_concat, List.findSome?_cons]
  cases operation.code with
  | none => rfl
  | some command => rfl

namespace Channel

variable {σ : Type} [Host σ] [Transport σ]

/-- The operations that led from one channel to another, the latest last. -/
inductive Run (first : Channel σ) : List ChannelOperation → Channel σ → Prop where
  | start : Run first [] first
  | step {operations : List ChannelOperation} {before after : Channel σ}
      {operation : ChannelOperation} {patience : Nat} {result : Except Error (Option Bytes)}
      (run : Run first operations before)
      (ended : (operation.perform patience before).ended = some (result, after)) :
    Run first (operations ++ [operation]) after

/-- Where an operation begins to read a response, and how long it waits for one: at once, or when
its command is written. -/
inductive Reads (patience : Nat) (before : Channel σ) :
    ChannelOperation → (began : Channel σ) → (timeoutMs : Nat) → Prop where
  | take (timeoutMs : Nat) : Reads patience before (.take timeoutMs) before timeoutMs
  | ask {header body : Bytes} {began : Channel σ}
      (written : put header body patience before = .done () began) :
    Reads patience before (.ask header body) began before.settings.timeoutMs
  | askWithin {header body : Bytes} {began : Channel σ} (timeoutMs : Nat)
      (written : put header body patience before = .done () began) :
    Reads patience before (.askWithin header body timeoutMs) began timeoutMs

/-! ### What a channel remembers -/

/-- A code is remembered, or the one from before if there is none. -/
def Remembers (code : Option UInt8) (before after : Channel σ) : Prop :=
  after.lastCode = code.or before.lastCode ∧ after.settings = before.settings

variable {α : Type} {patience : Nat} {before began after : Channel σ}

omit [Host σ] [Transport σ] in
theorem on_remembers (act : Action σ α) :
    (act.on transportPart patience before).IfEnds fun _ after => before.Remembers none after := by
  apply ifEnds_on
  rw [ifEnds_iff]
  exact fun _ _ _ => ⟨rfl, rfl⟩

theorem put_remembers (header body : Bytes) :
    (put header body patience before).IfEnds fun _ after =>
      before.Remembers header.head? after := by
  cases header with
  | nil => exact ⟨rfl, rfl⟩
  | cons command header =>
    -- The code is kept before the command is sent.
    have marked := @on_remembers σ Unit patience { before with lastCode := some command }
    exact marked (Transport.putCommand (command :: header) body)

theorem put_done_remembers {header body : Bytes}
    (written : put header body patience before = .done () began) :
    before.Remembers header.head? began := by
  have remembers := @put_remembers σ _ _ patience before header body
  rw [written] at remembers
  exact remembers

theorem take_remembers (timeoutMs : Nat) :
    (take timeoutMs patience before).IfEnds fun _ after => before.Remembers none after := by
  unfold take
  rw [get_bind]
  cases before.lastCode with
  | none => exact ⟨rfl, rfl⟩
  | some command => exact on_remembers _

theorem askWithin_remembers (header body : Bytes) (timeoutMs : Nat) :
    (askWithin header body timeoutMs patience before).IfEnds fun _ after =>
      before.Remembers header.head? after := by
  apply ifEnds_bind (put_remembers header body)
  · exact fun _ _ remembers => remembers
  · rintro answer between ⟨code, settings⟩
    apply (take_remembers timeoutMs).mono
    rintro result after ⟨same, kept⟩
    exact ⟨same.trans code, kept.trans settings⟩

omit [Host σ] [Transport σ] in
theorem answering_remembers {act : Action (Channel σ) α} {code : Option UInt8}
    (remembers : (act patience before).IfEnds fun _ after => before.Remembers code after)
    (answer : α → Option Bytes) :
    ((act >>= fun found => pure (answer found)) patience before).IfEnds fun _ after =>
      before.Remembers code after :=
  ifEnds_bind remembers (fun _ _ holds => holds) fun _ _ holds => holds

theorem perform_remembers (operation : ChannelOperation) :
    (operation.perform patience before).IfEnds fun _ after =>
      before.Remembers operation.code after := by
  cases operation with
  | put header body => exact answering_remembers (put_remembers header body) fun _ => none
  | take timeoutMs => exact answering_remembers (take_remembers timeoutMs) some
  | ask header body => exact answering_remembers (askWithin_remembers header body _) some
  | askWithin header body timeoutMs =>
    exact answering_remembers (askWithin_remembers header body timeoutMs) some
  | wake => exact answering_remembers (on_remembers _) fun _ => none

/-- After any operations the code of the latest command is remembered, also if it was not sent. -/
theorem Run.remembers {first last : Channel σ} {operations : List ChannelOperation}
    (run : Run first operations last) (unused : first.lastCode = none) :
    last.lastCode = latestCode operations ∧ last.settings = first.settings := by
  induction run with
  | start => exact ⟨unused, rfl⟩
  | @step operations before after operation patience result run ended ih =>
    obtain ⟨code, settings⟩ := ih
    obtain ⟨latest, kept⟩ := (ifEnds_iff _ _).mp (perform_remembers operation) _ _ ended
    rw [latestCode_append, latest, code]
    exact ⟨rfl, kept.trans settings⟩

/-- A command that is written is the one that the response is held against. -/
theorem Reads.remembers {operation : ChannelOperation} {timeoutMs : Nat}
    (reads : Reads patience before operation began timeoutMs) :
    before.Remembers operation.code began := by
  cases reads with
  | take timeoutMs => exact ⟨rfl, rfl⟩
  | ask written => exact put_done_remembers written
  | askWithin timeoutMs written => exact put_done_remembers written

/-- An operation that answers data has read a response. -/
theorem reads_of_answer {operation : ChannelOperation} {data : Bytes}
    (ended : (operation.perform patience before).ended = some (.ok (some data), after)) :
    ∃ began timeoutMs, Reads patience before operation began timeoutMs ∧
      take timeoutMs patience began = .done data after := by
  have done := ended_eq_ok_iff.mp ended
  cases operation with
  | put header body | wake =>
    obtain ⟨_, between, -, impossible⟩ := (bind_eq_done_iff ..).mp done
    cases impossible
  | take timeoutMs =>
    obtain ⟨found, between, read, answered⟩ := (bind_eq_done_iff ..).mp done
    cases answered
    exact ⟨before, timeoutMs, .take timeoutMs, read⟩
  | ask header body =>
    obtain ⟨found, between, asked, answered⟩ := (bind_eq_done_iff ..).mp done
    cases answered
    rw [ask, get_bind] at asked
    obtain ⟨_, began, written, read⟩ := (bind_eq_done_iff ..).mp asked
    exact ⟨began, _, .ask written, read⟩
  | askWithin header body timeoutMs =>
    obtain ⟨found, between, asked, answered⟩ := (bind_eq_done_iff ..).mp done
    cases answered
    obtain ⟨_, began, written, read⟩ := (bind_eq_done_iff ..).mp asked
    exact ⟨began, timeoutMs, .askWithin timeoutMs written, read⟩

/-! ### Responses -/

theorem take_of_unused (unused : before.lastCode = none) (timeoutMs : Nat) :
    take timeoutMs patience before = .failed (.notReady "no command written yet") before := by
  unfold take
  rw [get_bind, unused]
  rfl

/-- The channel adds nothing to what its transport reads. -/
theorem take_eq_done {timeoutMs : Nat} {data : Bytes}
    (done : take timeoutMs patience before = .done data after) :
    ∃ command transport, before.lastCode = some command ∧
      Transport.takeResponse command timeoutMs before.settings.capacity patience
        before.transport = .done data transport ∧ after.transport = transport := by
  cases code : before.lastCode with
  | none =>
    rw [take_of_unused code] at done
    cases done
  | some command =>
    unfold take at done
    rw [get_bind, code] at done
    obtain ⟨transport, read, same⟩ := (on_eq_done_iff ..).mp done
    exact ⟨command, transport, rfl, read, by rw [← same]; rfl⟩

end Channel

section Runs

variable {σ : Type} [Host σ] [Transport σ]

/-- A response is accepted only if what has come in for it is one frame from the controller with the
code after that of the latest command, before which none is read at all. A command without a header
changes nothing. -/
theorem Channel.Run.responses_pair {transport : Overheard σ} {settings : ChannelSettings}
    {operations : List ChannelOperation} {last : Channel (Overheard σ)}
    (run : Channel.Run { transport, settings } operations last) (operation : ChannelOperation)
    (patience : Nat) :
    (∀ data after, (operation.perform patience last).ended = some (.ok (some data), after) →
      ∃ began timeoutMs, Reads patience last operation began timeoutMs ∧
        take timeoutMs patience began = .done data after) ∧
    (∀ began timeoutMs, Reads patience last operation began timeoutMs →
      (∀ data after, take timeoutMs patience began = .done data after →
        ∃ command reading, latestCode (operations ++ [operation]) = some command ∧
          after.transport.calls = began.transport.calls ++ reading ∧
          Frame.decode (receivedIn reading) = .ok ⟨Frame.fromController, (command + 1) :: data⟩ ∧
          data.length ≤ settings.capacity) ∧
      (latestCode (operations ++ [operation]) = none →
        take timeoutMs patience began = .failed (.notReady "no command written yet") began)) ∧
    ∀ body, put [] body patience last = .failed (.invalidLength 1 0) last := by
  obtain ⟨remembered, settled⟩ := run.remembers rfl
  refine ⟨fun _ _ => reads_of_answer, ?_, fun _ => rfl⟩
  intro began timeoutMs reads
  obtain ⟨code, kept⟩ := reads.remembers
  rw [remembered, ← latestCode_append] at code
  constructor
  · intro data after done
    obtain ⟨command, read, known, taken, same⟩ := take_eq_done done
    obtain ⟨⟨reading, called, whole⟩, fits, roomy⟩ := Overheard.takeResponse_hears taken
    refine ⟨command, reading, code.symm.trans known, by rw [same, called], ?_, ?_⟩
    · exact (Frame.decode_eq_ok_iff _ _).mpr ⟨.inr rfl, fits, whole⟩
    · rw [kept, settled] at roomy
      exact roomy
  · intro unused
    exact take_of_unused (code.trans unused) timeoutMs

/-- What a series of operations leads to, unless one of them is still waiting. -/
def Channel.runOf (patience : Nat) (first : Channel σ) (operations : List ChannelOperation) :
    Option (Channel σ) :=
  operations.foldlM (fun channel operation =>
    (operation.perform patience channel).ended.map Prod.snd) first

theorem Channel.Run.continued {patience : Nat} {first between last : Channel σ}
    {earlier later : List ChannelOperation} (run : Channel.Run first earlier between)
    (goes : runOf patience between later = some last) :
    Channel.Run first (earlier ++ later) last := by
  induction later generalizing earlier between with
  | nil =>
    cases goes
    rw [List.append_nil]
    exact run
  | cons operation later ih =>
    rw [runOf, List.foldlM_cons] at goes
    obtain ⟨next, goes, further⟩ := Option.bind_eq_some_iff.mp goes
    obtain ⟨⟨result, after⟩, ended, rfl⟩ := Option.map_eq_some_iff.mp goes
    rw [List.append_cons]
    exact ih (run.step ended) further

theorem Channel.runOf_sound {patience : Nat} {first last : Channel σ}
    {operations : List ChannelOperation} (found : runOf patience first operations = some last) :
    Channel.Run first operations last :=
  Channel.Run.continued .start found

end Runs

/-- Serves an acknowledgement, and a response to the last of all codes. -/
def wrappingChannel : Channel (Overheard (Bench StreamDevice)) :=
  { transport := { inner := { device := { queue := Reply.full 0xFF [0x0A] } } } }

/-- The second command is too long to be sent, and the response is held against its code all the
same. The code after 255 is zero. -/
theorem wrappingChannel_responses_pair :
    let operations := [.put [0x02] [], .put (0xFF :: List.replicate 254 0x00) []]
    ∃ last after, Channel.Run wrappingChannel operations last ∧
      Channel.take 1000 9 last = .done [0x0A] after ∧
      latestCode (operations ++ [.take 1000]) = some 0xFF ∧
      ∃ reading, after.transport.calls = last.transport.calls ++ reading ∧
        Frame.decode (receivedIn reading) = .ok ⟨Frame.fromController, [0x00, 0x0A]⟩ := by
  intro operations
  have taken : ((Channel.runOf 9 wrappingChannel operations).bind fun last =>
      (Channel.take 1000 9 last).ended.bind fun (result, _) => result.toOption) =
      some [0x0A] := by
    decide +kernel
  obtain ⟨last, found, read⟩ := Option.bind_eq_some_iff.mp taken
  obtain ⟨⟨result, after⟩, ended, answered⟩ := Option.bind_eq_some_iff.mp read
  have run := Channel.runOf_sound found
  have done : Channel.take 1000 9 last = .done [0x0A] after := by
    cases result with
    | error error => cases answered
    | ok data =>
      cases answered
      exact ended_eq_ok_iff.mp ended
  obtain ⟨-, reads, -⟩ := Channel.Run.responses_pair run (.take 1000) 9
  obtain ⟨accepts, -⟩ := reads _ _ (.take 1000)
  obtain ⟨command, reading, latest, called, decoded, -⟩ := accepts _ _ done
  cases latest
  exact ⟨last, after, run, done, rfl, reading, called, decoded⟩

end NfcLink
