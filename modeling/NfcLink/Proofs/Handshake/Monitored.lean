import NfcLink.Bus.Serial
import NfcLink.Proofs.Outcome

/-!
# What is asked of a serial line

A monitor between a port and its line notes down the reads and changes nothing, unless it is
told to cut the line. Each round of a receive asks for what is still missing and waits for
what is left of the time, whatever the line brings and whether or not it ever brings enough.
-/
namespace NfcLink

open NfcLink.Action Outcome

/-- A read of a line: how many bytes it asked for, how long it was to wait, and what came. -/
structure LineRead where
  wanted : Nat
  waitMs : Nat
  result : Except Error Bytes

/-- The bytes that reads brought, in order. -/
def LineRead.brought (reads : List LineRead) : Bytes :=
  reads.flatMap fun read => read.result.toOption.getD []

@[simp] theorem LineRead.brought_append (earlier later : List LineRead) :
    brought (earlier ++ later) = brought earlier ++ brought later :=
  List.flatMap_append

@[simp] theorem LineRead.brought_singleton (read : LineRead) :
    brought [read] = read.result.toOption.getD [] :=
  List.append_nil _

/-- A line whose reads are noted down, and which may be cut, so that what is asked of it is seen
even where the line would not answer. -/
structure Monitored (σ : Type) where
  inner : σ
  reads : List LineRead := []
  /-- How many reads are noted down when the line is cut, if it ever is. -/
  cut? : Option Nat := none

namespace Monitored

variable {σ : Type}

def innerPart : Part (Monitored σ) σ :=
  ⟨Monitored.inner, fun inner monitored => { monitored with inner }⟩

instance [Host σ] : Host (Monitored σ) := Host.through innerPart

/-- What the line says to a read. -/
def answer [SerialLine σ] (wanted waitMs : Nat) : Action (Monitored σ) (Except Error Bytes) := do
  let monitored ← Action.get
  if monitored.cut? = some monitored.reads.length then return .error (.bus "line cut")
  else ((SerialLine.read wanted waitMs).on innerPart).attempt

instance [SerialLine σ] : SerialLine (Monitored σ) where
  setBaud baudRate := (SerialLine.setBaud baudRate).on innerPart
  write data := (SerialLine.write data).on innerPart
  read wanted waitMs := do
    let result ← answer wanted waitMs
    Action.modify fun monitored =>
      { monitored with reads := monitored.reads ++ [⟨wanted, waitMs, result⟩] }
    Action.ofExcept result
  buffered := SerialLine.buffered.on innerPart

variable [SerialLine σ] (wanted waitMs patience : Nat) (monitored : Monitored σ)

/-- The read ends as the line does, unless that is cut, and is the last one noted. -/
theorem read_ended :
    (SerialLine.read wanted waitMs patience monitored).ended =
      (if monitored.cut? = some monitored.reads.length then
        some (.error (.bus "line cut"), monitored.inner)
      else (SerialLine.read wanted waitMs patience monitored.inner).ended).map
        fun (result, inner) => (result, { monitored with
          inner, reads := monitored.reads ++ [⟨wanted, waitMs, result⟩] }) := by
  change ((answer wanted waitMs >>= _) patience monitored).ended = _
  rw [bind_apply]
  unfold answer
  rw [get_bind]
  by_cases cut : monitored.cut? = some monitored.reads.length
  · rw [if_pos cut, if_pos cut]
    rfl
  · rw [if_neg cut, if_neg cut]
    simp only [attempt, on, innerPart]
    cases SerialLine.read wanted waitMs patience monitored.inner with
    | done bytes inner => rfl
    | failed error inner => rfl
    | waiting => rfl

theorem read_ifEnds :
    (SerialLine.read wanted waitMs patience monitored).IfEnds fun result after =>
      after.reads = monitored.reads ++ [⟨wanted, waitMs, result⟩] := by
  rw [ifEnds_iff]
  intro result after ended
  rw [read_ended] at ended
  obtain ⟨⟨_, inner⟩, -, same⟩ := Option.map_eq_some_iff.mp ended
  cases same
  rfl

/-- A read of a line that answers comes to an end, and it fails where the line is cut. -/
theorem read_ends {kept : σ → Prop}
    (returns : Stays kept patience (SerialLine.read wanted waitMs))
    (holds : kept monitored.inner) :
    (SerialLine.read wanted waitMs patience monitored).Ends fun result after =>
      kept after.inner ∧ after.cut? = monitored.cut? ∧
        after.reads.length = monitored.reads.length + 1 ∧
        ∀ bytes, result = .ok bytes → monitored.cut? ≠ some monitored.reads.length := by
  rw [ends_iff, read_ended]
  split
  · exact ⟨_, _, rfl, holds, rfl, List.length_append, nofun⟩
  next whole =>
    obtain ⟨result, inner, ended, kept⟩ := (ends_iff ..).mp (returns monitored.inner holds)
    rw [ended]
    exact ⟨_, _, rfl, kept, rfl, List.length_append, fun _ _ => whole⟩

end Monitored

namespace SerialPort

/-! ### Rounds -/

section Rounds

variable {σ : Type} [Host σ] [SerialLine σ] {patience wanted rounds : Nat} {deadline : Deadline}
variable {gathered piece : Bytes}

theorem gather_of_enough (enough : wanted ≤ gathered.length) :
    (gather wanted deadline rounds gathered : Action (SerialPort σ) Bytes) = pure gathered := by
  unfold gather
  rw [if_pos enough]

variable {port between after last : SerialPort σ} {remaining : Option Nat}
  (missing : gathered.length < wanted)
  (looked : deadline.remainingMs patience port = .done remaining between)
include missing looked

variable (time : remaining ≠ some 0)
include time

theorem gather_of_piece
    (reading : read (wanted - gathered.length) (remaining.getD 0) patience between =
      .done piece after) (brings : piece ≠ []) :
    gather wanted deadline (rounds + 1) gathered patience port =
      gather wanted deadline rounds (gathered ++ piece) patience after := by
  have got : ¬ piece.isEmpty = true := fun empty => brings (List.isEmpty_iff.mp empty)
  conv => lhs; unfold gather
  rw [if_neg (Nat.not_le_of_lt missing)]
  dsimp only
  rw [bind_of_done looked]
  split
  · exact absurd rfl time
  · rw [bind_of_done reading, if_neg got]

theorem gather_of_nothing
    (reading : read (wanted - gathered.length) (remaining.getD 0) patience between =
      .done [] after) (early : deadline.expired patience after = .done false last) :
    gather wanted deadline (rounds + 1) gathered patience port =
      gather wanted deadline rounds gathered patience last := by
  conv => lhs; unfold gather
  rw [if_neg (Nat.not_le_of_lt missing)]
  dsimp only
  rw [bind_of_done looked]
  split
  · exact absurd rfl time
  · rw [bind_of_done reading, if_pos List.isEmpty_nil, bind_of_done early]
    rfl

end Rounds

/-! ### What is asked of the line -/

variable {σ : Type} [Host σ] [SerialLine σ] {wanted timeoutMs patience : Nat}

/-- The reads of a receive that has gathered so much: each asks for what is missing then, and waits
without end if and only if there is no deadline. -/
inductive Gathers (wanted timeoutMs : Nat) :
    (gathered : Bytes) → List LineRead → Except Error Bytes → Prop where
  | stops (gathered : Bytes) : Gathers wanted timeoutMs gathered [] (.ok gathered)
  | fails {gathered : Bytes} {waitMs : Nat} (error : Error) (missing : gathered.length < wanted)
      (waits : waitMs = 0 ↔ timeoutMs = 0) :
      Gathers wanted timeoutMs gathered [⟨wanted - gathered.length, waitMs, .error error⟩]
        (.error error)
  | goesOn {gathered piece : Bytes} {waitMs : Nat} {later : List LineRead}
      {result : Except Error Bytes} (missing : gathered.length < wanted)
      (waits : waitMs = 0 ↔ timeoutMs = 0)
      (rest : Gathers wanted timeoutMs (gathered ++ piece) later result) :
      Gathers wanted timeoutMs gathered
        (⟨wanted - gathered.length, waitMs, .ok piece⟩ :: later) result

variable {gathered bytes : Bytes} {reads : List LineRead} {result : Except Error Bytes}

theorem asked_of_missing (missing : gathered.length < wanted) :
    wanted - gathered.length + (gathered ++ LineRead.brought []).length = wanted := by
  change _ + (gathered ++ []).length = _
  rw [List.append_nil]
  exact Nat.sub_add_cancel (Nat.le_of_lt missing)

theorem Gathers.asks (gathers : Gathers wanted timeoutMs gathered reads result)
    {earlier later : List LineRead} {read : LineRead} (split : reads = earlier ++ read :: later) :
    read.wanted + (gathered ++ LineRead.brought earlier).length = wanted ∧ 0 < read.wanted ∧
      (read.waitMs = 0 ↔ timeoutMs = 0) := by
  induction gathers generalizing earlier with
  | stops gathered => cases earlier <;> cases split
  | @fails gathered waitMs error missing waits =>
    cases earlier with
    | nil =>
      cases split
      exact ⟨asked_of_missing missing, Nat.sub_pos_of_lt missing, waits⟩
    | cons first earlier => cases earlier <;> cases split
  | @goesOn gathered piece waitMs rest result missing waits gathers ih =>
    cases earlier with
    | nil =>
      cases split
      exact ⟨asked_of_missing missing, Nat.sub_pos_of_lt missing, waits⟩
    | cons first earlier =>
      cases split
      have found := ih rfl
      rw [List.append_assoc] at found
      exact found

theorem Gathers.answer (gathers : Gathers wanted timeoutMs gathered reads (.ok bytes)) :
    bytes = gathered ++ LineRead.brought reads := by
  generalize same : Except.ok bytes = result at gathers
  induction gathers with
  | stops gathered =>
    cases same
    exact (List.append_nil _).symm
  | fails => cases same
  | goesOn missing waits rest ih => rw [ih same, List.append_assoc]; rfl

variable {port : SerialPort (Monitored σ)} {deadline : Deadline}

omit [SerialLine σ] in
theorem remainingMs_ifEnds :
    (deadline.remainingMs patience port).IfEnds fun result after =>
      after.bus.reads = port.bus.reads ∧
        ∃ remaining, result = .ok remaining ∧ (remaining = none ↔ deadline.instant? = none) := by
  obtain ⟨none | instant⟩ := deadline
  · exact ⟨rfl, none, rfl, Iff.rfl⟩
  · exact ⟨rfl, some _, rfl, iff_of_false nofun nofun⟩

omit [SerialLine σ] in
theorem expired_ifEnds :
    (deadline.expired patience port).IfEnds fun result after =>
      after.bus.reads = port.bus.reads ∧ ∃ passed, result = .ok passed := by
  obtain ⟨none | instant⟩ := deadline
  · exact ⟨rfl, _, rfl⟩
  · exact ⟨rfl, _, rfl⟩

omit [Host σ] in
theorem read_ifEnds (length waitMs : Nat) :
    (read length waitMs patience port).IfEnds fun result after =>
      after.bus.reads = port.bus.reads ++ [⟨length, waitMs, result⟩] :=
  ifEnds_on (Monitored.read_ifEnds length waitMs patience port.bus)

/-- A round that looked at the clock waits without end if and only if there is no deadline. -/
theorem waits_of_remaining {remaining : Option Nat}
    (limited : deadline.instant? = none ↔ timeoutMs = 0)
    (unlimited : remaining = none ↔ deadline.instant? = none) (time : remaining ≠ some 0) :
    remaining.getD 0 = 0 ↔ timeoutMs = 0 := by
  rw [← limited, ← unlimited]
  cases remaining with
  | none => exact iff_of_true rfl rfl
  | some left => exact iff_of_false (fun none => time (congrArg some none)) nofun

/-- Induction on the rounds that the observer stays for. -/
theorem gather_gathers (limited : deadline.instant? = none ↔ timeoutMs = 0) (rounds : Nat) :
    (gather wanted deadline rounds gathered patience port).IfEnds fun result after =>
      ∃ reads, after.bus.reads = port.bus.reads ++ reads ∧
        Gathers wanted timeoutMs gathered reads result := by
  induction rounds generalizing gathered port with
  | zero =>
    unfold gather
    split
    · exact ⟨[], (List.append_nil _).symm, .stops gathered⟩
    · exact True.intro
  | succ rounds ih =>
    by_cases enough : wanted ≤ gathered.length
    · rw [gather_of_enough enough]
      exact ⟨[], (List.append_nil _).symm, .stops gathered⟩
    have missing := Nat.lt_of_not_le enough
    unfold gather
    rw [if_neg enough]
    refine ifEnds_bind remainingMs_ifEnds ?_ ?_
    · rintro error after ⟨-, _, impossible, -⟩
      cases impossible
    rintro remaining looked ⟨untouched, _, ⟨rfl⟩, unlimited⟩
    split
    · exact ⟨[], by rw [untouched, List.append_nil], .stops gathered⟩
    next time =>
      have waits := waits_of_remaining limited unlimited time
      refine ifEnds_bind (read_ifEnds _ _) ?_ ?_
      · rintro error after noted
        exact ⟨_, by rw [noted, untouched], .fails error missing waits⟩
      rintro piece taken noted
      -- Whatever follows the read is noted after it.
      have prefixed {outcome : Outcome (SerialPort (Monitored σ)) Bytes}
          (ends : outcome.IfEnds fun result after => ∃ reads,
            after.bus.reads = taken.bus.reads ++ reads ∧
              Gathers wanted timeoutMs (gathered ++ piece) reads result) :
          outcome.IfEnds fun result after => ∃ reads,
            after.bus.reads = port.bus.reads ++ reads ∧
              Gathers wanted timeoutMs gathered reads result := by
        apply ends.mono
        rintro result after ⟨reads, later, gathers⟩
        refine ⟨_ :: reads, ?_, .goesOn missing waits gathers⟩
        rw [later, noted, untouched, List.append_assoc]
        rfl
      split
      next empty =>
        rw [List.isEmpty_iff.mp empty, List.append_nil] at prefixed
        refine prefixed (ifEnds_bind expired_ifEnds ?_ ?_)
        · rintro error after ⟨-, _, impossible⟩
          cases impossible
        rintro passed last ⟨still, -⟩
        rw [← still]
        split
        · exact ⟨[], (List.append_nil _).symm, .stops gathered⟩
        · exact ih
      · exact prefixed ih

theorem receive_gathers :
    (receive wanted timeoutMs patience port).IfEnds fun result after =>
      ∃ reads, after.bus.reads = port.bus.reads ++ reads ∧
        (∀ earlier read later, reads = earlier ++ read :: later →
          read.wanted + (LineRead.brought earlier).length = wanted ∧ 0 < read.wanted ∧
            (read.waitMs = 0 ↔ timeoutMs = 0)) ∧
        ∀ bytes, result = .ok bytes → bytes = LineRead.brought reads ∧ wanted ≤ bytes.length := by
  have begins : ∃ deadline between,
      Deadline.after timeoutMs patience port = .done deadline between ∧
      between.bus.reads = port.bus.reads ∧ (deadline.instant? = none ↔ timeoutMs = 0) := by
    unfold Deadline.after
    split
    next endless => exact ⟨_, _, rfl, rfl, iff_of_true rfl endless⟩
    next limited => exact ⟨_, _, rfl, rfl, iff_of_false nofun limited⟩
  obtain ⟨deadline, between, set, untouched, limited⟩ := begins
  unfold receive
  rw [bind_of_done set, patience_bind, ← untouched]
  refine ifEnds_bind (gather_gathers limited patience) ?_ ?_
  · rintro error after ⟨reads, noted, gathers⟩
    exact ⟨reads, noted, fun _ _ _ split => gathers.asks split, nofun⟩
  rintro bytes gathered ⟨reads, noted, gathers⟩
  rw [Action.note_bind]
  split
  · exact ⟨reads, noted, fun _ _ _ split => gathers.asks split, nofun⟩
  next enough =>
    refine ⟨reads, noted, fun _ _ _ split => gathers.asks split, ?_⟩
    rintro _ ⟨rfl⟩
    exact ⟨gathers.answer, Nat.le_of_not_lt enough⟩

/-! ### Receives that go on -/

/-- The line answers, so many of its reads are noted down, and it will be cut later. -/
structure Uncut (kept : σ → Prop) (cut count : Nat) (port : SerialPort (Monitored σ)) : Prop where
  kept : kept port.bus.inner
  cuts : port.bus.cut? = some cut
  noted : port.bus.reads.length = count
  ahead : count ≤ cut

section Cut

variable {kept : σ → Prop} {cut count rounds : Nat}
  (returns : ∀ length waitMs, Stays kept patience (SerialLine.read length waitMs))
  (looked : ∀ state, kept state → kept (Host.now state).2)

omit [SerialLine σ] in
include looked in
theorem Uncut.clock : Stays (Uncut kept cut count) patience Host.clock :=
  fun port uncut => ⟨looked port.bus.inner uncut.kept, uncut.cuts, uncut.noted, uncut.ahead⟩

omit [SerialLine σ] in
include looked in
theorem Uncut.remainingMs (deadline : Deadline) :
    Stays (Uncut kept cut count) patience deadline.remainingMs := by
  unfold Deadline.remainingMs
  split
  · exact stays_pure _
  · exact stays_bind (Uncut.clock looked) fun _ => stays_pure _

omit [Host σ] in
include returns in
theorem Uncut.read (uncut : Uncut kept cut count port) (length waitMs : Nat) :
    (SerialPort.read length waitMs patience port).Ends fun result after =>
      ∀ bytes, result = .ok bytes → Uncut kept cut (count + 1) after := by
  apply ends_on
  refine (Monitored.read_ends _ _ _ _ (returns length waitMs) uncut.kept).mono ?_
  rintro result after ⟨holds, same, noted, whole⟩ bytes done
  have later : cut ≠ count := by
    rintro rfl
    exact whole bytes done (uncut.noted ▸ uncut.cuts)
  exact ⟨holds, same.trans uncut.cuts, noted.trans (congrArg (· + 1) uncut.noted),
    Nat.lt_of_le_of_ne uncut.ahead later.symm⟩

include returns looked

/-- Each round but the last comes a read nearer to the cut. -/
theorem gather_ends_of_cut (uncut : Uncut kept cut count port) (enough : cut < count + rounds) :
    (gather wanted deadline rounds gathered patience port).Ends fun _ _ => True := by
  induction rounds generalizing port gathered count with
  | zero => exact absurd uncut.ahead (Nat.not_le_of_lt enough)
  | succ rounds ih =>
    by_cases whole : wanted ≤ gathered.length
    · rw [gather_of_enough whole]
      exact True.intro
    unfold gather
    rw [if_neg whole]
    refine ends_then (Uncut.remainingMs looked deadline port uncut) (fun _ _ _ => True.intro) ?_
    intro remaining between uncut
    split
    · exact True.intro
    refine ends_then (Uncut.read returns uncut _ _) (fun _ _ _ => True.intro) ?_
    intro piece taken later
    have nearer : Uncut kept cut (count + 1) taken := later piece rfl
    have enough : cut < count + 1 + rounds := by omega
    split
    · refine ends_then (Deadline.expired_stays (Uncut.clock looked) deadline taken nearer)
        (fun _ _ _ => True.intro) ?_
      intro passed last uncut
      split
      · exact True.intro
      · exact ih uncut enough
    · exact ih nearer enough

theorem receive_ends_of_cut (uncut : Uncut kept cut count port)
    (enough : cut < count + patience) :
    (receive wanted timeoutMs patience port).Ends fun _ _ => True := by
  unfold receive
  refine ends_then (Deadline.after_stays (Uncut.clock looked) timeoutMs port uncut)
    (fun _ _ _ => True.intro) ?_
  intro deadline between uncut
  rw [patience_bind]
  refine ends_then (gather_ends_of_cut returns looked uncut enough) (fun _ _ _ => True.intro) ?_
  intro bytes gathered _
  rw [Action.note_bind]
  split
  · exact True.intro
  · exact True.intro

end Cut

end SerialPort

end NfcLink
