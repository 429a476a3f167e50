import Mathlib.Data.Stream.Init
import NfcLink.Proofs.Link.Played

/-!
# Where a wait stops

Before each read a wait looks at the clock, and after it the PDU decides: it ends the wait,
or it is a SYMM that may be answered and is. So the wait is over in the first round in
which anything else happens, and what has gone out before is one SYMM for each that came
in. The surroundings are settled beforehand here, for any number of rounds: how long each
read takes, what it comes to, and what becomes of each answer.
-/
namespace NfcLink

open NfcLink.Action Outcome

/-! ### A timed peer -/

/-- What a read comes to, and the time that it takes. -/
structure Arrival where
  takesNs : Nat
  result : Except Error Bytes

structure TimedPeer where
  /-- The reads to come. -/
  arrivals : Stream' Arrival
  /-- What becomes of the writes to come. -/
  answers : Stream' (Except Error Unit)

namespace TimedPeer

def read (bench : Bench TimedPeer) : Except Error Bytes × Bench TimedPeer :=
  let arrival := bench.device.arrivals.head
  (arrival.result, { bench with
    device := { bench.device with arrivals := bench.device.arrivals.tail }
    clockNs := bench.clockNs + arrival.takesNs })

def write (peer : TimedPeer) : Except Error Unit × TimedPeer :=
  (peer.answers.head, { peer with answers := peer.answers.tail })

instance : PeerLink (Bench TimedPeer) where
  activate _ := pure ()
  read := Action.ofStep read
  write _ _ := Bench.step write

end TimedPeer

/-- What the clock shows at the start of a round. -/
def Bench.roundNs (bench : Bench TimedPeer) : (round : Nat) → Nat
  | 0 => bench.clockNs
  | round + 1 => bench.roundNs round + bench.tickNs + (bench.device.arrivals.get round).takesNs

/-- What the first rounds do that each read a SYMM and answer it. -/
def Bench.absorbedCalls (bench : Bench TimedPeer) : (rounds : Nat) → List LinkCall
  | 0 => []
  | round + 1 => bench.absorbedCalls round ++
    [.read (bench.device.arrivals.get round).result, .written [0x00, 0x00] [] (.ok ())]

/-! ### Rounds -/

/-- A round, counted from zero, in which the read comes to this ends the wait with these calls and
this result. -/
inductive Decides (wanted : List PduType) (maxSymm : Option Nat) (round : Nat) :
    (arrived : Except Error Bytes) → (answered : Except Error Unit) → List LinkCall →
      Except Error Bytes → Prop where
  | unread {answered : Except Error Unit} (error : Error) :
      Decides wanted maxSymm round (.error error) answered [.read (.error error)] (.error error)
  | short {answered : Except Error Unit} {pdu : Bytes} (short : pdu.length < 2) :
      Decides wanted maxSymm round (.ok pdu) answered [.read (.ok pdu)]
        (.error (.link (.shortRead pdu.length)))
  | taken {answered : Except Error Unit} {pdu : Bytes} {type : PduType}
      (typed : PduHeader.typeOf pdu = .ok type) (member : type ∈ wanted) :
      Decides wanted maxSymm round (.ok pdu) answered [.read (.ok pdu)] (.ok pdu)
  | unexpected {answered : Except Error Unit} {pdu : Bytes} {type : PduType}
      (typed : PduHeader.typeOf pdu = .ok type) (other : type ∉ wanted)
      (different : type ≠ .symm) :
      Decides wanted maxSymm round (.ok pdu) answered [.read (.ok pdu)]
        (.error (.link (.unexpectedPdu ("|".intercalate (wanted.map PduType.text)) type)))
  | exhausted {answered : Except Error Unit} {pdu : Bytes} {limit : Nat} (symm : IsSymm pdu)
      (capped : maxSymm = some limit) (beyond : limit < round + 1) :
      Decides wanted maxSymm round (.ok pdu) answered [.read (.ok pdu)] (.error .timeout)
  | unanswered {pdu : Bytes} (symm : IsSymm pdu)
      (within : ∀ limit, maxSymm = some limit → round + 1 ≤ limit) (error : Error) :
      Decides wanted maxSymm round (.ok pdu) (.error error)
        [.read (.ok pdu), .written [0x00, 0x00] [] (.error error)] (.error error)

/-- The wait is over in this round, if it comes so far. -/
inductive StopsIn (wanted : List PduType) (maxSymm : Option Nat) (deadline : Deadline)
    (bench : Bench TimedPeer) (round : Nat) : List LinkCall → Except Error Bytes → Prop where
  | expired (late : deadline.PassedBy (bench.roundNs round)) :
      StopsIn wanted maxSymm deadline bench round [] (.error .timeout)
  | read {calls : List LinkCall} {result : Except Error Bytes}
      (early : ¬deadline.PassedBy (bench.roundNs round))
      (decides : Decides wanted maxSymm round (bench.device.arrivals.get round).result
        (bench.device.answers.get round) calls result) :
      StopsIn wanted maxSymm deadline bench round calls result

/-- The round answers a SYMM, and there is another. -/
structure AbsorbsIn (maxSymm : Option Nat) (deadline : Deadline) (bench : Bench TimedPeer)
    (round : Nat) : Prop where
  early : ¬deadline.PassedBy (bench.roundNs round)
  symm : ∃ pdu, (bench.device.arrivals.get round).result = .ok pdu ∧ IsSymm pdu
  within : ∀ limit, maxSymm = some limit → round + 1 ≤ limit
  answered : bench.device.answers.get round = .ok ()

theorem PduHeader.typeOf_of_short {pdu : Bytes} (short : pdu.length < 2) :
    PduHeader.typeOf pdu = .error (.link (.shortRead pdu.length)) := by
  match pdu with
  | [] | [_] => rfl
  | _ :: _ :: _ =>
    simp only [List.length_cons] at short
    omega

theorem PduHeader.typeOf_of_long {pdu : Bytes} (long : 2 ≤ pdu.length) :
    ∃ type, PduHeader.typeOf pdu = .ok type := by
  match pdu with
  | [] | [_] => simp at long
  | _ :: _ :: _ => exact ⟨_, rfl⟩

variable {wanted : List PduType} {maxSymm : Option Nat} {deadline : Deadline}
variable {bench : Bench TimedPeer} {round : Nat} {calls : List LinkCall}
variable {result : Except Error Bytes}

/-- Unless a round ends the wait, it answers a SYMM. -/
theorem absorbsIn_iff (unwanted : .symm ∉ wanted) :
    AbsorbsIn maxSymm deadline bench round ↔
      ∀ calls result, ¬StopsIn wanted maxSymm deadline bench round calls result := by
  constructor
  · rintro ⟨early, ⟨pdu, arrived, symm⟩, within, answered⟩ calls result stops
    cases stops with
    | expired late => exact early late
    | read _ decides =>
      rw [arrived, answered] at decides
      cases decides with
      | short short => cases symm.symm.trans (PduHeader.typeOf_of_short short)
      | taken typed member =>
        cases symm.symm.trans typed
        exact unwanted member
      | unexpected typed other different =>
        cases symm.symm.trans typed
        exact different rfl
      | exhausted _ capped beyond => exact Nat.not_lt_of_ge (within _ capped) beyond
  · intro goesOn
    have early : ¬deadline.PassedBy (bench.roundNs round) := fun late => goesOn _ _ (.expired late)
    have read : ∀ {arrived answered calls result},
        (bench.device.arrivals.get round).result = arrived →
        bench.device.answers.get round = answered →
        ¬Decides wanted maxSymm round arrived answered calls result := by
      rintro _ _ calls result rfl rfl decides
      exact goesOn calls result (.read early decides)
    cases arrived : (bench.device.arrivals.get round).result with
    | error error => exact absurd (.unread error) (read arrived rfl)
    | ok pdu =>
      rcases Nat.lt_or_ge pdu.length 2 with short | long
      · exact absurd (.short short) (read arrived rfl)
      obtain ⟨type, typed⟩ := PduHeader.typeOf_of_long long
      have other : type ∉ wanted := fun member => read arrived rfl (.taken typed member)
      obtain rfl : type = .symm := Classical.not_not.mp fun different =>
        read arrived rfl (.unexpected typed other different)
      have within : ∀ limit, maxSymm = some limit → round + 1 ≤ limit := by
        intro limit capped
        exact Nat.le_of_not_gt fun beyond => read arrived rfl (.exhausted typed capped beyond)
      cases answered : bench.device.answers.get round with
      | error error => exact absurd (.unanswered typed within error) (read arrived answered)
      | ok done => exact ⟨early, ⟨pdu, arrived, typed⟩, within, answered⟩

/-! ### Steps of a wait -/

/-- After so many rounds with a read and so many with an answer this is left of the surroundings. -/
structure Standing (deadline : Deadline) (reads writes : Nat) (first now : Bench TimedPeer) :
    Prop where
  arrivals : now.device.arrivals = first.device.arrivals.drop reads
  answers : now.device.answers = first.device.answers.drop writes
  clock : deadline.instant? ≠ none → now.clockNs = first.roundNs reads
  tick : now.tickNs = first.tickNs

/-- From one state to another the endpoint made these calls and changed none of its fields. -/
structure Made (calls : List LinkCall) (before after : Endpoint (Observed (Bench TimedPeer))) :
    Prop where
  calls : after.link.calls = before.link.calls ++ calls
  connection : after.connection = before.connection
  settings : after.settings = before.settings

variable {first now : Endpoint (Observed (Bench TimedPeer))}

theorem Made.nothing : Made [] now now := ⟨(List.append_nil _).symm, rfl, rfl⟩

theorem Made.trans {more : List LinkCall} {after : Endpoint (Observed (Bench TimedPeer))}
    (start : Made calls first now) (rest : Made more now after) :
    Made (calls ++ more) first after where
  calls := by rw [rest.calls, start.calls, List.append_assoc]
  connection := rest.connection.trans start.connection
  settings := rest.settings.trans start.settings

theorem Made.noted (made : Made calls first now) (notice : Notice) :
    Made calls first (Host.record notice now) :=
  ⟨made.calls, made.connection, made.settings⟩

theorem Standing.passedBy_iff {first now : Bench TimedPeer} {writes : Nat}
    (standing : Standing deadline round writes first now) :
    deadline.PassedBy now.clockNs ↔ deadline.PassedBy (first.roundNs round) := by
  constructor
  · rintro ⟨limit, limited, reached⟩
    rw [standing.clock (by simp [limited])] at reached
    exact ⟨limit, limited, reached⟩
  · rintro ⟨limit, limited, reached⟩
    rw [← standing.clock (by simp [limited])] at reached
    exact ⟨limit, limited, reached⟩

namespace Endpoint

variable (patience : Nat)

/-- The state after the look at the clock, if there is a limit to be held against it. -/
def looked (deadline : Deadline) (now : Endpoint (Observed (Bench TimedPeer))) :
    Endpoint (Observed (Bench TimedPeer)) :=
  match deadline.instant? with
  | none => now
  | some _ => (Host.now now).2

theorem expired_of_late (late : deadline.PassedBy now.link.inner.clockNs) :
    deadline.expired patience now = .done true (now.looked deadline) := by
  obtain ⟨limit, limited, reached⟩ := late
  obtain ⟨_⟩ := deadline
  subst limited
  change Outcome.done (decide (limit ≤ now.link.inner.clockNs)) _ = _
  rw [decide_eq_true reached]
  rfl

theorem expired_of_early (early : ¬deadline.PassedBy now.link.inner.clockNs) :
    deadline.expired patience now = .done false (now.looked deadline) := by
  obtain ⟨_ | limit⟩ := deadline
  · rfl
  · have unreached : ¬limit ≤ now.link.inner.clockNs :=
      fun reached => early ⟨limit, rfl, reached⟩
    change Outcome.done (decide (limit ≤ now.link.inner.clockNs)) _ = _
    rw [decide_eq_false unreached]
    rfl

theorem made_looked : Made [] now (now.looked deadline) := by
  obtain ⟨_ | limit⟩ := deadline <;> exact ⟨(List.append_nil _).symm, rfl, rfl⟩

/-- The state after the next read. -/
def afterRead (now : Endpoint (Observed (Bench TimedPeer))) :
    Endpoint (Observed (Bench TimedPeer)) :=
  { now with link := {
      inner := (TimedPeer.read now.link.inner).2
      calls := now.link.calls ++ [.read now.link.inner.device.arrivals.head.result] } }

theorem readPdu_ended (now : Endpoint (Observed (Bench TimedPeer))) :
    (readPdu patience now).ended =
      some (now.link.inner.device.arrivals.head.result, now.afterRead) := by
  unfold readPdu
  rw [on_ended]
  change (Outcome.ended (Observed.call _ (Action.ofStep TimedPeer.read) _ _)).map _ = _
  rw [Observed.call_ended]
  cases arrived : now.link.inner.device.arrivals.head.result with
  | ok pdu => simp [Action.ofStep, TimedPeer.read, arrived, ended, afterRead, linkPart]
  | error error => simp [Action.ofStep, TimedPeer.read, arrived, ended, afterRead, linkPart]

/-- A round that is begun in time takes the read of its number. -/
theorem read_of_standing {writes : Nat}
    (standing : Standing deadline round writes first.link.inner now.link.inner) :
    ∃ after, (readPdu patience (now.looked deadline)).ended =
        some ((first.link.inner.device.arrivals.get round).result, after) ∧
      Made [.read (first.link.inner.device.arrivals.get round).result] now after ∧
      Standing deadline (round + 1) writes first.link.inner after.link.inner := by
  have device : (now.looked deadline).link.inner.device = now.link.inner.device := by
    obtain ⟨_ | limit⟩ := deadline <;> rfl
  have arrival : (now.looked deadline).link.inner.device.arrivals.head =
      first.link.inner.device.arrivals.get round := by
    rw [device, standing.arrivals, Stream'.head_drop]
  have reads := readPdu_ended patience (now.looked deadline)
  rw [arrival] at reads
  refine ⟨_, reads, ?_, ?_⟩
  · rw [← arrival]
    exact made_looked.trans ⟨rfl, rfl, rfl⟩
  · constructor
    · change (now.looked deadline).link.inner.device.arrivals.tail = _
      rw [device, standing.arrivals, Stream'.tail_drop']
    · change (now.looked deadline).link.inner.device.answers = _
      rw [device, standing.answers]
    · intro limited
      change (now.looked deadline).link.inner.clockNs +
        (now.looked deadline).link.inner.device.arrivals.head.takesNs = _
      rw [arrival, Bench.roundNs, ← standing.clock limited, ← standing.tick]
      obtain ⟨_ | limit⟩ := deadline
      · exact absurd rfl limited
      · rfl
    · rw [← standing.tick]
      obtain ⟨_ | limit⟩ := deadline <;> rfl

/-- The state after the next SYMM, whatever becomes of it. -/
def afterSymm (now : Endpoint (Observed (Bench TimedPeer))) :
    Endpoint (Observed (Bench TimedPeer)) :=
  let noted := Host.record (.pduSent PduHeader.symm.encode []) now
  { noted with link := {
      inner := { noted.link.inner with device := now.link.inner.device.write.2 }
      calls := now.link.calls ++
        [.written [0x00, 0x00] [] now.link.inner.device.answers.head] } }

theorem passTurn_ended (now : Endpoint (Observed (Bench TimedPeer))) :
    (passTurn patience now).ended =
      some (now.link.inner.device.answers.head, now.afterSymm) := by
  change ((_ : Action _ Unit).on linkPart patience (Host.record _ now)).ended = _
  rw [on_ended]
  change (Outcome.ended (Observed.call _ (Bench.step TimedPeer.write) _ _)).map _ = _
  rw [Observed.call_ended, Bench.step_ended]
  rfl

/-- A SYMM that was read is answered if it may be, and the next round follows. -/
theorem awaitFrom_of_symm {pdu : Bytes} {writes : Nat} (rounds : Nat) (unwanted : .symm ∉ wanted)
    (standing : Standing deadline round writes first.link.inner now.link.inner)
    (early : ¬deadline.PassedBy (first.link.inner.roundNs round))
    (arrived : (first.link.inner.device.arrivals.get round).result = .ok pdu)
    (symm : IsSymm pdu) :
    ∃ read, awaitFrom wanted deadline (rounds + 1) round patience now =
        (if now.settings.maxSymm.any fun limit => decide (limit < round + 1) then
          Host.note (.symmLimit round) >>= fun _ => Action.fail .timeout
        else passTurn >>= fun _ => awaitFrom wanted deadline rounds (round + 1)) patience read ∧
      Made [.read (.ok pdu)] now read ∧
      Standing deadline (round + 1) writes first.link.inner read.link.inner := by
  obtain ⟨read, reads, made, stands⟩ := read_of_standing patience standing
  rw [arrived] at reads made
  have noted : Made [.read (.ok pdu)] now (Host.record (.pduReceived .symm pdu) read) :=
    made.noted _
  refine ⟨_, ?_, noted, stands.arrivals, stands.answers, stands.clock, stands.tick⟩
  rw [awaitFrom, bind_of_done (expired_of_early patience (standing.passedBy_iff.not.mpr early)),
    if_neg Bool.false_ne_true, bind_of_done (ended_eq_ok_iff.mp reads),
    show PduHeader.typeOf pdu = _ from symm, lift_ok_bind, Action.note_bind, if_neg unwanted,
    if_neg (by simp), get_bind, noted.settings]

theorem not_exceeded_of_within {limit? : Option Nat}
    (within : ∀ limit, limit? = some limit → round + 1 ≤ limit) :
    ¬(limit?.any fun limit => decide (limit < round + 1)) = true := by
  rw [Option.any_eq_true]
  rintro ⟨limit, capped, beyond⟩
  exact absurd (within limit capped) (Nat.not_le_of_gt (of_decide_eq_true beyond))

/-- A round that ends the wait ends it as it says. -/
theorem awaitFrom_of_stopsIn (rounds : Nat) (unwanted : .symm ∉ wanted)
    (standing : Standing deadline round round first.link.inner now.link.inner)
    (stops : StopsIn wanted now.settings.maxSymm deadline first.link.inner round calls result) :
    (awaitFrom wanted deadline (rounds + 1) round patience now).Ends
      fun found after => found = result ∧ Made calls now after := by
  cases stops with
  | expired late =>
    rw [awaitFrom, bind_of_done (expired_of_late patience (standing.passedBy_iff.mpr late))]
    exact ⟨rfl, made_looked.noted _⟩
  | read early decides =>
    obtain ⟨read, reads, made, -⟩ := read_of_standing patience standing
    have begun := expired_of_early patience (standing.passedBy_iff.not.mpr early)
    generalize arrived : (first.link.inner.device.arrivals.get round).result = arrival at *
    generalize answered : first.link.inner.device.answers.get round = answer at *
    cases decides with
    | unread error =>
      rw [awaitFrom, bind_of_done begun, if_neg Bool.false_ne_true,
        bind_of_failed (ended_eq_error_iff.mp reads)]
      exact ⟨rfl, made⟩
    | short short =>
      rw [awaitFrom, bind_of_done begun, if_neg Bool.false_ne_true,
        bind_of_done (ended_eq_ok_iff.mp reads), PduHeader.typeOf_of_short short]
      exact ⟨rfl, made⟩
    | taken typed member =>
      rw [awaitFrom, bind_of_done begun, if_neg Bool.false_ne_true,
        bind_of_done (ended_eq_ok_iff.mp reads), typed, lift_ok_bind, Action.note_bind,
        if_pos member]
      exact ⟨rfl, made.noted _⟩
    | unexpected typed other different =>
      rw [awaitFrom, bind_of_done begun, if_neg Bool.false_ne_true,
        bind_of_done (ended_eq_ok_iff.mp reads), typed, lift_ok_bind, Action.note_bind,
        if_neg other, if_pos different]
      exact ⟨rfl, made.noted _⟩
    | exhausted symm capped beyond =>
      obtain ⟨read, rest, made, -⟩ :=
        awaitFrom_of_symm patience rounds unwanted standing early arrived symm
      rw [rest, capped, Option.any_some, if_pos (decide_eq_true beyond)]
      exact ⟨rfl, made.noted _⟩
    | unanswered symm within error =>
      obtain ⟨read, rest, made, stands⟩ :=
        awaitFrom_of_symm patience rounds unwanted standing early arrived symm
      have head : read.link.inner.device.answers.head = .error error := by
        rw [stands.answers, Stream'.head_drop, answered]
      have sent := passTurn_ended patience read
      rw [head] at sent
      rw [rest, if_neg (not_exceeded_of_within within),
        bind_of_failed (ended_eq_error_iff.mp sent)]
      refine ⟨rfl, made.trans ⟨?_, rfl, rfl⟩⟩
      rw [← head]
      rfl

/-- A round that does not end the wait is followed by one more. -/
theorem awaitFrom_of_absorbsIn (rounds : Nat) (unwanted : .symm ∉ wanted)
    (standing : Standing deadline round round first.link.inner now.link.inner)
    (absorbs : AbsorbsIn now.settings.maxSymm deadline first.link.inner round) :
    ∃ next, awaitFrom wanted deadline (rounds + 1) round patience now =
        awaitFrom wanted deadline rounds (round + 1) patience next ∧
      Made [.read (first.link.inner.device.arrivals.get round).result,
        .written [0x00, 0x00] [] (.ok ())] now next ∧
      Standing deadline (round + 1) (round + 1) first.link.inner next.link.inner := by
  obtain ⟨early, ⟨pdu, arrived, symm⟩, within, answered⟩ := absorbs
  obtain ⟨read, rest, made, stands⟩ :=
    awaitFrom_of_symm patience rounds unwanted standing early arrived symm
  have head : read.link.inner.device.answers.head = .ok () := by
    rw [stands.answers, Stream'.head_drop, answered]
  have sent := passTurn_ended patience read
  rw [head] at sent
  refine ⟨read.afterSymm, ?_, ?_, stands.arrivals, ?_, stands.clock, stands.tick⟩
  · rw [rest, if_neg (not_exceeded_of_within within), bind_of_done (ended_eq_ok_iff.mp sent)]
  · rw [arrived]
    refine made.trans ⟨?_, rfl, rfl⟩
    rw [← head]
    rfl
  · change read.link.inner.device.answers.tail = _
    rw [stands.answers, Stream'.tail_drop']

/-- Induction on the rounds, each of which is one step. -/
theorem awaitFrom_absorbs (unwanted : .symm ∉ wanted) (rounds left : Nat)
    (absorbs : ∀ round < rounds,
      AbsorbsIn first.settings.maxSymm deadline first.link.inner round) :
    ∃ next, awaitFrom wanted deadline (rounds + left) 0 patience first =
        awaitFrom wanted deadline left rounds patience next ∧
      Made (first.link.inner.absorbedCalls rounds) first next ∧
      Standing deadline rounds rounds first.link.inner next.link.inner := by
  induction rounds generalizing left with
  | zero => exact ⟨first, by rw [Nat.zero_add], .nothing, rfl, rfl, fun _ => rfl, rfl⟩
  | succ rounds ih =>
    obtain ⟨now, begins, made, standing⟩ :=
      ih (left + 1) fun round less => absorbs round (Nat.lt_succ_of_lt less)
    have last := absorbs rounds (Nat.lt_succ_self rounds)
    rw [← made.settings] at last
    obtain ⟨next, continues, more, stands⟩ :=
      awaitFrom_of_absorbsIn patience left unwanted standing last
    refine ⟨next, ?_, made.trans more, stands⟩
    rw [← continues, ← begins, Nat.succ_add_eq_add_succ]

/-- A wait stops in the first round that ends it, with the result and the calls of that round behind
one SYMM for each SYMM before, and leaves the fields of the endpoint alone. As long as no round ends
it, it goes on. -/
theorem await_stops_in_first_round (unwanted : .symm ∉ wanted) (deadline : Deadline)
    (patience : Nat) (first : Endpoint (Observed (Bench TimedPeer))) :
    (∀ round calls result,
      StopsIn wanted first.settings.maxSymm deadline first.link.inner round calls result →
      (∀ earlier < round, ∀ calls result,
        ¬StopsIn wanted first.settings.maxSymm deadline first.link.inner earlier calls result) →
      round < patience →
      ∃ after, (await wanted deadline patience first).ended = some (result, after) ∧
        after.link.calls = first.link.calls ++ first.link.inner.absorbedCalls round ++ calls ∧
        (∀ earlier < round, ∃ pdu,
          (first.link.inner.device.arrivals.get earlier).result = .ok pdu ∧ IsSymm pdu) ∧
        after.connection = first.connection ∧ after.settings = first.settings) ∧
    ((∀ round < patience, ∀ calls result,
        ¬StopsIn wanted first.settings.maxSymm deadline first.link.inner round calls result) →
      await wanted deadline patience first = .waiting) := by
  have waits : await wanted deadline patience first =
      awaitFrom wanted deadline patience 0 patience first := rfl
  rw [waits]
  constructor
  · intro round calls result stops before enough
    have absorbs : ∀ earlier < round,
        AbsorbsIn first.settings.maxSymm deadline first.link.inner earlier :=
      fun earlier less => (absorbsIn_iff unwanted).mpr (before earlier less)
    obtain ⟨left, split⟩ : ∃ left, patience = round + (left + 1) :=
      ⟨patience - round - 1, by omega⟩
    obtain ⟨now, begins, made, standing⟩ :=
      awaitFrom_absorbs patience unwanted round (left + 1) absorbs
    rw [← made.settings] at stops
    have ends := awaitFrom_of_stopsIn patience left unwanted standing stops
    rw [← begins, ← split] at ends
    obtain ⟨found, after, ended, rfl, last⟩ := (ends_iff _ _).mp ends
    have whole := made.trans last
    refine ⟨after, ended, ?_, fun earlier less => (absorbs earlier less).symm, whole.connection,
      whole.settings⟩
    rw [whole.calls, List.append_assoc]
  · intro never
    obtain ⟨now, begins, -⟩ := awaitFrom_absorbs patience unwanted patience 0
      fun round less => (absorbsIn_iff unwanted).mpr (never round less)
    rw [Nat.add_zero] at begins
    rw [begins]
    rfl

/-- A peer that sends a SYMM and then nothing but CCs, which take longer. One SYMM may be
answered. -/
def slowPeer : Endpoint (Observed (Bench TimedPeer)) where
  link := { inner := { device := {
    arrivals := .cons ⟨5, .ok [0x00, 0x00]⟩ (.const ⟨100, .ok [0x81, 0x84]⟩)
    answers := .const (.ok ()) } } }
  settings := { maxSymm := some 1 }

/-- The second read is begun in time and lasts longer than that. -/
theorem await_stops_with_pdu_past_deadline :
    .symm ∉ [PduType.cc] ∧
      ∃ after, (await [.cc] ⟨some 10⟩ 2 slowPeer).ended = some (.ok [0x81, 0x84], after) ∧
        after.link.calls = [.read (.ok [0x00, 0x00]), .written [0x00, 0x00] [] (.ok ()),
          .read (.ok [0x81, 0x84])] ∧
        after.connection = slowPeer.connection ∧ after.settings = slowPeer.settings := by
  have unwanted : .symm ∉ [PduType.cc] := by decide
  have absorbs : AbsorbsIn (some 1) ⟨some 10⟩ slowPeer.link.inner 0 := by
    refine ⟨?_, ⟨_, rfl, rfl⟩, ?_, rfl⟩
    · rintro ⟨limit, ⟨⟩, reached⟩
      exact absurd reached (by decide)
    · rintro limit ⟨⟩
      exact Nat.le_refl 1
  have stops : StopsIn [.cc] (some 1) ⟨some 10⟩ slowPeer.link.inner 1 [.read (.ok [0x81, 0x84])]
      (.ok [0x81, 0x84]) := by
    refine .read ?_ (.taken rfl (List.mem_singleton_self _))
    rintro ⟨limit, ⟨⟩, reached⟩
    exact absurd reached (by decide)
  have before : ∀ earlier < 1, ∀ calls result,
      ¬StopsIn [.cc] (some 1) ⟨some 10⟩ slowPeer.link.inner earlier calls result := by
    intro earlier less
    obtain rfl : earlier = 0 := Nat.lt_one_iff.mp less
    exact (absorbsIn_iff unwanted).mp absorbs
  obtain ⟨after, ended, calls, -, connection, settings⟩ :=
    (await_stops_in_first_round unwanted ⟨some 10⟩ 2 slowPeer).1 1 _ _ stops before (by decide)
  exact ⟨unwanted, after, ended, calls, connection, settings⟩

end Endpoint

end NfcLink
