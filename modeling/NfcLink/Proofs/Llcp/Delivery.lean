import NfcLink.Llcp.Endpoint
import NfcLink.Proofs.Link.Observed
import NfcLink.Proofs.Llcp.Header

/-!
# Links that deliver

A link that hands over the frames of a list one by one and takes whatever is
written to it, and a clock that can be looked at so many times before a deadline is
reached. On such a link every wait of an endpoint has a known outcome.
-/
namespace NfcLink

open NfcLink.Action Outcome

namespace Endpoint

variable {σ α : Type} {endpoint : Endpoint σ} {patience : Nat}

theorem current_bind (next : Connection → Action (Endpoint σ) α) :
    (current >>= next) patience endpoint = next endpoint.connection patience endpoint := rfl

end Endpoint

/-- A link that hands over frames and takes what is written. What it does behind the last frame is
left open. -/
structure Supply (σ : Type) [Host σ] [PeerLink σ] (timeouts : List Nat) where
  /-- The clock can be looked at so many more times before a deadline is reached, these frames are
  to come, and those were written. -/
  holds : (looks : Nat) → (toCome written : List Bytes) → σ → Prop
  /-- Instants that are not reached. -/
  ahead : Nat → Prop
  record : ∀ {looks toCome written state}, holds looks toCome written state → ∀ notice,
    holds looks toCome written (Host.record notice state)
  fewer : ∀ {looks toCome written state}, holds (looks + 1) toCome written state →
    holds looks toCome written state
  look : ∀ {looks toCome written state}, holds (looks + 1) toCome written state →
    holds looks toCome written (Host.now state).2
  early : ∀ {looks toCome written state}, holds (looks + 1) toCome written state →
    ∀ instant, ahead instant → (Host.now state).1 < instant
  distant : ∀ {looks toCome written state}, holds (looks + 1) toCome written state →
    ∀ timeoutMs ∈ timeouts, timeoutMs ≠ 0 →
      ahead ((Host.now state).1 + timeoutMs * nanosecondsPerMillisecond)
  activate : ∀ {looks toCome written state}, holds looks toCome written state →
    ∀ timeoutMs patience,
    ((PeerLink.activate timeoutMs : Action σ Unit) patience state).Answers ()
      (holds looks toCome written)
  read : ∀ {looks frame toCome written state}, holds looks (frame :: toCome) written state →
    ∀ patience,
    ((PeerLink.read : Action σ Bytes) patience state).Answers frame (holds looks toCome written)
  write : ∀ {looks toCome written state}, holds looks toCome written state →
    ∀ header body patience,
    ((PeerLink.write header body : Action σ Unit) patience state).Answers ()
      (holds looks toCome (written ++ [header ++ body]))

structure Delivery (σ : Type) [Host σ] [PeerLink σ] (timeouts : List Nat) extends
    Supply σ timeouts where
  /-- Behind the last frame there is nothing but errors. -/
  exhausted : ∀ {looks written state}, holds looks [] written state → ∀ patience,
    ∃ error after, (PeerLink.read : Action σ Bytes) patience state = .failed error after ∧
      holds looks [] written after

/-- An observer does not stand in the way. -/
def Supply.observed {σ : Type} [Host σ] [PeerLink σ] {timeouts : List Nat}
    (supply : Supply σ timeouts) : Supply (Observed σ) timeouts where
  holds looks toCome written observed := supply.holds looks toCome written observed.inner
  ahead := supply.ahead
  record holds notice := supply.record holds notice
  fewer holds := supply.fewer holds
  look holds := supply.look holds
  early holds := supply.early holds
  distant holds := supply.distant holds
  activate holds timeoutMs patience :=
    Observed.call_answers (supply.activate holds timeoutMs patience)
  read holds patience := Observed.call_answers (supply.read holds patience)
  write holds header body patience :=
    Observed.call_answers (supply.write holds header body patience)

/-- One wait may answer so many SYMMs. -/
def LinkSettings.Allows (settings : LinkSettings) (count : Nat) : Prop :=
  ∀ limit, settings.maxSymm = some limit → count ≤ limit

theorem LinkSettings.allows_of_uncapped {settings : LinkSettings}
    (uncapped : settings.maxSymm = none) (count : Nat) : settings.Allows count :=
  fun _ capped => nomatch uncapped.symm.trans capped

/-- A PDU that only passes the turn on. -/
def IsSymm (pdu : Bytes) : Prop := PduHeader.typeOf pdu = .ok .symm

/-- A written frame that does more than pass the turn on. -/
def speaks (frame : Bytes) : Bool := frame ≠ PduHeader.symm.encode

theorem speaks_of_typeOf {frame : Bytes} {type : PduType}
    (typed : PduHeader.typeOf frame = .ok type) (other : type ≠ .symm) : speaks frame = true := by
  have different : frame ≠ PduHeader.symm.encode := by
    rintro rfl
    cases typed
    exact other rfl
  simp [speaks, different]

/-- Whatever came later, these PDUs were sent. -/
def Delivery.Sent {σ : Type} [Host σ] [PeerLink σ] {timeouts : List Nat}
    (delivery : Delivery σ timeouts) (spoken : List Bytes) (endpoint : Endpoint σ) : Prop :=
  ∃ looks toCome written, delivery.holds looks toCome written endpoint.link ∧
    spoken <+: written.filter speaks

namespace Supply

variable {σ : Type} [Host σ] [PeerLink σ] {timeouts : List Nat} (supply : Supply σ timeouts)

/-- An endpoint over such a link, with these settings and this connection, that has sent these PDUs
besides SYMMs. -/
structure Stands (settings : LinkSettings) (looks : Nat) (toCome spoken : List Bytes)
    (connection : Connection) (endpoint : Endpoint σ) : Prop where
  link : ∃ written, supply.holds looks toCome written endpoint.link ∧
    written.filter speaks = spoken
  settings : endpoint.settings = settings
  connection : endpoint.connection = connection

/-- A deadline that is not reached. -/
def Ahead (deadline : Deadline) : Prop :=
  ∀ instant, deadline.instant? = some instant → supply.ahead instant

variable {supply}
variable {settings : LinkSettings} {looks : Nat} {toCome spoken : List Bytes}
variable {connection : Connection} {endpoint : Endpoint σ} {patience : Nat}

theorem holds_of_le {fewer : Nat} {written : List Bytes} {link : σ}
    (holds : supply.holds looks toCome written link) (le : fewer ≤ looks) :
    supply.holds fewer toCome written link := by
  induction looks with
  | zero =>
    obtain rfl : fewer = 0 := Nat.le_zero.mp le
    exact holds
  | succ looks ih =>
    rcases Nat.lt_or_eq_of_le le with less | rfl
    · exact ih (supply.fewer holds) (Nat.le_of_lt_succ less)
    · exact holds

namespace Stands

theorem record (stands : supply.Stands settings looks toCome spoken connection endpoint)
    (notice : Notice) :
    supply.Stands settings looks toCome spoken connection (Host.record notice endpoint) := by
  obtain ⟨written, holds, filtered⟩ := stands.link
  exact ⟨⟨written, supply.record holds notice, filtered⟩, stands.settings, stands.connection⟩

theorem recordAll (stands : supply.Stands settings looks toCome spoken connection endpoint)
    (notices : List Notice) :
    supply.Stands settings looks toCome spoken connection (Host.recordAll notices endpoint) := by
  induction notices generalizing endpoint with
  | nil => exact stands
  | cons notice later ih => exact ih (stands.record notice)

theorem update (stands : supply.Stands settings looks toCome spoken connection endpoint)
    (change : Connection → Connection) :
    (Endpoint.update change patience endpoint).Answers ()
      (supply.Stands settings looks toCome spoken (change connection)) :=
  ⟨_, rfl, stands.link, stands.settings, congrArg change stands.connection⟩

/-! ### Reads and writes -/

theorem readPdu {frame : Bytes}
    (stands : supply.Stands settings looks (frame :: toCome) spoken connection endpoint) :
    (Endpoint.readPdu patience endpoint).Answers frame
      (supply.Stands settings looks toCome spoken connection) := by
  obtain ⟨written, holds, filtered⟩ := stands.link
  apply answers_on
  apply (supply.read holds patience).mono
  intro link holds
  exact ⟨⟨written, holds, filtered⟩, stands.settings, stands.connection⟩

theorem sendPdu (stands : supply.Stands settings looks toCome spoken connection endpoint)
    (header body : Bytes) (talks : speaks (header ++ body) = true) :
    (Endpoint.sendPdu header body patience endpoint).Answers ()
      (supply.Stands settings looks toCome (spoken ++ [header ++ body]) connection) := by
  obtain ⟨written, holds, rfl⟩ := stands.link
  unfold Endpoint.sendPdu
  rw [note_bind]
  apply answers_on
  apply (supply.write (supply.record holds _) header body patience).mono
  intro link holds
  refine ⟨⟨_, holds, ?_⟩, stands.settings, stands.connection⟩
  rw [List.filter_append, List.filter_cons_of_pos talks]
  rfl

theorem passTurn (stands : supply.Stands settings looks toCome spoken connection endpoint) :
    (Endpoint.passTurn patience endpoint).Answers ()
      (supply.Stands settings looks toCome spoken connection) := by
  obtain ⟨written, holds, rfl⟩ := stands.link
  unfold Endpoint.passTurn Endpoint.sendPdu
  rw [note_bind]
  apply answers_on
  apply (supply.write (supply.record holds _) PduHeader.symm.encode [] patience).mono
  intro link holds
  refine ⟨⟨_, holds, ?_⟩, stands.settings, stands.connection⟩
  -- The SYMM itself is the one frame that is not kept.
  have silent : ¬ speaks (PduHeader.symm.encode ++ []) = true := by decide
  rw [List.filter_append, List.filter_cons_of_neg silent, List.filter_nil, List.append_nil]

theorem sendPlain (stands : supply.Stands settings looks toCome spoken connection endpoint)
    (type : PduType) (body : Bytes) (coded : PduType.ofBits type.bits = type)
    (other : type ≠ .symm) :
    (Endpoint.sendPlain type body patience endpoint).Answers ()
      (supply.Stands settings looks toCome
        (spoken ++ [PduHeader.encode ⟨connection.dsap, type, connection.ssap, none⟩ ++ body])
        connection) := by
  have typed := PduHeader.typeOf_encode ⟨connection.dsap, type, connection.ssap, none⟩ body coded
  unfold Endpoint.sendPlain
  rw [Endpoint.current_bind, stands.connection]
  exact stands.sendPdu _ body (speaks_of_typeOf typed other)

theorem takeTurn {turn : Bytes} (symm : IsSymm turn)
    (stands : supply.Stands settings looks (turn :: toCome) spoken connection endpoint) :
    (Endpoint.takeTurn patience endpoint).Answers ()
      (supply.Stands settings looks toCome spoken connection) := by
  unfold Endpoint.takeTurn
  apply answers_bind stands.readPdu
  intro state stands
  have typed : PduHeader.typeOf turn = .ok .symm := symm
  rw [typed, lift_ok_bind, if_pos rfl]
  exact answers_pure stands

/-! ### Waits -/

theorem fewer {fewer : Nat} (le : fewer ≤ looks)
    (stands : supply.Stands settings looks toCome spoken connection endpoint) :
    supply.Stands settings fewer toCome spoken connection endpoint := by
  obtain ⟨written, holds, filtered⟩ := stands.link
  exact ⟨⟨written, holds_of_le holds le, filtered⟩, stands.settings, stands.connection⟩

theorem look (stands : supply.Stands settings (looks + 1) toCome spoken connection endpoint) :
    supply.Stands settings looks toCome spoken connection (Host.now endpoint).2 := by
  obtain ⟨written, holds, filtered⟩ := stands.link
  exact ⟨⟨written, supply.look holds, filtered⟩, stands.settings, stands.connection⟩

theorem deadline {timeoutMs : Nat} (member : timeoutMs ∈ timeouts)
    (stands : supply.Stands settings (looks + 1) toCome spoken connection endpoint) :
    ∃ deadline, supply.Ahead deadline ∧
      ((Deadline.after timeoutMs : Action (Endpoint σ) Deadline) patience endpoint).Answers
        deadline (supply.Stands settings looks toCome spoken connection) := by
  unfold Deadline.after
  by_cases endless : timeoutMs = 0
  · rw [if_pos endless]
    exact ⟨Deadline.never, fun _ none => (nomatch none), endpoint, rfl,
      stands.fewer (Nat.le_succ looks)⟩
  · rw [if_neg endless]
    obtain ⟨written, holds, -⟩ := stands.link
    refine ⟨⟨some _⟩, ?_, _, rfl, stands.look⟩
    -- The only instant of this deadline is the one just computed.
    rintro instant ⟨rfl⟩
    exact supply.distant holds timeoutMs member endless

theorem expired {deadline : Deadline} (ahead : supply.Ahead deadline)
    (stands : supply.Stands settings (looks + 1) toCome spoken connection endpoint) :
    (deadline.expired patience endpoint).Answers false
      (supply.Stands settings looks toCome spoken connection) := by
  obtain ⟨instant?⟩ := deadline
  cases instant? with
  | none => exact ⟨endpoint, rfl, stands.fewer (Nat.le_succ looks)⟩
  | some instant =>
    obtain ⟨written, holds, -⟩ := stands.link
    have early := supply.early holds instant (ahead instant rfl)
    refine ⟨(Host.now endpoint).2, ?_, stands.look⟩
    have later : decide (instant ≤ (Host.now endpoint).1) = false :=
      decide_eq_false (Nat.not_le_of_gt early)
    rw [← later]
    rfl

theorem awaitFrom {wanted : List PduType} {deadline : Deadline} (ahead : supply.Ahead deadline)
    (unwanted : PduType.symm ∉ wanted) {symms : List Bytes}
    (absorbed : ∀ symm ∈ symms, IsSymm symm) {pdu : Bytes} {type : PduType}
    (typed : PduHeader.typeOf pdu = .ok type) (member : type ∈ wanted) {rounds : Nat}
    (enough : symms.length < rounds) {count : Nat}
    (allowed : settings.Allows (count + symms.length))
    (stands : supply.Stands settings (symms.length + 1 + looks) (symms ++ pdu :: toCome) spoken
      connection endpoint) :
    (Endpoint.awaitFrom wanted deadline rounds count patience endpoint).Answers pdu
      (supply.Stands settings looks toCome spoken connection) := by
  -- Every SYMM in front costs one round, one look at the clock and one SYMM in return.
  induction symms generalizing rounds count endpoint with
  | nil =>
    obtain ⟨left, rfl⟩ := Nat.exists_eq_succ_of_ne_zero (Nat.ne_of_gt enough)
    rw [List.length_nil, Nat.zero_add, Nat.add_comm] at stands
    unfold Endpoint.awaitFrom
    apply answers_bind (stands.expired ahead)
    intro state stands
    rw [if_neg Bool.false_ne_true]
    apply answers_bind stands.readPdu
    intro state stands
    rw [typed, lift_ok_bind, note_bind, if_pos member]
    exact answers_pure (stands.record _)
  | cons symm rest ih =>
    obtain ⟨left, rfl⟩ := Nat.exists_eq_succ_of_ne_zero (Nat.ne_of_gt (Nat.zero_lt_of_lt enough))
    have turn : PduHeader.typeOf symm = .ok .symm := absorbed symm List.mem_cons_self
    have looks_left : (symm :: rest).length + 1 + looks = rest.length + 1 + looks + 1 := by
      simp only [List.length_cons]
      omega
    rw [looks_left] at stands
    unfold Endpoint.awaitFrom
    apply answers_bind (stands.expired ahead)
    intro state stands
    rw [if_neg Bool.false_ne_true]
    apply answers_bind stands.readPdu
    intro state stands
    rw [turn, lift_ok_bind, note_bind, if_neg unwanted, if_neg (by simp), get_bind]
    have counted : count + 1 + rest.length = count + (symm :: rest).length := by
      rw [List.length_cons, Nat.add_assoc, Nat.add_comm 1]
    have under : settings.maxSymm.any (fun limit => decide (limit < count + 1)) = false := by
      cases capped : settings.maxSymm with
      | none => rfl
      | some limit =>
        have least := allowed limit capped
        exact decide_eq_false (by omega)
    rw [(stands.record _).settings]
    simp only [under, Bool.false_eq_true, if_false]
    apply answers_bind (stands.record _).passTurn
    intro state stands
    exact ih (fun symm member => absorbed symm (List.mem_cons_of_mem _ member))
      (Nat.lt_of_succ_lt_succ enough) (counted ▸ allowed) stands

end Stands

end Supply

end NfcLink
