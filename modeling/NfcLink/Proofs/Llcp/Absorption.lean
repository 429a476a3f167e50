import NfcLink.Proofs.Link.Played
import NfcLink.Proofs.Llcp.Lifecycle

/-!
# SYMM makes no difference

A peer may send SYMM whenever it has nothing else to say. If the operations of a run all
succeed, they succeed on every script that has more SYMMs in it, with the same results and the
same PDUs sent, unless a wait runs out of time or of the SYMMs that it may answer. So an
operation may take a SYMM that was meant for the next one: it finds another one there, or
does not need one.
-/
namespace NfcLink

open NfcLink.Action Outcome

/-- The same frames, and SYMMs anywhere between them. -/
inductive Inserted : List Bytes → List Bytes → Prop where
  | done : Inserted [] []
  | symm {frames script : List Bytes} {turn : Bytes} (symm : IsSymm turn)
      (rest : Inserted frames script) : Inserted frames (turn :: script)
  | next {frames script : List Bytes} (frame : Bytes) (rest : Inserted frames script) :
    Inserted (frame :: frames) (frame :: script)

namespace Inserted

variable {frames script : List Bytes} {frame : Bytes}

/-- The next frame comes, behind SYMMs that were inserted. -/
theorem split (inserted : Inserted (frame :: frames) script) :
    ∃ symms later, script = symms ++ frame :: later ∧ (∀ symm ∈ symms, IsSymm symm) ∧
      Inserted frames later := by
  generalize whole : frame :: frames = all at inserted
  -- The index is generalized, because a SYMM in front does not change the frames.
  induction inserted with
  | done => cases whole
  | @symm _ _ turn symm rest ih =>
    obtain ⟨symms, later, rfl, absorbed, rest⟩ := ih whole
    refine ⟨turn :: symms, later, rfl, ?_, rest⟩
    intro other member
    rcases List.mem_cons.mp member with rfl | member
    · exact symm
    · exact absorbed other member
  | next other rest =>
    cases whole
    exact ⟨[], _, rfl, nofun, rest⟩

theorem prepend {symms : List Bytes} (absorbed : ∀ symm ∈ symms, IsSymm symm)
    (inserted : Inserted frames script) : Inserted frames (symms ++ script) := by
  induction symms with
  | nil => exact inserted
  | cons turn symms ih =>
    exact .symm (absorbed turn List.mem_cons_self)
      (ih fun symm member => absorbed symm (List.mem_cons_of_mem turn member))

/-- If the frames begin with a SYMM, so does the script, and what follows on both sides is related
again. -/
theorem turn (symm : IsSymm frame) (inserted : Inserted (frame :: frames) script) :
    ∃ first later, script = first :: later ∧ IsSymm first ∧ Inserted frames later := by
  obtain ⟨symms, later, rfl, absorbed, rest⟩ := inserted.split
  cases symms with
  | nil => exact ⟨frame, later, rfl, symm, rest⟩
  | cons first symms =>
    -- An inserted SYMM is taken first; the frame itself then counts as one that was inserted.
    refine ⟨first, symms ++ frame :: later, rfl, absorbed first List.mem_cons_self, ?_⟩
    have rest : Inserted frames (frame :: later) := .symm symm rest
    exact rest.prepend fun other member => absorbed other (List.mem_cons_of_mem first member)

/-- The same with SYMMs before the frame already. -/
theorem behind {symms : List Bytes} (absorbed : ∀ symm ∈ symms, IsSymm symm)
    (inserted : Inserted (symms ++ frame :: frames) script) :
    ∃ more later, script = more ++ frame :: later ∧ (∀ symm ∈ more, IsSymm symm) ∧
      Inserted frames later := by
  induction symms generalizing script with
  | nil => exact inserted.split
  | cons symm symms ih =>
    obtain ⟨first, later, rfl, turn, rest⟩ := inserted.turn (absorbed symm List.mem_cons_self)
    obtain ⟨more, later, rfl, others, rest⟩ :=
      ih (fun other member => absorbed other (List.mem_cons_of_mem symm member)) rest
    exact ⟨first :: more, later, rfl, List.forall_mem_cons.mpr ⟨turn, others⟩, rest⟩

end Inserted

/-- The frames that the calls have sent, SYMMs apart. -/
def spokenIn (calls : List LinkCall) : List Bytes := (sentIn calls).filter speaks

theorem spokenIn_append (earlier later : List LinkCall) :
    spokenIn (earlier ++ later) = spokenIn earlier ++ spokenIn later := by
  rw [spokenIn, sentIn_append, List.filter_append]
  rfl

/-- A wait ran out of time or of SYMMs: it timed out, and no call had failed. -/
def Overran {α : Type} (calls : List LinkCall) (result : Except Error α) : Prop :=
  result = .error .timeout ∧ ∀ call ∈ calls, call.succeeds = true

/-- On a script with more SYMMs the same came out, or the wait for it ran out. -/
def SameOrOverran {α : Type} (calls : List LinkCall) (result : Except Error α)
    (left : List Bytes) (others : List LinkCall) (other : Except Error α)
    (otherLeft : List Bytes) : Prop :=
  Overran others other ∨
    (other = result ∧ spokenIn others = spokenIn calls ∧ Inserted left otherLeft)

/-- Behind calls that went the same way, apart from SYMMs. -/
theorem SameOrOverran.behind {α : Type} {calls others earlier otherEarlier : List LinkCall}
    {result other : Except Error α} {left otherLeft : List Bytes}
    (rest : SameOrOverran calls result left others other otherLeft)
    (succeed : ∀ call ∈ otherEarlier, call.succeeds = true)
    (spoken : spokenIn otherEarlier = spokenIn earlier) :
    SameOrOverran (earlier ++ calls) result left (otherEarlier ++ others) other otherLeft := by
  rcases rest with ⟨late, succeeded⟩ | ⟨same, further, inserted⟩
  · refine .inl ⟨late, ?_⟩
    intro call member
    rcases List.mem_append.mp member with member | member
    · exact succeed call member
    · exact succeeded call member
  · refine .inr ⟨same, ?_, inserted⟩
    rw [spokenIn_append, spokenIn_append, spoken, further]

theorem Waits.silent {wanted : List PduType} {calls : List LinkCall} {result : Except Error Bytes}
    (waits : Waits wanted calls result) : spokenIn calls = [] := by
  induction waits with
  | answered symm other rest ih => exact ih
  | _ => rfl

/-- A wait that succeeds has taken SYMMs and the PDU behind them off the script. -/
theorem Waits.took {wanted : List PduType} {calls : List LinkCall} {pdu : Bytes}
    {toCome left : List Bytes} (waits : Waits wanted calls (.ok pdu))
    (served : Served toCome calls left) :
    ∃ symms type, toCome = symms ++ pdu :: left ∧ (∀ symm ∈ symms, IsSymm symm) ∧
      PduHeader.typeOf pdu = .ok type ∧ type ∈ wanted := by
  generalize same : Except.ok pdu = result at waits
  -- The wait and the script are followed round by round: each round takes one frame.
  induction waits generalizing toCome with
  | @taken _ type typed member =>
    cases same
    cases served with
    | read _ rest =>
      cases rest
      exact ⟨[], type, rfl, nofun, typed, member⟩
  | @answered turn _ _ symm other rest ih =>
    cases served with
    | read _ served =>
      cases served with
      | written _ _ served =>
        obtain ⟨symms, type, rfl, absorbed, typed, member⟩ := ih served same
        refine ⟨turn :: symms, type, rfl, ?_, typed, member⟩
        intro other member
        rcases List.mem_cons.mp member with rfl | member
        · exact symm
        · exact absorbed other member
  | _ => cases same

/-- A read finds one of the SYMMs that come first, or what is behind them. -/
theorem Served.finds {symms toCome left : List Bytes} {pdu : Bytes} {calls : List LinkCall}
    {result : Except Error Bytes}
    (served : Served (symms ++ pdu :: toCome) (.read result :: calls) left)
    (absorbed : ∀ symm ∈ symms, IsSymm symm) :
    (result = .ok pdu ∧ Served toCome calls left) ∨
      ∃ turn rest, result = .ok turn ∧ IsSymm turn ∧ (∀ symm ∈ rest, IsSymm symm) ∧
        Served (rest ++ pdu :: toCome) calls left := by
  cases symms with
  | nil => exact .inl served.read_inv
  | cons turn rest =>
    obtain ⟨found, behind⟩ := served.read_inv
    exact .inr ⟨turn, rest, found, absorbed turn List.mem_cons_self,
      fun symm member => absorbed symm (List.mem_cons_of_mem turn member), behind⟩

/-- A wait that has SYMMs before it and then what it waits for. -/
theorem Waits.finds {wanted : List PduType} {calls : List LinkCall} {result : Except Error Bytes}
    {symms toCome left : List Bytes} {pdu : Bytes} {type : PduType}
    (waits : Waits wanted calls result) (served : Served (symms ++ pdu :: toCome) calls left)
    (absorbed : ∀ symm ∈ symms, IsSymm symm) (typed : PduHeader.typeOf pdu = .ok type)
    (member : type ∈ wanted) (unwanted : PduType.symm ∉ wanted) :
    Overran calls result ∨ (result = .ok pdu ∧ left = toCome) := by
  -- No read or write fails here, so the wait ends with the PDU or gives up before it.
  induction waits generalizing symms with
  | expired => exact .inl ⟨rfl, nofun⟩
  | unread error =>
    rcases served.finds absorbed with ⟨impossible, -⟩ | ⟨_, _, impossible, -⟩
    · cases impossible
    · cases impossible
  | untyped untyped =>
    rcases served.finds absorbed with ⟨⟨⟩, -⟩ | ⟨_, _, ⟨⟩, symm, -⟩
    · cases untyped.symm.trans typed
    · cases untyped.symm.trans symm
  | taken found taken =>
    rcases served.finds absorbed with ⟨⟨⟩, rest⟩ | ⟨_, _, ⟨⟩, symm, -⟩
    · exact .inr ⟨rfl, rest.nothing⟩
    · cases found.symm.trans symm
      exact absurd taken unwanted
  | unexpected found other different =>
    rcases served.finds absorbed with ⟨⟨⟩, -⟩ | ⟨_, _, ⟨⟩, symm, -⟩
    · cases found.symm.trans typed
      exact absurd member other
    · cases found.symm.trans symm
      exact absurd rfl different
  | exhausted symm other =>
    exact .inl ⟨rfl, List.forall_mem_cons.mpr ⟨rfl, nofun⟩⟩
  | unanswered symm other error =>
    rcases served.finds absorbed with ⟨-, rest⟩ | ⟨_, _, -, -, -, rest⟩
    · cases rest.written_inv.1
    · cases rest.written_inv.1
  | answered symm other rest ih =>
    rcases served.finds absorbed with ⟨⟨⟩, -⟩ | ⟨_, _, ⟨⟩, -, absorbed, behind⟩
    · cases typed.symm.trans symm
      exact absurd member unwanted
    · rcases ih behind.written_inv.2 absorbed with ⟨rfl, succeed⟩ | found
      · exact .inl ⟨rfl, List.forall_mem_cons.mpr ⟨rfl, List.forall_mem_cons.mpr ⟨rfl, succeed⟩⟩⟩
      · exact .inr found

/-! ### Two runs -/

section TwoRuns

variable {toCome padded left otherLeft : List Bytes} {calls others : List LinkCall}

theorem Waits.absorbs {wanted : List PduType} {pdu : Bytes} {other : Except Error Bytes}
    (waits : Waits wanted calls (.ok pdu)) (served : Served toCome calls left)
    (inserted : Inserted toCome padded) (again : Waits wanted others other)
    (servedAgain : Served padded others otherLeft) (unwanted : PduType.symm ∉ wanted) :
    SameOrOverran calls (.ok pdu) left others other otherLeft := by
  obtain ⟨symms, type, rfl, absorbed, typed, member⟩ := waits.took served
  -- On the other script there are more SYMMs before the same PDU, and the wait takes these too.
  obtain ⟨more, later, rfl, others, rest⟩ := inserted.behind absorbed
  rcases again.finds servedAgain others typed member unwanted with overran | ⟨rfl, rfl⟩
  · exact .inl overran
  · exact .inr ⟨rfl, by rw [again.silent, waits.silent], rest⟩

theorem Hears.absorbs {α : Type} {type : PduType} {make : Bytes → Except Error α} {answer : α}
    {other : Except Error α} (hears : Hears type make calls (.ok answer))
    (served : Served toCome calls left) (inserted : Inserted toCome padded)
    (again : Hears type make others other) (servedAgain : Served padded others otherLeft)
    (different : type ≠ .symm) :
    SameOrOverran calls (.ok answer) left others other otherLeft := by
  have unwanted : PduType.symm ∉ [type] := fun member =>
    different (List.mem_singleton.mp member).symm
  generalize same : Except.ok answer = result at hears
  cases hears with
  | unmet waits => cases same
  | met waits =>
    cases again with
    | unmet missing =>
      rcases waits.absorbs served inserted missing servedAgain unwanted with
        ⟨⟨⟩, succeed⟩ | ⟨impossible, -⟩
      · exact .inl ⟨rfl, succeed⟩
      · cases impossible
    | met found =>
      rcases waits.absorbs served inserted found servedAgain unwanted with
        ⟨impossible, -⟩ | ⟨⟨⟩, spoken, rest⟩
      · cases impossible
      · exact .inr ⟨rfl, spoken, rest⟩

theorem TakesTurn.absorbs {other : Except Error Unit} (turn : TakesTurn calls (.ok ()))
    (served : Served toCome calls left) (inserted : Inserted toCome padded)
    (again : TakesTurn others other) (servedAgain : Served padded others otherLeft) :
    other = .ok () ∧ (∀ call ∈ others, call.succeeds = true) ∧
      spokenIn others = spokenIn calls ∧ Inserted left otherLeft := by
  cases turn with
  | taken symm =>
    cases served with
    | read pdu served =>
      obtain rfl := served.nothing
      obtain ⟨first, later, rfl, isSymm, rest⟩ := inserted.turn symm
      cases again with
      | unread error => cases servedAgain.read_inv.1
      | untyped untyped =>
        obtain ⟨⟨⟩, -⟩ := servedAgain.read_inv
        cases untyped.symm.trans isSymm
      | taken other =>
        obtain ⟨⟨⟩, ended⟩ := servedAgain.read_inv
        rw [ended.nothing]
        exact ⟨rfl, List.forall_mem_cons.mpr ⟨rfl, nofun⟩, rfl, rest⟩
      | other typed different =>
        obtain ⟨⟨⟩, -⟩ := servedAgain.read_inv
        cases typed.symm.trans isSymm
        exact absurd rfl different

section Asking

variable {header body : Bytes} {reply : PduType} {answer : Bytes} {other : Except Error Bytes}

theorem Asks.absorbs (asks : Asks header body reply calls (.ok answer))
    (served : Served toCome calls left) (inserted : Inserted toCome padded)
    (again : Asks header body reply others other) (servedAgain : Served padded others otherLeft)
    (different : reply ≠ .symm) :
    SameOrOverran calls (.ok answer) left others other otherLeft := by
  have unwanted : PduType.symm ∉ [reply] := fun member =>
    different (List.mem_singleton.mp member).symm
  cases asks with
  | sent waits =>
    cases again with
    | unsent error => cases servedAgain.written_inv.1
    | sent waitsAgain =>
      have rest := waits.absorbs served.written_inv.2 inserted waitsAgain
        servedAgain.written_inv.2 unwanted
      have sent : ∀ call ∈ [LinkCall.written header body (.ok ())], call.succeeds = true :=
        List.forall_mem_cons.mpr ⟨rfl, nofun⟩
      exact rest.behind sent rfl

theorem AsksInTurn.absorbs (asks : AsksInTurn header body reply calls (.ok answer))
    (served : Served toCome calls left) (inserted : Inserted toCome padded)
    (again : AsksInTurn header body reply others other)
    (servedAgain : Served padded others otherLeft) (different : reply ≠ .symm) :
    SameOrOverran calls (.ok answer) left others other otherLeft := by
  cases asks with
  | turn turn asks =>
    obtain ⟨middle, first, second⟩ := served.split
    cases again with
    | noTurn missing =>
      obtain ⟨impossible, -⟩ := turn.absorbs first inserted missing servedAgain
      cases impossible
    | turn turnAgain asksAgain =>
      obtain ⟨otherMiddle, firstAgain, secondAgain⟩ := servedAgain.split
      obtain ⟨-, succeed, spoken, rest⟩ := turn.absorbs first inserted turnAgain firstAgain
      exact (asks.absorbs second rest asksAgain secondAgain different).behind succeed spoken

theorem AsksAs.absorbs {role : Role} (asks : AsksAs role header body reply calls (.ok answer))
    (served : Served toCome calls left) (inserted : Inserted toCome padded)
    (again : AsksAs role header body reply others other)
    (servedAgain : Served padded others otherLeft) (different : reply ≠ .symm) :
    SameOrOverran calls (.ok answer) left others other otherLeft := by
  cases role with
  | target => exact AsksInTurn.absorbs asks served inserted again servedAgain different
  | initiator => exact Asks.absorbs asks served inserted again servedAgain different

end Asking

/-! ### Operations -/

section Operations

variable {operation : Operation} {before after otherAfter : Connection}
variable {other : Except Error (Option Bytes)}

/-- The same came of the operation, or a wait ran out. -/
def Transparent (calls : List LinkCall) (result : Except Error (Option Bytes)) (after : Connection)
    (left : List Bytes) (others : List LinkCall) (other : Except Error (Option Bytes))
    (otherAfter : Connection) (otherLeft : List Bytes) : Prop :=
  Overran others other ∨ (other = result ∧ otherAfter = after ∧
    spokenIn others = spokenIn calls ∧ Inserted left otherLeft)

/-- What is asked for and answers nothing, as the end of an operation. -/
theorem SameOrOverran.ends {α : Type} {answer : α} {other : Except Error α}
    (same : SameOrOverran calls (.ok answer) left others other otherLeft)
    (agrees : other = .ok answer → otherAfter = after) :
    Transparent calls (.ok none) after left others (other.map fun _ => none) otherAfter
      otherLeft := by
  rcases same with ⟨rfl, succeed⟩ | ⟨rfl, spoken, rest⟩
  · exact .inl ⟨rfl, succeed⟩
  · exact .inr ⟨rfl, agrees rfl, spoken, rest⟩

/-- Nothing came, so it is the wait that ran out. -/
theorem SameOrOverran.fails {α β : Type} {answer : α} {error : Error}
    (same : SameOrOverran calls (.ok answer) left others (.error error) otherLeft) :
    Overran others (.error error : Except Error β) := by
  rcases same with ⟨late, succeed⟩ | ⟨impossible, -⟩
  · cases late
    exact ⟨rfl, succeed⟩
  · cases impossible

/-- The same came, and one more PDU is sent in return. -/
theorem SameOrOverran.replies {α : Type} {answer found : α} {header body : Bytes}
    (same : SameOrOverran calls (.ok answer) left others (.ok found) otherLeft) :
    found = answer ∧ Inserted left otherLeft ∧
      spokenIn (others ++ [.written header body (.ok ())]) =
        spokenIn (calls ++ [.written header body (.ok ())]) := by
  rcases same with ⟨impossible, -⟩ | ⟨⟨⟩, spoken, rest⟩
  · cases impossible
  · exact ⟨rfl, rest, by rw [spokenIn_append, spokenIn_append, spoken]⟩

theorem Performs.absorbs {result : Except Error (Option Bytes)}
    (performs : Performs operation before calls result after) (succeeds : result.isOk = true)
    (served : Served toCome calls left) (inserted : Inserted toCome padded)
    (again : Performs operation before others other otherAfter)
    (servedAgain : Served padded others otherLeft) :
    Transparent calls result after left others other otherAfter otherLeft := by
  -- The first run succeeds in one of a few ways. The second one goes the same way, unless a wait
  -- runs out on it; the other ways need a call that fails or another phase of the connection.
  cases performs with
  | refused | unheard | unreleased | unconfirmed | unreceived | unacknowledged => cases succeeds
  | activated timeoutMs result =>
    cases served with
    | activated _ served =>
      cases again with
      | refused needed missing => cases needed
      | activated _ result =>
        cases servedAgain with
        | activated _ servedAgain =>
          rw [served.nothing, servedAgain.nothing]
          exact .inr ⟨rfl, rfl, rfl, inserted⟩
  | @proposed _ _ _ result asks =>
    cases result with
    | error error => cases succeeds
    | ok pdu =>
      cases again with
      | refused needed missing => cases needed
      | proposed asksAgain =>
        refine (asks.absorbs served inserted asksAgain servedAgain (by decide)).ends ?_
        rintro rfl
        rfl
  | @released _ _ result connected asks =>
    cases result with
    | error error => cases succeeds
    | ok pdu =>
      cases again with
      | refused needed missing => exact absurd connected missing
      | released _ asksAgain =>
        exact (asks.absorbs served inserted asksAgain servedAgain (by decide)).ends fun _ => rfl
  | accepted hears result =>
    obtain ⟨rfl, heard⟩ := served.closing
    cases again with
    | refused needed missing => cases needed
    | unheard missing =>
      exact .inl (hears.absorbs heard inserted missing servedAgain (by decide)).fails
    | accepted hearsAgain result =>
      obtain ⟨rfl, heardAgain⟩ := servedAgain.closing
      obtain ⟨rfl, rest, spoken⟩ :=
        (hears.absorbs heard inserted hearsAgain heardAgain (by decide)).replies
      exact .inr ⟨rfl, rfl, spoken, rest⟩
  | releaseAccepted connected waits result =>
    obtain ⟨rfl, heard⟩ := served.closing
    cases again with
    | refused needed missing => exact absurd connected missing
    | unreleased _ missing =>
      exact .inl (waits.absorbs heard inserted missing servedAgain (by decide)).fails
    | releaseAccepted _ waitsAgain result =>
      obtain ⟨rfl, heardAgain⟩ := servedAgain.closing
      obtain ⟨rfl, rest, spoken⟩ :=
        (waits.absorbs heard inserted waitsAgain heardAgain (by decide)).replies
      exact .inr ⟨rfl, rfl, spoken, rest⟩
  | confirmed connected asks result =>
    obtain ⟨rfl, heard⟩ := served.closing
    cases again with
    | refused needed missing => exact absurd connected missing
    | unconfirmed _ missing =>
      exact .inl (asks.absorbs heard inserted missing servedAgain (by decide)).fails
    | confirmed _ asksAgain result =>
      obtain ⟨rfl, heardAgain⟩ := servedAgain.closing
      obtain ⟨rfl, rest, spoken⟩ :=
        (asks.absorbs heard inserted asksAgain heardAgain (by decide)).replies
      exact .inr ⟨rfl, rfl, spoken, rest⟩
  | received connected hears =>
    obtain ⟨-, heard⟩ := served.closing
    cases again with
    | refused needed missing => exact absurd connected missing
    | unreceived _ missing =>
      exact .inl (hears.absorbs heard inserted missing servedAgain (by decide)).fails
    | unacknowledged _ hearsAgain error => cases servedAgain.closing.1
    | received _ hearsAgain =>
      obtain ⟨-, heardAgain⟩ := servedAgain.closing
      obtain ⟨⟨⟩, rest, spoken⟩ :=
        (hears.absorbs heard inserted hearsAgain heardAgain (by decide)).replies
      exact .inr ⟨rfl, rfl, spoken, rest⟩

end Operations

end TwoRuns

end NfcLink
