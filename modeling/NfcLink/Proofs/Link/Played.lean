import NfcLink.Proofs.Llcp.Traffic
import NfcLink.Sim.Peer

/-!
# What a script was played for

An observer of a scripted peer sees every call that the script answered. From the calls
alone it is known what of the script is left and what was written.
-/
namespace NfcLink

open NfcLink.Action Outcome

theorem Bench.step_ended {δ α : Type} (act : δ → Except Error α × δ) (patience : Nat)
    (bench : Bench δ) :
    (Bench.step act patience bench).ended =
      some ((act bench.device).1, { bench with device := (act bench.device).2 }) := by
  simp only [Bench.step, Action.ofStep]
  cases act bench.device with
  | mk answer device => cases answer <;> rfl

/-- An observed step of the device alone. -/
theorem Observed.call_step {δ α : Type} {seen : Except Error α → LinkCall}
    {act : δ → Except Error α × δ} {patience : Nat} {observed : Observed (Bench δ)} :
    (Observed.call seen (Bench.step act) patience observed).Ends fun result after =>
      act observed.inner.device = (result, after.inner.device) ∧
        after = ⟨{ observed.inner with device := after.inner.device },
          observed.calls ++ [seen result]⟩ := by
  rw [ends_iff, Observed.call_ended, Bench.step_ended]
  exact ⟨_, _, rfl, rfl, rfl⟩

/-- The frames that the calls have sent. -/
def sentIn : List LinkCall → List Bytes
  | [] => []
  | .written header body (.ok ()) :: later => (header ++ body) :: sentIn later
  | _ :: later => sentIn later

theorem sentIn_append (earlier later : List LinkCall) :
    sentIn (earlier ++ later) = sentIn earlier ++ sentIn later := by
  induction earlier using sentIn.induct with
  | case1 => rfl
  | case2 header body rest ih => simp only [List.cons_append, sentIn, ih]
  | case3 call rest other ih => simp only [List.cons_append, sentIn, ih]

def LinkCall.succeeds : LinkCall → Bool
  | .activated _ result => result.isOk
  | .read result => result.isOk
  | .written _ _ result => result.isOk

/-- How a link answers calls that has these frames to come and does not fail, except that it times
out when no frame is left. -/
inductive Served : List Bytes → List LinkCall → List Bytes → Prop where
  | still (toCome : List Bytes) : Served toCome [] toCome
  | activated {toCome left : List Bytes} {calls : List LinkCall} (timeoutMs : Nat)
      (rest : Served toCome calls left) :
    Served toCome (.activated timeoutMs (.ok ()) :: calls) left
  | read {toCome left : List Bytes} {calls : List LinkCall} (pdu : Bytes)
      (rest : Served toCome calls left) : Served (pdu :: toCome) (.read (.ok pdu) :: calls) left
  | dry {left : List Bytes} {calls : List LinkCall} (rest : Served [] calls left) :
    Served [] (.read (.error .timeout) :: calls) left
  | written {toCome left : List Bytes} {calls : List LinkCall} (header body : Bytes)
      (rest : Served toCome calls left) :
    Served toCome (.written header body (.ok ()) :: calls) left

namespace Served

variable {toCome left : List Bytes} {calls earlier later : List LinkCall}

theorem heard (served : Served toCome calls left) : toCome = heardIn calls ++ left := by
  induction served with
  | still => rfl
  | activated _ _ ih | dry _ ih | written _ _ _ ih => exact ih
  | read pdu _ ih => exact congrArg (pdu :: ·) ih

/-- As long as frames are left no call fails. -/
theorem succeed (served : Served toCome calls left) (unread : left ≠ []) :
    ∀ call ∈ calls, call.succeeds = true := by
  induction served with
  | still => exact List.forall_mem_nil _
  | activated _ _ ih | read _ _ ih | written _ _ _ ih =>
    exact List.forall_mem_cons.mpr ⟨rfl, ih unread⟩
  | dry rest =>
    obtain ⟨-, none⟩ := List.append_eq_nil_iff.mp rest.heard.symm
    exact absurd none unread

theorem read_inv {pdu : Bytes} {result : Except Error Bytes}
    (served : Served (pdu :: toCome) (.read result :: calls) left) :
    result = .ok pdu ∧ Served toCome calls left := by
  cases served with
  | read _ rest => exact ⟨rfl, rest⟩

theorem written_inv {header body : Bytes} {result : Except Error Unit}
    (served : Served toCome (.written header body result :: calls) left) :
    result = .ok () ∧ Served toCome calls left := by
  cases served with
  | written _ _ rest => exact ⟨rfl, rest⟩

theorem nothing (served : Served toCome [] left) : left = toCome := by
  cases served with
  | still => rfl

theorem split (served : Served toCome (earlier ++ later) left) :
    ∃ middle, Served toCome earlier middle ∧ Served middle later left := by
  induction earlier generalizing toCome with
  | nil => exact ⟨toCome, .still toCome, served⟩
  | cons call earlier ih =>
    cases served with
    | activated timeoutMs rest =>
      obtain ⟨middle, start, rest⟩ := ih rest
      exact ⟨middle, .activated timeoutMs start, rest⟩
    | read pdu rest =>
      obtain ⟨middle, start, rest⟩ := ih rest
      exact ⟨middle, .read pdu start, rest⟩
    | dry rest =>
      obtain ⟨middle, start, rest⟩ := ih rest
      exact ⟨middle, .dry start, rest⟩
    | written header body rest =>
      obtain ⟨middle, start, rest⟩ := ih rest
      exact ⟨middle, .written header body start, rest⟩

/-- A write at the end succeeds and takes no frame. -/
theorem closing {header body : Bytes} {result : Except Error Unit}
    (served : Served toCome (calls ++ [.written header body result]) left) :
    result = .ok () ∧ Served toCome calls left := by
  obtain ⟨middle, start, last⟩ := served.split
  obtain ⟨succeeds, ended⟩ := last.written_inv
  rw [ended.nothing]
  exact ⟨succeeds, start⟩

end Served

namespace PeerScript

/-- The script answered these calls, and this is what it has come to. -/
inductive Played : PeerScript → List LinkCall → PeerScript → Prop where
  | still (script : PeerScript) : Played script [] script
  | activated {before between after : PeerScript} {calls : List LinkCall} {timeoutMs : Nat}
      {result : Except Error Unit} (does : before.activate timeoutMs = (result, between))
      (rest : Played between calls after) :
    Played before (.activated timeoutMs result :: calls) after
  | read {before between after : PeerScript} {calls : List LinkCall}
      {result : Except Error Bytes} (does : before.read = (result, between))
      (rest : Played between calls after) : Played before (.read result :: calls) after
  | written {before between after : PeerScript} {calls : List LinkCall} {header body : Bytes}
      {result : Except Error Unit} (does : before.write header body = (result, between))
      (rest : Played between calls after) :
    Played before (.written header body result :: calls) after

theorem Played.append {before between after : PeerScript} {earlier later : List LinkCall}
    (start : Played before earlier between) (rest : Played between later after) :
    Played before (earlier ++ later) after := by
  induction start with
  | still script => exact rest
  | activated does _ ih => exact .activated does (ih rest)
  | read does _ ih => exact .read does (ih rest)
  | written does _ ih => exact .written does (ih rest)

/-- Frames to come and nothing that fails. -/
structure Serves (toCome : List Bytes) (script : PeerScript) : Prop where
  inbound : script.inbound = toCome.map .ok
  activates : script.activationError = none
  accepts : script.refusedWrites = 0

section Serves

variable {script between : PeerScript} {toCome : List Bytes}

theorem Serves.activate {timeoutMs : Nat} {result : Except Error Unit}
    (serves : script.Serves toCome)
    (does : script.activate timeoutMs = (result, between)) :
    result = .ok () ∧ between.Serves toCome ∧ between.written = script.written := by
  simp only [PeerScript.activate, serves.activates] at does
  cases does
  exact ⟨rfl, ⟨serves.inbound, rfl, serves.accepts⟩, rfl⟩

theorem Serves.read_cons {pdu : Bytes} {later : List Bytes} {result : Except Error Bytes}
    (serves : script.Serves (pdu :: later)) (does : script.read = (result, between)) :
    result = .ok pdu ∧ between.Serves later ∧ between.written = script.written := by
  simp only [PeerScript.read, serves.inbound, List.map_cons] at does
  cases does
  exact ⟨rfl, ⟨rfl, serves.activates, serves.accepts⟩, rfl⟩

theorem Serves.read_nil {result : Except Error Bytes} (serves : script.Serves [])
    (does : script.read = (result, between)) : result = .error .timeout ∧ between = script := by
  simp only [PeerScript.read, serves.inbound, List.map_nil] at does
  cases does
  exact ⟨rfl, rfl⟩

theorem Serves.write {header body : Bytes} {result : Except Error Unit}
    (serves : script.Serves toCome) (does : script.write header body = (result, between)) :
    result = .ok () ∧ between.Serves toCome ∧
      between.written = script.written ++ [header ++ body] := by
  simp only [PeerScript.write, serves.accepts] at does
  cases does
  exact ⟨rfl, ⟨serves.inbound, serves.activates, rfl⟩, rfl⟩

end Serves

theorem Played.served {before after : PeerScript} {calls : List LinkCall} {toCome : List Bytes}
    (played : Played before calls after) (serves : before.Serves toCome) :
    ∃ left, Served toCome calls left ∧ after.Serves left ∧
      after.written = before.written ++ sentIn calls := by
  -- One frame of the script is used up by every read, until there is none left.
  induction played generalizing toCome with
  | still script => exact ⟨toCome, .still toCome, serves, (List.append_nil _).symm⟩
  | activated does rest ih =>
    obtain ⟨rfl, standing, written⟩ := serves.activate does
    obtain ⟨left, served, ends, wrote⟩ := ih standing
    exact ⟨left, .activated _ served, ends, by rw [wrote, written]; rfl⟩
  | read does rest ih =>
    cases toCome with
    | nil =>
      obtain ⟨rfl, rfl⟩ := serves.read_nil does
      obtain ⟨left, served, ends, wrote⟩ := ih serves
      exact ⟨left, .dry served, ends, wrote⟩
    | cons pdu later =>
      obtain ⟨rfl, standing, written⟩ := serves.read_cons does
      obtain ⟨left, served, ends, wrote⟩ := ih standing
      exact ⟨left, .read pdu served, ends, by rw [wrote, written]; rfl⟩
  | written does rest ih =>
    obtain ⟨rfl, standing, written⟩ := serves.write does
    obtain ⟨left, served, ends, wrote⟩ := ih standing
    refine ⟨left, .written _ _ served, ends, ?_⟩
    rw [wrote, written, List.append_assoc]
    rfl

/-- A peer that sends these frames, on a clock like this. -/
def sending (frames : List Bytes) (clockNs tickNs : Nat) : Observed (Bench PeerScript) :=
  { inner := { device := { inbound := frames.map .ok }, clockNs, tickNs } }

/-- The observer has seen the calls, and the script has answered them. -/
def recording : Recording (Observed (Bench PeerScript)) where
  spans before calls after := after.calls = before.calls ++ calls ∧
    Played before.inner.device calls after.inner.device
  still state := ⟨(List.append_nil _).symm, .still _⟩
  append := by
    rintro before between after earlier later ⟨seen, played⟩ ⟨further, continues⟩
    exact ⟨by rw [further, seen, List.append_assoc], played.append continues⟩
  noted _ state := ⟨(List.append_nil _).symm, .still _⟩
  looked state := ⟨(List.append_nil _).symm, .still _⟩
  activated _ _ _ := Observed.call_step.ifEnds.mono fun result after ⟨does, same⟩ =>
    ⟨congrArg Observed.calls same, .activated does (.still _)⟩
  read _ _ := Observed.call_step.ifEnds.mono fun result after ⟨does, same⟩ =>
    ⟨congrArg Observed.calls same, .read does (.still _)⟩
  written _ _ _ _ := Observed.call_step.ifEnds.mono fun result after ⟨does, same⟩ =>
    ⟨congrArg Observed.calls same, .written does (.still _)⟩

end PeerScript

end NfcLink
