/-
  EpubAccess.Proofs.Reports.Misuse
  ────────────────────────────────
  The errors in the log are the misuses of the host.

  A misuse is reported as an error, and the remark about a container that is
  not there is none, so each command adds its own misuse to the errors and
  nothing else (`Host.run_errors`).  `Host.misuse_reported_once` says it of
  every step of every run, and of the slots emptied at its end.
-/
import Mathlib.Data.List.Induction
import EpubAccess.Host.Session
import EpubAccess.Proofs.Fetches.Closing
import EpubAccess.Proofs.Reports.Commands

namespace EpubAccess

open Stateful Gateway

namespace Host

variable {w w' : Host}

/-! ## §1. Remarks that are errors. -/

/-- The errors in the log, oldest first. -/
def errors (w : Host) : List Event := w.gateway.events.toList.filter Event.isError

/-- **What is reported as misuse is an error.** -/
theorem isError_of_misuse? {c : Command} {e : Event} (h : w.misuse? c = some e) :
    e.isError = true := by
  cases c with
  | container slot op =>
    obtain ⟨⟨id, c⟩, -, hc⟩ := Option.bind_eq_some_iff.mp h
    cases op with
    | close => exact c.handle.isError_of_misuse? hc
    | rawBytes path => exact c.isError_of_misuse? hc
    | info => exact absurd hc (by simp [ContainerOp.misuse?])
  | rawStream slot path dest =>
    obtain ⟨⟨id, c⟩, -, hc⟩ := Option.bind_eq_some_iff.mp h
    exact c.isError_of_misuse? hc
  | package slot op =>
    obtain ⟨p, -, hp⟩ := Option.bind_eq_some_iff.mp h
    cases op with
    | close => exact p.handle.isError_of_misuse? hp
    | property | hasProperty | navigation | probeSize => exact p.isError_of_misuse? hp
    | _ => exact absurd hp (by simp [PackageOp.misuse?])
  | packageStream slot path mode dest =>
    obtain ⟨p, -, hp⟩ := Option.bind_eq_some_iff.mp h
    exact p.isError_of_misuse? hp
  | stream slot op =>
    obtain ⟨s, -, hs⟩ := Option.bind_eq_some_iff.mp h
    exact StreamOp.isError_of_misuse? s hs
  | addPackage container package =>
    obtain ⟨⟨id, c⟩, -, hc⟩ := Option.bind_eq_some_iff.mp h
    obtain ⟨p, -, hp⟩ := Option.bind_eq_some_iff.mp hc
    split at hp
    · exact Event.isError_of_ite rfl hp
    · exact absurd hp (by simp)
  | _ => exact absurd h (by simp [misuse?])

/-- The remark about a container that is not there. -/
theorem eq_of_unreached? {c : Command} {e : Event} (h : w.unreached? c = some e) :
    ∃ path, e = .resourceUnreachable path := by
  cases c with
  | package slot op =>
    cases op with
    | probeSize path =>
      obtain ⟨p, -, hp⟩ := Option.bind_eq_some_iff.mp h
      exact ⟨path, Package.eq_of_unreached? hp⟩
    | _ => exact absurd h (by simp [unreached?])
  | packageStream slot path mode dest =>
    obtain ⟨p, -, hp⟩ := Option.bind_eq_some_iff.mp h
    exact ⟨path, Package.eq_of_unreached? hp⟩
  | fetch slot op =>
    obtain ⟨⟨f, p⟩, -, hf⟩ := Option.bind_eq_some_iff.mp h
    cases op with
    | close => exact absurd hf (by simp [FetchOp.unreached?])
    | _ => exact ⟨f.path, Fetch.eq_of_unreached? hf⟩
  | handOver slot ranged dest =>
    obtain ⟨⟨f, p⟩, -, hf⟩ := Option.bind_eq_some_iff.mp h
    exact ⟨f.path, Fetch.eq_of_unreached? hf⟩
  | _ => exact absurd h (by simp [unreached?])

/-- The remark of a command is an error exactly if it is a misuse. -/
theorem filter_remark (w : Host) (c : Command) :
    ((w.misuse? c).or (w.unreached? c)).toList.filter Event.isError = (w.misuse? c).toList := by
  cases hm : w.misuse? c with
  | some e =>
    show [e].filter Event.isError = [e]
    rw [List.filter_cons_of_pos (isError_of_misuse? hm)]
    rfl
  | none =>
    cases hu : w.unreached? c with
    | none => rfl
    | some e =>
      obtain ⟨path, rfl⟩ := eq_of_unreached? hu
      rfl

/-! ## §2. Errors over a run. -/

/-- One command adds its misuse to the errors, if it is one. -/
theorem run_errors (hw : w.FetchesFresh) (c : Command) (hl : c.isLoose = false) :
    (run c w).2.errors = w.errors ++ (w.misuse? c).toList := by
  unfold errors
  rw [(run_remarks hw c hl).errors, filter_remark]

/-- The events of a step are those that its command added. -/
theorem step_events (hw : w.FetchesFresh) (c : Command) (hl : c.isLoose = false) :
    (step c w).1.events.toList.filter Event.isError = (w.misuse? c).toList := by
  have herrors := run_errors hw c hl
  obtain ⟨new, hlog, -⟩ := run_remarks hw c hl
  have hstep : (step c w).1.events.toList = new := by
    show ((run c w).2.gateway.events.extract w.gateway.events.size
      (run c w).2.gateway.events.size).toList = new
    rw [Array.toList_extract, hlog, ← Array.length_toList, ← Array.length_toList, hlog]
    simp
  unfold errors at herrors
  rw [hlog, List.filter_append] at herrors
  rw [hstep]
  exact List.append_cancel_left herrors

/-- Slots emptied one after the other. -/
theorem clearSlots_notes (ms : List String) :
    ∀ {w : Host}, Consistent w → w.FetchesFresh →
      Notes none w (ms.forM (fun m => discard (clear m)) w).2 := by
  induction ms with
  | nil =>
    intro w _ _
    exact .refl w
  | cons m ms ih =>
    intro w hw hf
    have hlater : Later { Scope.any with slots := fun _ o => o = none } w (clear m w).2 :=
      clear_later m hw rfl
    refine (clear_notes hf m).before (ih hlater.after ?_)
    intro slot f hslot
    rcases hlater.slots slot with hsame | hnone
    · exact hf slot f (hsame.symm.trans hslot)
    · exact absurd (hslot.symm.trans hnone) (by simp)

theorem fetchesFresh_after (cs : List Command) : (after cs fresh).FetchesFresh :=
  fun slot f hf => (fetchesHold_after cs slot f hf).fresh

/-- **Misuse is reported exactly.**  Over every run of commands but those on loose
handles, each step logs the error that its misuse asks for, and no other; the
errors in the log are those, in order; and giving everything up adds none. -/
theorem misuse_reported_once (cs : List Command) (hcs : ∀ c ∈ cs, c.isLoose = false) :
    (∀ before c rest, cs = before ++ c :: rest →
        (step c (after before fresh)).1.events.toList.filter Event.isError
          = ((after before fresh).misuse? c).toList)
      ∧ (after cs fresh).errors = collect (fun c w => (w.misuse? c).toList) cs fresh
      ∧ (clearAll (after cs fresh)).2.errors = (after cs fresh).errors := by
  refine ⟨?_, ?_, ?_⟩
  · rintro before c rest rfl
    exact step_events (fetchesFresh_after before) c (hcs c (by simp))
  · induction cs using List.reverseRecOn with
    | nil => rfl
    | append_singleton cs c ih =>
      have hinit : ∀ d ∈ cs, d.isLoose = false := fun d hd => hcs d (List.mem_append_left _ hd)
      rw [after_concat, run_errors (fetchesFresh_after cs) c (hcs c (by simp)), ih hinit,
        collect_append]
      simp [collect]
  · have hclear := clearSlots_notes (after cs fresh).slots.keys (consistent_after cs)
      (fetchesFresh_after cs)
    exact hclear.remarks.errors.trans (List.append_nil _)

/-- A session that closes what it has, in part twice, and goes on using it: the
stream is read after it was closed, and the package asked after its container
was closed with it. -/
def sampleMisuse : List Command :=
  sampleSession ++ [.stream "stream" .close, .stream "stream" (.read 1),
    .container "container" .close, .container "container" .close, .package "package" .close,
    .package "package" (.probeSize "text"), .drop "container", .drop "package"]

theorem misuse_reported_once_sample :
    (∀ c ∈ sampleMisuse, c.isLoose = false)
      ∧ (after sampleMisuse fresh).errors
        = collect (fun c w => (w.misuse? c).toList) sampleMisuse fresh
      ∧ (after sampleMisuse fresh).errors
        = [.closedStreamUsed .read ⟨0x1003⟩ "text", .releasedTwice .container ⟨0x1001⟩,
          .releasedTwice .package ⟨0x1002⟩, .closedPackageUsed .probeSize ⟨0x1002⟩] :=
  ⟨by decide, (misuse_reported_once sampleMisuse (by decide)).2.1, by decide +kernel⟩

end Host

end EpubAccess
