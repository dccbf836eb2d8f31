import Checkup.Proofs.Runner.Ends
import Checkup.Proofs.Runner.Tasks

/-!
The reason of a cancelled scope, as far as the record of a check.

Every scope that a probe can name is cancelled for the cause that the scope of its run is cancelled
for. A probe that checks one of them, or sleeps under one, is told that cause; it raises it anew,
which for a cancellation is the same fault again, and its record shows the text. So it is when the
probe runs by itself, and whatever others do in between.

Main statements: `Fault.IsReason.fresh_eq` (a cancellation that is raised anew is the same),
`Leads.runProbe_eq` (what a probe that runs by itself comes to, it comes to from anywhere on its
way), `runProbe_heeds` and `doomed_step` (a probe that checks its scope is told the cause).
-/

namespace Checkup

open Clock (IsTime)
open Timeline (Follows)

variable {τ σ : Type}

/-! ### Cancellations raised anew -/

namespace Fault

variable {cause : Fault} {kind : Kind}

/-- A cancellation or a deadline, as it is made of a message, of which the empty one stands for the
default. -/
def IsReason (cause : Fault) : Prop :=
  ∃ kind message, (kind = .scopeCancelled ∨ kind = .deadlineExceeded) ∧
    cause = .cancellation kind (.str message)

theorem cancellation_of_text (kind : Kind) {text : String} (said : text ≠ "") :
    cancellation kind (.str text) = because kind text := by
  have truthy : (Value.str text).isTruthy = true := by simp [Value.isTruthy, said]
  simp only [cancellation, truthy, if_true, because]

theorem text?_because (cancels : kind = .scopeCancelled ∨ kind = .deadlineExceeded)
    (text : String) : (because kind text).text? = some text := by
  rcases cancels with rfl | rfl <;> rfl

namespace IsReason

variable (reason : cause.IsReason)
include reason

/-- It has a text, and is made of that. -/
theorem exists_text : ∃ kind text, (kind = .scopeCancelled ∨ kind = .deadlineExceeded) ∧
    text ≠ "" ∧ cause = because kind text := by
  obtain ⟨kind, message, cancels, rfl⟩ := reason
  by_cases silent : message = ""
  · subst silent
    refine ⟨kind, kind.defaultMessage, cancels, ?_, rfl⟩
    rcases cancels with rfl | rfl <;> decide
  · exact ⟨kind, message, cancels, silent, cancellation_of_text kind silent⟩

/-- Raised anew, it is the same. -/
theorem fresh_eq : cause.fresh = cause := by
  obtain ⟨kind, text, cancels, said, rfl⟩ := reason.exists_text
  have again : raisedBy (make kind [.str text]) = because kind text := by
    rw [← cancellation_of_text kind said]
    rcases cancels with rfl | rfl <;> rfl
  rw [fresh, text?_because cancels]
  exact again

theorem isOrdinary : cause.isOrdinary = true := by
  obtain ⟨kind, text, cancels, -, rfl⟩ := reason.exists_text
  rcases cancels with rfl | rfl <;> rfl

/-- A report shows its text. -/
theorem failureText_eq : cause.failureText = cause.text := by
  obtain ⟨kind, text, cancels, said, rfl⟩ := reason.exists_text
  apply failureText_of_text
  rw [Fault.text, text?_because cancels]
  exact said

/-- The record of a check that has raised it shows its text, and no details. -/
theorem shown {check : Check} {record : Record σ} (shows : Shows check (.raised cause) (.ok record)) :
    record.error = cause.text ∧ record.details = none := by
  have verdict : Runner.Verdict.ofOutcome (.raised cause) = .failure cause :=
    Runner.Verdict.eq_failure_iff.mpr (.inr ⟨rfl, reason.isOrdinary⟩)
  have shown := shows.2
  rw [verdict, Runner.Verdict.shown?, reason.failureText_eq] at shown
  obtain ⟨error, details⟩ := Prod.mk.inj (Option.some.inj shown)
  exact ⟨error.symm, details.symm⟩

end IsReason

end Fault

/-- The cause of a deadline that has passed. -/
theorem Fault.isReason_deadlineExceeded : Fault.deadlineExceeded.IsReason :=
  ⟨.deadlineExceeded, "deadline exceeded", .inr rfl,
    (cancellation_of_text .deadlineExceeded (by decide)).symm⟩

/-- A scope that is cancelled for a reason, or has expired with nobody having looked, tells one. -/
theorem Timeline.exists_reason [Clock τ] {t : Timeline τ} {s : ScopeId}
    (settled : t.forest.Settled) (asked : (t.isCancelled s).1 = true)
    (reasons : ∀ cause, t.forest.cause? s = some cause → cause.IsReason) :
    ∃ cause, (t.error s).1 = some cause ∧ cause.IsReason := by
  cases before : t.forest.cause? s with
  | some cause => exact ⟨cause, fst_error_of_cause? before, reasons cause before⟩
  | none =>
      have expired : t.forest.isExpired t.now s = true := by
        rcases (Forest.fst_isCancelled ..).mp asked with cancelled | expired
        · rw [before] at cancelled
          cases cancelled
        · exact expired
      exact ⟨.deadlineExceeded, fst_error_of_expired settled before expired,
        Fault.isReason_deadlineExceeded⟩

/-! ### Probes that check a scope -/

/-- A probe that checks a scope, or sleeps under one, and lets through what that raises. -/
inductive Probe.Heeds : Probe τ → Prop
  | check (h : Handle) (next : Probe τ) : Heeds (.check h next)
  | sleep (h : Handle) (timeout : Option τ) (next : Probe τ) : Heeds (.sleep h timeout next)

variable [Clock τ] [Clock.Ordered τ] {setting : World.Setting τ} {r : Runner τ σ} {limit : τ}
  {entry : Entry τ} {scope : ScopeId} {cause : Fault} {frame frame' : Frame τ}
  {probe probe' : Probe τ} {w w' : World τ}

namespace World

variable {own : ScopeId} {derived : List ScopeId}

/-- Under cancelled scopes, a probe that checks one of them raises the cause. -/
theorem runProbe_heeds (reason : cause.IsReason) (heeds : probe.Heeds)
    (settled : w.line.forest.Settled) (isTime : IsTime w.line.now)
    (told : ∀ h, w.line.forest.cause? (scopeOf own derived h) = some cause) :
    (runProbe setting own probe derived w).1 = .raised cause := by
  have checks (h : Handle) (next : Probe τ) {w : World τ}
      (told : w.line.forest.cause? (scopeOf own derived h) = some cause) :
      (runProbe setting own (.check h next) derived w).1 = .raised cause := by
    simp only [Probe.check, runProbe, Timeline.fst_error_of_cause? told, reason.fresh_eq]
  cases heeds with
  | check h next => exact checks h next (told h)
  | sleep h timeout next =>
      have asked : (w.line.isCancelled (scopeOf own derived h)).1 = true :=
        (Forest.fst_isCancelled ..).mpr (.inl (Option.isSome_iff_exists.mpr ⟨cause, told h⟩))
      have answer : w.line.isCancelled (scopeOf own derived h) =
          (true, (w.line.isCancelled (scopeOf own derived h)).2) := Prod.ext asked rfl
      have waits : w.line.wait (scopeOf own derived h) timeout =
          (.cancelled, (w.line.isCancelled (scopeOf own derived h)).2) := by
        rw [Timeline.wait, Timeline.waitRounds, Timeline.waitUntil, answer]
      simp only [Probe.sleep, runProbe, waits, if_true]
      exact checks h next ((Follows.isCancelled settled isTime _).cause?_of_some (told h))

end World

namespace Job

/-! ### A probe that runs by itself -/

/-- A probe that runs by itself comes to another: it does what comes next, time passes where it
takes some, and it goes on when a wait ends. -/
inductive Leads (setting : World.Setting τ) (r : Runner τ σ) (entry : Entry τ) (scope : ScopeId) :
    Frame τ → Probe τ → World τ → Frame τ → Probe τ → World τ → Prop
  | refl (frame : Frame τ) (probe : Probe τ) (w : World τ) :
      Leads setting r entry scope frame probe w frame probe w
  | step {frame frame' frame'' : Frame τ} {probe probe' probe'' : Probe τ} {w w' w'' : World τ} :
      (∀ span next, probe ≠ .pass span next) →
      (acting frame probe : Job τ σ).step setting r entry scope w =
        some (.acting frame' probe', w') →
      Leads setting r entry scope frame' probe' w' frame'' probe'' w'' →
      Leads setting r entry scope frame probe w frame'' probe'' w''
  | pass {frame frame'' : Frame τ} {span : τ} {next probe'' : Probe τ} {w w'' : World τ} :
      Leads setting r entry scope frame next { w with line := w.line.advance span }
        frame'' probe'' w'' →
      Leads setting r entry scope frame (.pass span next) w frame'' probe'' w''
  | wait {frame frame'' : Frame τ} {h : Handle} {timeout : Option τ} {next : Bool → Probe τ}
      {probe'' : Probe τ} {w w'' : World τ} (cancelled : Bool) :
      (w.line.wait (frame.scopeOf h) timeout).1 = (if cancelled then .cancelled else .elapsed) →
      Leads setting r entry scope frame (next cancelled)
        { w with line := (w.line.wait (frame.scopeOf h) timeout).2 } frame'' probe'' w'' →
      Leads setting r entry scope frame (.wait h timeout next) w frame'' probe'' w''

omit [Clock.Ordered τ] in
/-- What a probe comes to after a step, it comes to. -/
theorem runProbe_of_step (takes : ∀ span next, probe ≠ .pass span next)
    (makes : (acting frame probe : Job τ σ).step setting r entry scope w =
      some (.acting frame' probe', w')) :
    World.runProbe setting frame.own probe frame.derived w =
      World.runProbe setting frame'.own probe' frame'.derived w' := by
  have judged {outcome : Outcome Value} : judge entry.check frame outcome w ≠
      some ((.acting frame' probe' : Job τ σ), w') := by
    intro judges
    unfold judge at judges
    split at judges <;> cases judges
  simp only [step] at makes
  cases probe with
  | done value => exact absurd makes judged
  | fail fault => exact absurd makes judged
  | pass span next => exact absurd rfl (takes span next)
  | wait h timeout next => cases makes
  | register check probe next =>
      cases answer : w.register setting.store { check, probe, service := setting.service } with
      | ok v =>
          simp only [act, answer] at makes
          cases makes
          simp only [World.runProbe, answer]
      | error fault =>
          simp only [act, answer] at makes
          cases makes
          simp only [World.runProbe, answer]
  | runCheck category name under next =>
      have handles : frame.scopeOf = World.scopeOf frame.own frame.derived := rfl
      cases answer : setting.runCheck category name (under.map frame.scopeOf) w with
      | mk outcome v =>
          simp only [World.runProbe, ← handles]
          cases outcome with
          | returned summary =>
              simp only [act, answer] at makes
              cases makes
              simp only [answer]
          | raised fault =>
              simp only [act, answer] at makes
              cases makes
              simp only [answer]
          | stalled =>
              simp only [act, answer] at makes
              cases makes
  | _ => cases makes; rfl

/-- A probe that runs by itself under cancelled scopes comes to what it comes to from wherever it
has come to, and there all its scopes are cancelled for the same cause. -/
theorem Leads.runProbe_eq (nests : NestsOn setting)
    (leads : Leads setting r entry scope frame probe w frame' probe' w')
    (settled : w.line.forest.Settled) (isTime : IsTime w.line.now)
    (root : IsTold cause w.line scope) (told : ∀ h, IsTold cause w.line (frame.scopeOf h)) :
    World.runProbe setting frame.own probe frame.derived w =
        World.runProbe setting frame'.own probe' frame'.derived w' ∧
      w.line.Follows w'.line ∧ ∀ h, IsTold cause w'.line (frame'.scopeOf h) := by
  have onward {t t' : Timeline τ} {frame : Frame τ} (follows : t.Follows t')
      (told : ∀ h, IsTold cause t (frame.scopeOf h)) (h : Handle) :
      IsTold cause t' (frame.scopeOf h) := follows.cause?_of_some (told h)
  induction leads with
  | refl frame probe w => exact ⟨rfl, .refl settled isTime, told⟩
  | @step frame _ _ probe _ _ w _ _ takes makes _ ih =>
      have placed : (acting frame probe : Job τ σ).Placed r (IsTold cause) w.line := told
      obtain ⟨follows, told'⟩ := step_placed (handsDown_told r cause) nests settled isTime root
        placed makes
      obtain ⟨same, later, there⟩ := ih follows.settled follows.isTime
        (follows.cause?_of_some root) told'
      exact ⟨(runProbe_of_step takes makes).trans same, follows.trans later, there⟩
  | @pass _ _ span _ _ w _ _ ih =>
      have follows := Follows.advance settled isTime span none
      obtain ⟨same, later, there⟩ := ih follows.settled follows.isTime
        (follows.cause?_of_some root) (onward follows told)
      exact ⟨same, follows.trans later, there⟩
  | @wait frame _ h timeout _ _ w _ cancelled ends _ ih =>
      have follows := Follows.wait settled isTime (frame.scopeOf h) timeout
      obtain ⟨same, later, there⟩ := ih follows.settled follows.isTime
        (follows.cause?_of_some root) (onward follows told)
      refine ⟨Eq.trans ?_ same, follows.trans later, there⟩
      have handle : frame.scopeOf h = World.scopeOf frame.own frame.derived h := rfl
      rw [handle] at ends ⊢
      simp only [World.runProbe]
      cases waits : w.line.wait (World.scopeOf frame.own frame.derived h) timeout with
      | mk woken line =>
          rw [waits] at ends
          cases cancelled with
          | true =>
              obtain rfl : woken = .cancelled := ends
              rfl
          | false =>
              obtain rfl : woken = .elapsed := ends
              rfl

end Job

namespace Runner

/-- The probe of an entry that is run by itself comes to another. -/
def Reaches (setting : World.Setting τ) (r : Runner τ σ) (limit : τ) (entry : Entry τ)
    (scope : ScopeId) (w : World τ) (probe : Probe τ) : Prop :=
  ∃ frame w', Job.Leads setting r entry scope
    { id := (w.issueId r.ids).1, start := w.line.now, limit, own := w.line.forest.size }
    entry.probe (probeStart r limit entry scope w) frame probe w'

/-- Below a caller that tells why it is cancelled, a probe that comes to check a scope raises the
cause. -/
theorem probeRun_heeds (nests : Job.NestsOn setting) (reason : cause.IsReason)
    (settled : w.line.forest.Settled) (isTime : IsTime w.line.now)
    (told : (w.line.error scope).1 = some cause) (heeds : probe.Heeds)
    (reaches : Reaches setting r limit entry scope w probe) :
    (probeRun setting r limit entry scope w).1 = .raised cause := by
  obtain ⟨frame, w', leads⟩ := reaches
  have asks := Follows.isCancelled settled isTime scope
  have asked : (w.line.isCancelled scope).2.forest.cause? scope = some cause := by
    rw [← Timeline.error_snd]
    exact Timeline.cause?_of_fst_error told
  have opens : (w.line.isCancelled scope).2.Follows (w.line.child scope (some limit)).2 := by
    rw [← Timeline.child_isCancelled]
    exact .child asks.settled asks.isTime (Forest.lt_size_of_cause? asked) _
  have own (h : Handle) : Job.IsTold cause (w.line.child scope (some limit)).2
      (World.scopeOf w.line.forest.size [] h) := by
    rw [World.scopeOf_nil]
    exact Job.told_child settled _ told
  obtain ⟨same, follows, there⟩ := leads.runProbe_eq nests opens.settled opens.isTime
    (opens.cause?_of_some asked) own
  have new : (w.line.child scope (some limit)).1 = w.line.forest.size := Forest.fst_child ..
  rw [probeRun_eq, new]
  exact (congrArg Prod.fst same).trans
    (World.runProbe_heeds reason heeds follows.settled follows.isTime there)

end Runner

/-! ### A probe among others -/

namespace Job

/-- How far a job is whose probe has come to check a scope that is cancelled for a cause. -/
def Doomed (cause : Fault) (marks : List Mark) : Job τ σ → Prop
  | .fresh | .entering .. => False
  | .acting _ probe => probe.Heeds ∨ probe = .fail cause
  | .waiting _ _ _ next => ∃ h rest, next true = .check h rest
  | .judged .. | .stamped .. | .ended _ => .came (.raised cause) ∈ marks

omit [Clock.Ordered τ] in
/-- From then on the job goes on until its probe has raised the cause. -/
theorem doomed_step {job job' : Job τ σ} {marks : List Mark} (reason : cause.IsReason)
    (placed : job.Placed r (IsTold cause) w.line) (doomed : job.Doomed cause marks)
    (makes : job.step setting r entry scope w = some (job', w')) :
    job'.Doomed cause (marks ++ (job.mark? w).toList) := by
  cases job with
  | fresh | entering => exact doomed.elim
  | acting frame probe =>
      rcases doomed with heeds | rfl
      · cases heeds with
        | check h next =>
            have answer : (w.line.error (frame.scopeOf h)).1 = some cause :=
              Timeline.fst_error_of_cause? (placed h)
            simp only [step, act, Probe.check, answer] at makes
            cases makes
            exact .inr (congrArg Probe.fail reason.fresh_eq)
        | sleep h timeout next =>
            cases makes
            exact ⟨h, next, rfl⟩
      · have verdict : Runner.Verdict.ofOutcome (.raised cause) = .failure cause :=
          Runner.Verdict.eq_failure_iff.mpr (.inr ⟨rfl, reason.isOrdinary⟩)
        simp only [step, act, judge, verdict] at makes
        cases makes
        exact List.mem_append_right _ (List.mem_singleton_self _)
  | waiting frame s limit next =>
      obtain ⟨h, rest, checks⟩ := doomed
      obtain ⟨_, wakes⟩ : ∃ w', (waiting frame s limit next : Job τ σ).step setting r entry scope w =
          some (.acting frame (next true), w') := by
        apply exists_step_of_asked
        exact (Forest.fst_isCancelled ..).mpr (.inl (Option.isSome_iff_exists.mpr ⟨_, placed.2⟩))
      rw [wakes, checks] at makes
      cases makes
      exact .inl (.check h rest)
  | judged frame error details =>
      have marked := List.mem_append_left ((judged frame error details : Job τ σ).mark? w).toList
        doomed
      cases move_of_step makes with
      | stamp | unstamped => exact marked
  | stamped frame timestamp error details =>
      cases makes
      exact List.mem_append_left _ doomed
  | ended => cases makes

end Job

namespace Crew

variable {setting : Entry τ → World.Setting τ} {entries : List (Entry τ)} {caller : ScopeId}
  {size k : Nat} {steps : List (Step τ)} {c : Crew τ σ} {own : ScopeId} {outcome : Outcome Value}

/-- The probe of a task has come to another at some step of a batch. -/
def Reaches (setting : Entry τ → World.Setting τ) (r : Runner τ σ) (c : Crew τ σ)
    (steps : List (Step τ)) (k : Nat) (probe : Probe τ) : Prop :=
  ∃ before after between frame, steps = before ++ after ∧
    c.run setting r before = some between ∧ between.jobs[k]? = some (.acting frame probe)

/-- Below a caller that tells why it is cancelled, a probe that comes to check a scope raises the
cause, whatever other tasks do. -/
theorem outcome_of_heeds (nests : ∀ entry, Job.NestsOn (setting entry)) (reason : cause.IsReason)
    (deadline : r.timeout.seconds? = .ok limit) (stamps : ∀ now, ∃ stamp, r.stamp now = .ok stamp)
    (settled : w.line.forest.Settled) (isTime : IsTime w.line.now)
    (told : (w.line.error caller).1 = some cause)
    (runs : (Crew.start size entries caller w).run setting r steps = some c)
    (final : c.pool.IsFinal) (at' : entries[k]? = some entry)
    (called : CalledOnce ((Crew.start size entries caller w : Crew τ σ).told setting r steps) k own
      outcome)
    (reaches : Reaches setting r (Crew.start size entries caller w) steps k probe)
    (heeds : probe.Heeds) : outcome = .raised cause := by
  obtain ⟨before, after, between, frame, rfl, first, here⟩ := reaches
  have down := Job.handsDown_told r cause
  have underWay := UnderWay.of_run down nests deadline stamps settled isTime
    (Job.lt_size_of_told told) (Job.told_child settled none told) first
  obtain ⟨_, first', second⟩ := isRun.append_eq_some_iff.mp runs
  obtain rfl := Option.some.inj (first.symm.trans first')
  have begins : (between.jobOf k).Doomed cause (Mark.of k
      ((Crew.start size entries caller w : Crew τ σ).told setting r before)) := by
    rw [jobOf_eq here]
    exact .inl heeds
  have doomed := run_job (J := fun marks _ job => job.Doomed cause marks) [] down nests deadline
    stamps at' (fun _ _ _ placed doomed makes => Job.doomed_step reason placed doomed makes)
    underWay begins second
  have later := run_underWay down nests deadline stamps underWay second
  obtain ⟨poolSteps, poolRuns, -⟩ := pool_run runs
  have all := Pool.allReleased_of_isFinal poolRuns final
  obtain ⟨result, ended⟩ := later.jobOf_of_isFinal final all at'
  rw [ended, ← emits_told.append isRun first] at doomed
  exact (called.outcome_of_mem doomed).symm

end Crew

end Checkup
