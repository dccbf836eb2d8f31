import Checkup.Proofs.Runner.Ends
import Checkup.Proofs.Runner.Tasks

/-!
One job while others act.

Between any two steps of a job others may act on whatever scopes and registries, and time may pass.
All that the job can rely on is that scopes that were made stay, with the causes that they have, and
that the clock does not go back. What holds of a job that goes on so holds of it in every batch, and
where it is alone.

Main statements: `GoesAmid.exists_step` (a job makes its next step after others have acted),
`GoesAmid.accounts` (how far its marks tell that it is), `GoesAmid.begins` (on its way it begins its
probe), `Crew.run_goesAmid` and `Tells.goesAmid` (jobs of a batch, and a job alone, go on so).
-/

namespace Checkup

open Clock (IsTime)
open Timeline (Follows)

variable {τ σ : Type} [Clock τ] [Clock.Ordered τ]

namespace Job

/-- A job makes steps, with what these make of its probe, and others act between them. -/
inductive GoesAmid (setting : World.Setting τ) (r : Runner τ σ) (entry : Entry τ)
    (scope : ScopeId) : List Mark → Job τ σ → World τ → Job τ σ → World τ → Prop
  | refl (job : Job τ σ) (w : World τ) : GoesAmid setting r entry scope [] job w job w
  | step {marks : List Mark} {job job' job'' : Job τ σ} {w w' w'' : World τ} :
      job.step setting r entry scope w = some (job', w') →
      GoesAmid setting r entry scope marks job' w' job'' w'' →
      GoesAmid setting r entry scope ((job.mark? w).toList ++ marks) job w job'' w''
  | others {marks : List Mark} {job job' : Job τ σ} {w v w' : World τ} :
      w.line.Follows v.line → GoesAmid setting r entry scope marks job v job' w' →
      GoesAmid setting r entry scope marks job w job' w'

variable {setting : World.Setting τ} {r : Runner τ σ} {entry : Entry τ} {scope : ScopeId}
  {job job' job'' : Job τ σ} {w w' w'' : World τ} {limit : τ} {marks more : List Mark}
  {R P : Timeline τ → ScopeId → Prop}

namespace GoesAmid

/-- Unless it has ended, a job that comes to an end makes a step after others have acted. -/
theorem exists_step {result : Except Fault (Record σ)} (settled : w.line.forest.Settled)
    (isTime : IsTime w.line.now)
    (goes : GoesAmid setting r entry scope marks job w (.ended result) w')
    (unfinished : ∀ result, job ≠ .ended result) :
    ∃ u job' v rest, w.line.Follows u.line ∧ job.step setting r entry scope u = some (job', v) ∧
      marks = (job.mark? u).toList ++ rest ∧
      GoesAmid setting r entry scope rest job' v (.ended result) w' := by
  generalize ends : (.ended result : Job τ σ) = last at goes
  induction goes with
  | refl => exact absurd ends.symm (unfinished result)
  | step makes rest =>
      subst ends
      exact ⟨_, _, _, _, .refl settled isTime, makes, rfl, rest⟩
  | others follows _ ih =>
      obtain ⟨u, job', v, rest, before, step⟩ := ih follows.settled follows.isTime unfinished ends
      exact ⟨u, job', v, rest, follows.trans before, step⟩

/-- What a job tells while others act tells how far it is. -/
theorem accounts (deadline : r.timeout.seconds? = .ok limit)
    (stamps : ∀ now, ∃ stamp, r.stamp now = .ok stamp)
    (goes : GoesAmid setting r entry scope more job w job' w')
    (accounts : job.Accounts entry.check marks) : job'.Accounts entry.check (marks ++ more) := by
  induction goes generalizing marks with
  | refl => rwa [List.append_nil]
  | step makes _ ih =>
      rw [← List.append_assoc]
      exact ih (accounts_step deadline stamps accounts makes)
  | others _ _ ih => exact ih accounts

end GoesAmid

/-! ### Up to the probe -/

/-- A job comes to begin its probe, whatever that is: at `u`, under a scope that was made for it
below that of the run. -/
structure Begins (setting : World.Setting τ) (r : Runner τ σ) (entry : Entry τ) (scope : ScopeId)
    (w : World τ) (frame : Frame τ) (u : World τ) : Prop where
  comes (probe : Probe τ) : GoesAmid setting r { entry with probe } scope [.called frame.own]
    .fresh w (.acting frame probe) u
  follows : w.line.Follows u.line
  hangs : u.line.forest.parent? frame.own = some scope
  /-- Where the scope of the run was cancelled, that of the probe is, for the same cause. -/
  told : (w.line.isCancelled scope).1 = true → ∃ cause,
    u.line.forest.cause? scope = some cause ∧ u.line.forest.cause? frame.own = some cause

omit [Clock.Ordered τ] in
/-- The first step of a job reads the clock, and leaves the scopes as they are. -/
theorem step_fresh (deadline : r.timeout.seconds? = .ok limit) (setting : World.Setting τ)
    (entry : Entry τ) (scope : ScopeId) (w : World τ) :
    ∃ id w', w'.line = w.line ∧ ∀ probe,
      (.fresh : Job τ σ).step setting r { entry with probe } scope w =
        some (.entering id w.line.now limit, w') := by
  let noted := (w.issueId r.ids).2.note (.running entry.check.key)
  have line : noted.line = w.line := World.line_issueId ..
  refine ⟨(w.issueId r.ids).1, noted, line, ?_⟩
  intro probe
  simp only [step, deadline, ← line, noted]

omit [Clock.Ordered τ] in
/-- A scope that is made below a cancelled one is cancelled for the same cause. -/
theorem exists_cause_child {t : Timeline τ} (settled : t.forest.Settled)
    (asked : (t.isCancelled scope).1 = true) (timeout : Option τ) :
    ∃ cause, (t.child scope timeout).2.forest.cause? scope = some cause ∧
      (t.child scope timeout).2.forest.cause? t.forest.size = some cause := by
  obtain ⟨cause, told⟩ := Timeline.exists_told settled asked
  have known : (t.error scope).2.forest.cause? scope = some cause :=
    Timeline.cause?_of_fst_error told
  rw [Timeline.error_snd] at known
  refine ⟨cause, ?_, told_child settled timeout told⟩
  rw [← Timeline.child_isCancelled]
  exact Forest.cause?_child_of_some known ..

/-- A job that comes to an end begins its probe on the way. -/
theorem GoesAmid.begins {result : Except Fault (Record σ)}
    (goes : GoesAmid setting r entry scope marks .fresh w (.ended result) w')
    (deadline : r.timeout.seconds? = .ok limit) (settled : w.line.forest.Settled)
    (isTime : IsTime w.line.now) (made : scope < w.line.forest.size) :
    ∃ frame u job' v rest, Begins setting r entry scope w frame u ∧
      (.acting frame entry.probe : Job τ σ).step setting r entry scope u = some (job', v) ∧
      marks = .called frame.own ::
        (((.acting frame entry.probe : Job τ σ).mark? u).toList ++ rest) ∧
      GoesAmid setting r entry scope rest job' v (.ended result) w' := by
  obtain ⟨w₁, _, v₁, rest₁, first, makes, rfl, goes⟩ :=
    goes.exists_step settled isTime (by rintro _ ⟨⟩)
  obtain ⟨id, _, line, begin⟩ := step_fresh deadline setting entry scope w₁
  obtain ⟨rfl, rfl⟩ := Prod.mk.inj (Option.some.inj (makes.symm.trans (begin entry.probe)))
  have before : w.line.Follows v₁.line := by rwa [line]
  obtain ⟨w₂, _, v₂, rest₂, between, makes, rfl, goes⟩ :=
    goes.exists_step before.settled before.isTime (by rintro _ ⟨⟩)
  rw [step_entering] at makes
  obtain ⟨rfl, rfl⟩ := Prod.mk.inj (Option.some.inj makes)
  have there : w.line.Follows w₂.line := before.trans between
  have made₂ : scope < w₂.line.forest.size := Nat.lt_of_lt_of_le made there.size_le
  let entered : World τ := { w₂ with line := (w₂.line.child scope (some limit)).2 }
  have grown : w₂.line.Follows entered.line :=
    .child there.settled there.isTime made₂ (some limit)
  obtain ⟨u, job', v, rest, after, makes, rfl, ends⟩ :=
    goes.exists_step (w := entered) grown.settled grown.isTime (by rintro _ ⟨⟩)
  have new : w₂.line.forest.size < entered.line.forest.size := by
    rw [show entered.line.forest.size = w₂.line.forest.size + 1 from Forest.size_child ..]
    exact Nat.lt_succ_self _
  refine ⟨_, u, job', v, rest, ⟨?_, (there.trans grown).trans after, ?_, ?_⟩, makes, rfl, ends⟩
  · intro probe
    have enters : GoesAmid setting r { entry with probe } scope
        [.called w₂.line.forest.size] (.entering id w₁.line.now limit) v₁
        (.acting ⟨id, w₁.line.now, limit, w₂.line.forest.size, []⟩ probe) u :=
      .others between (.step (step_entering ..) (.others after (.refl ..)))
    exact .others first (.step (begin probe) enters)
  · exact (after.parent?_eq new).trans (Forest.parent?_child_new there.settled made₂)
  · intro asked
    obtain ⟨cause, above, own⟩ :=
      exists_cause_child there.settled (there.asked asked) (some limit)
    exact ⟨cause, after.cause?_of_some above, after.cause?_of_some own⟩

/-- A probe that is begun comes to an end once, and the job ends with what that shows. -/
theorem GoesAmid.comes {result : Except Fault (Record σ)} {frame : Frame τ} {probe : Probe τ}
    (goes : GoesAmid setting r entry scope marks (.acting frame probe) w (.ended result) w')
    (deadline : r.timeout.seconds? = .ok limit)
    (stamps : ∀ now, ∃ stamp, r.stamp now = .ok stamp) :
    ∃ outcome, marks = [.came outcome] ∧ Shows entry.check outcome result := by
  have called : (.acting frame probe : Job τ σ).Accounts entry.check [.called frame.own] := rfl
  obtain ⟨own, outcome, all, shows⟩ := goes.accounts deadline stamps called
  obtain ⟨-, marks⟩ := List.cons.inj all
  exact ⟨outcome, marks, shows⟩

/-- A probe that is about to raise a fault comes to that. -/
theorem GoesAmid.comes_of_fail {result : Except Fault (Record σ)} {frame : Frame τ} {fault : Fault}
    (goes : GoesAmid setting r entry scope marks (.acting frame (.fail fault)) w (.ended result) w')
    (deadline : r.timeout.seconds? = .ok limit) (stamps : ∀ now, ∃ stamp, r.stamp now = .ok stamp)
    (settled : w.line.forest.Settled) (isTime : IsTime w.line.now) :
    marks = [.came (.raised fault)] ∧ Shows entry.check (.raised fault) result := by
  obtain ⟨outcome, rfl, shows⟩ := goes.comes deadline stamps
  obtain ⟨u, job', v, rest, -, -, marks, -⟩ :=
    goes.exists_step settled isTime (by rintro _ ⟨⟩)
  obtain ⟨came, -⟩ := List.cons.inj marks
  cases came
  exact ⟨rfl, shows⟩

/-- For a job alone it is the clock that acts. -/
theorem Tells.goesAmid (down : HandsDown r R P) (nests : NestsOn setting)
    (settled : w.line.forest.Settled) (isTime : IsTime w.line.now) (root : R w.line scope)
    (placed : job.Placed r P w.line) (tells : Tells setting r entry scope marks job w job' w') :
    GoesAmid setting r entry scope marks job w job' w' := by
  induction tells with
  | refl => exact .refl ..
  | step makes _ ih =>
      obtain ⟨follows, placed⟩ := step_placed down nests settled isTime root placed makes
      exact .step makes (ih follows.settled follows.isTime (down.root_stays follows root) placed)
  | @elapse _ job job' w w' t passes _ ih =>
      have follows : w.line.Follows t := Timeline.follows_of_touches
        (Timeline.touches_of_elapses (n := 0) passes) settled isTime
      exact .others (v := { w with line := t }) follows
        (ih follows.settled follows.isTime (down.root_stays follows root)
          (down.placed follows placed))

end Job

namespace Crew

variable {setting : Entry τ → World.Setting τ} {r : Runner τ σ} {limit : τ}
  {R P : Timeline τ → ScopeId → Prop} {entries : List (Entry τ)} {caller : ScopeId}
  {marks : List (Nat × Mark)} {c c' : Crew τ σ} {s : Step τ} {steps : List (Step τ)} {k : Nat}
  {entry : Entry τ}

omit [Clock.Ordered τ] in
theorem scope_of_step (makes : c.step setting r s = some c') : c'.scope = c.scope := by
  cases move_of_step makes <;> rfl

/-- A step of a batch leaves the scopes that there are as any action does. -/
theorem UnderWay.follows_of_step (underWay : c.UnderWay r R P entries caller marks)
    (down : Job.HandsDown r R P) (nests : ∀ entry, Job.NestsOn (setting entry))
    (makes : c.step setting r s = some c') : c.world.line.Follows c'.world.line := by
  have settled := underWay.settled
  have isTime := underWay.isTime
  cases move_of_step makes with
  | pool | submit => exact .refl settled isTime
  | leave => exact .close settled isTime c.scope
  | later now => exact .later settled isTime now
  | fire limit timer others => exact .fire settled isTime timer others
  | work k entry job job' world running here works =>
      have placed := underWay.placed job (List.mem_of_getElem? here)
      exact (Job.step_placed down (nests entry) settled isTime underWay.root placed works).1

/-- In a batch the job of a task goes on while others act. -/
theorem run_goesAmid (down : Job.HandsDown r R P) (nests : ∀ entry, Job.NestsOn (setting entry))
    (deadline : r.timeout.seconds? = .ok limit) (stamps : ∀ now, ∃ stamp, r.stamp now = .ok stamp)
    (at' : entries[k]? = some entry) (underWay : c.UnderWay r R P entries caller marks)
    (runs : c.run setting r steps = some c') :
    Job.GoesAmid (setting entry) r entry c.scope (Mark.of k (c.told setting r steps)) (c.jobOf k)
      c.world (c'.jobOf k) c'.world := by
  induction steps generalizing c marks with
  | nil =>
      cases runs
      exact .refl ..
  | cons s steps ih =>
      obtain ⟨between, makes, goesOn⟩ := Option.bind_eq_some_iff.mp runs
      have rest := ih (step_underWay down nests deadline stamps underWay makes) goesOn
      rw [scope_of_step makes] at rest
      rw [Crew.told, makes, Option.elim_some, Mark.of_append]
      cases turn_of_step underWay.itemized at' makes with
      | others same unmarked =>
          rw [unmarked, List.nil_append, ← same]
          exact .others (underWay.follows_of_step down nests makes) rest
      | own _ works mark =>
          rw [mark]
          exact .step works rest

end Crew

end Checkup
