import Checkup.Proofs.Runner.Calls
import Checkup.Proofs.Runner.Registrars
import Checkup.Proofs.Scope.FirstCause

/-!
Every batch runs out.

A batch can go on until the caller has left, perhaps after some time has passed: scopes under which
probes wait have deadlines, or are cancelled (`Wakes`). Only a check that is run from inside a probe
and never comes back can keep it. And no batch goes on forever, as what it has left to do gets less.

Main statements: `handsDown_expires` and `handsDown_told` (what jobs rely on of their scopes),
`UnderWay.goesOn` (unless the caller has left, a batch can go on) and `UnderWay.runsOut`.
-/

namespace Checkup

open Clock (IsTime IsSpan)
open Runner (Timed)
open Timeline (Follows)

variable {τ σ : Type} [Clock τ] [Clock.Ordered τ]

/-! ### Scopes that are cancelled in the end -/

namespace Job

variable {t : Timeline τ} {s : ScopeId} {r : Runner τ σ} {limit : τ} {cause : Fault}
  {P : Timeline τ → ScopeId → Prop}

def Expires (t : Timeline τ) (s : ScopeId) : Prop :=
  ∃ deadline, t.forest.deadline? s = some deadline ∧ IsTime deadline

def IsTold (cause : Fault) (t : Timeline τ) (s : ScopeId) : Prop := t.forest.cause? s = some cause

/-- A scope of which this holds is found to be cancelled once the clock has gone on. -/
def Wakes (P : Timeline τ → ScopeId → Prop) : Prop :=
  ∀ {t : Timeline τ} {s : ScopeId}, IsTime t.now → P t s →
    ∃ now, (Timeline.isCancelled { t with now := Clock.later t.now now } s).1 = true

/-- A scope with a deadline is found to be cancelled once the clock is there. -/
theorem wakes_expires : Wakes (Expires (τ := τ)) := by
  intro t s isTime expires
  obtain ⟨deadline, here, comes⟩ := expires
  have passed : Clock.le deadline (Clock.later t.now deadline) = true :=
    Clock.le_later_right isTime comes
  exact ⟨deadline, (Forest.fst_isCancelled ..).mpr
    (.inr ((Forest.isExpired_iff ..).mpr ⟨_, here, passed⟩))⟩

/-- A scope that was told a cause is found to be cancelled at once. -/
theorem wakes_told : Wakes (IsTold (τ := τ) cause) := by
  intro t s _ told
  exact ⟨t.now, (Forest.fst_isCancelled ..).mpr (.inl (Option.isSome_iff_exists.mpr ⟨_, told⟩))⟩

/-- Below a scope whose deadline is a time if it has one, every probe has a scope that expires. -/
theorem handsDown_expires [Clock.Arrives τ] (deadline : r.timeout.seconds? = .ok limit)
    (span : IsSpan limit) : HandsDown r Timed Expires where
  made := fun ⟨_, here, _⟩ => Forest.lt_size_of_deadline? here
  root_made timed := timed.1
  stays := by
    intro t t' s follows expires
    obtain ⟨deadline, here, isTime⟩ := expires
    exact ⟨deadline, (follows.deadline_eq (Forest.lt_size_of_deadline? here)).trans here, isTime⟩
  root_stays follows timed := timed.extends follows.toExtends
  enters := by
    intro t s limit' deadline' settled isTime timed
    rw [deadline] at deadline'
    obtain rfl : limit = limit' := Except.ok.inj deadline'
    have ends : IsTime (Clock.add t.now limit) := Clock.Ordered.isTime_add isTime span
    rw [Expires, Timeline.Extends.deadline?_child settled timed.1, if_pos rfl]
    cases here : t.forest.deadline? s with
    | none => exact ⟨_, rfl, ends⟩
    | some above => exact ⟨_, rfl, Clock.isTime_earlier (timed.2 above here) ends⟩
  derives := by
    intro t s timeout settled isTime expires
    obtain ⟨above, here, before⟩ := expires
    have made := Forest.lt_size_of_deadline? here
    rw [Expires, Timeline.Extends.deadline?_child settled made, if_pos rfl, here]
    cases timeout with
    | none => exact ⟨_, rfl, before⟩
    | some span => exact ⟨_, rfl, Clock.isTime_earlier_left before _⟩

/-- A scope that is made below one whose deadline is a time if it has one. -/
theorem timed_child {caller : ScopeId} (settled : t.forest.Settled) (timed : Timed t caller) :
    Timed (t.child caller none).2 t.forest.size := by
  refine ⟨?_, fun deadline here => ?_⟩
  · rw [show (t.child caller none).2.forest.size = t.forest.size + 1 from Forest.size_child ..]
    exact Nat.lt_succ_self _
  · rw [Timeline.Extends.deadline?_child settled timed.1, if_pos rfl] at here
    exact Clock.isTime_earliest? timed.2 (by intro _ none; cases none) here

omit [Clock.Ordered τ] in
/-- A scope that tells why it is cancelled was made. -/
theorem lt_size_of_told (told : (t.error s).1 = some cause) : s < t.forest.size := by
  have made := Forest.lt_size_of_cause? (Timeline.cause?_of_fst_error told)
  rwa [Timeline.error_snd, show (t.isCancelled s).2.forest.size = t.forest.size from
    Forest.size_isCancelled ..] at made

omit [Clock.Ordered τ] in
/-- A scope that is made below one that tells why it is cancelled is cancelled for that too. -/
theorem told_child {caller : ScopeId} (settled : t.forest.Settled) (timeout : Option τ)
    (told : (t.error caller).1 = some cause) :
    IsTold cause (t.child caller timeout).2 t.forest.size := by
  have asked := Timeline.cause?_of_fst_error told
  rw [Timeline.error_snd] at asked
  exact (Forest.cause?_child_new timeout settled (lt_size_of_told told)).trans asked

/-- Below a cancelled scope every probe has one that is cancelled for the same cause. -/
theorem handsDown_told (r : Runner τ σ) (cause : Fault) :
    HandsDown r (IsTold cause) (IsTold cause) where
  made told := Forest.lt_size_of_cause? told
  root_made told := Forest.lt_size_of_cause? told
  stays follows told := follows.cause?_of_some told
  root_stays follows told := follows.cause?_of_some told
  enters _ settled _ told := told_child settled _ (Timeline.fst_error_of_cause? told)
  derives timeout settled _ told := told_child settled timeout (Timeline.fst_error_of_cause? told)

end Job

namespace Crew

variable {setting : Entry τ → World.Setting τ} {r : Runner τ σ} {limit : τ}
  {R P : Timeline τ → ScopeId → Prop} {entries : List (Entry τ)} {caller : ScopeId} {size : Nat}
  {marks : List (Nat × Mark)} {c c' : Crew τ σ} {s : Step τ} {steps : List (Step τ)} {k : Nat}

/-! ### Batches go on -/

/-- A step can be made that is not one of the clock, perhaps after some time has passed. -/
def CanGoOn (setting : Entry τ → World.Setting τ) (r : Runner τ σ) (c : Crew τ σ) : Prop :=
  ∃ times s c', (∀ time ∈ times, time.isClock) ∧ s.isClock = false ∧
    c.run setting r (times ++ [s]) = some c'

/-- A probe runs a check that does not come back. -/
def IsStuck (setting : Entry τ → World.Setting τ) (c : Crew τ σ) : Prop :=
  ∃ (k : Nat) (entry : Entry τ) (job : Job τ σ), c.pool.tasks[k]? = some ⟨entry, .running⟩ ∧
    c.jobs[k]? = some job ∧ job.IsStuck (setting entry) c.world

/-- A batch runs out, whatever the order of its steps: unless the caller has left, it can go on or a
probe keeps it by running a check that does not come back; and from wherever a step leads that is
not one of the clock, whatever the clock has done before it, the batch runs out. -/
inductive RunsOut (setting : Entry τ → World.Setting τ) (r : Runner τ σ) : Crew τ σ → Prop
  | final {c : Crew τ σ} : c.pool.IsFinal → RunsOut setting r c
  | goesOn {c : Crew τ σ} : c.CanGoOn setting r ∨ c.IsStuck setting →
      (∀ {times : List (Step τ)} {s : Step τ} {c' : Crew τ σ}, (∀ time ∈ times, time.isClock) →
        s.isClock = false → c.run setting r (times ++ [s]) = some c' → RunsOut setting r c') →
      RunsOut setting r c

omit [Clock.Ordered τ] in
theorem canGoOn_of_step (other : s.isClock = false) (makes : c.step setting r s = some c') :
    c.CanGoOn setting r :=
  ⟨[], s, c', nofun, other, isRun.head makes (isRun.nil c')⟩

omit [Clock.Ordered τ] in
/-- A probe that waits goes on once the scope is found to be cancelled that it waits for. -/
theorem canGoOn_of_waiting {entry : Entry τ} {frame : Frame τ} {awaited : ScopeId}
    {until_ : Option τ} {next : Bool → Probe τ} {now : τ}
    (running : c.pool.tasks[k]? = some ⟨entry, .running⟩)
    (here : c.jobs[k]? = some (.waiting frame awaited until_ next))
    (asked : (Timeline.isCancelled { c.world.line with
      now := Clock.later c.world.line.now now } awaited).1 = true) : c.CanGoOn setting r := by
  let later : Timeline τ := { c.world.line with now := Clock.later c.world.line.now now }
  obtain ⟨world, wakes⟩ : ∃ world, (.waiting frame awaited until_ next : Job τ σ).step
      (setting entry) r entry c.scope { c.world with line := later } =
        some (.acting frame (next true), world) := Job.exists_step_of_asked asked
  have works : (c.withLine later).step setting r (.work k) =
      some { c with jobs := c.jobs.set k (.acting frame (next true)), world } := by
    simp only [step, withLine, running, here, wakes, Option.map_some]
  refine ⟨[.later now], .work k, _, ?_, rfl, isRun.head rfl (isRun.head works (isRun.nil _))⟩
  intro time mem
  rw [List.mem_singleton.mp mem]
  rfl

/-- Unless the caller has left, a batch can go on, or a probe keeps it by running a check that does
not come back. -/
theorem UnderWay.goesOn (underWay : c.UnderWay r R P entries caller marks)
    (wakes : Job.Wakes P) (workers : 0 < c.pool.size) (slotted : c.pool.Slotted size entries)
    (gathered : c.pool.Gathered) (unfinished : ¬ c.pool.IsFinal) :
    c.CanGoOn setting r ∨ c.IsStuck setting := by
  rcases exists_step_or_blocked r setting workers slotted gathered underWay.toPaired unfinished with
    ⟨s, c', other, makes⟩ | ⟨k, entry, job, there, here, going, blocked⟩
  · exact .inl (canGoOn_of_step other makes)
  rcases Job.exists_step (setting entry) r entry c.scope job c.world with ⟨result, ended⟩ |
    ⟨job', world, makes⟩ | ⟨frame, awaited, until_, next, rfl⟩ | stuck
  · exact absurd ended (going result)
  · rw [blocked] at makes
    cases makes
  · have placed := underWay.placed _ (List.mem_of_getElem? here)
    obtain ⟨now, asked⟩ := wakes underWay.isTime placed.2
    exact .inl (canGoOn_of_waiting there here asked)
  · exact .inr ⟨k, entry, job, there, here, stuck⟩

/-! ### Batches run out -/

section RunsOut

variable (down : Job.HandsDown r R P) (wakes : Job.Wakes P)
  (nests : ∀ entry, Job.NestsOn (setting entry)) (deadline : r.timeout.seconds? = .ok limit)
  (stamps : ∀ now, ∃ stamp, r.stamp now = .ok stamp) (workers : 1 ≤ size)
include down wakes nests deadline stamps workers

/-- Every batch on its way runs out: by induction on what is left to do. -/
theorem UnderWay.runsOut (underWay : c.UnderWay r R P entries caller marks)
    (slotted : c.pool.Slotted size entries) (gathered : c.pool.Gathered) : c.RunsOut setting r := by
  induction left : c.left using (less_wellFounded r).induction generalizing c marks with
  | h _ ih =>
      subst left
      by_cases final : c.pool.IsFinal
      · exact .final final
      have size_pos : 0 < c.pool.size := slotted.size_eq ▸ workers
      refine .goesOn (underWay.goesOn wakes size_pos slotted gathered final) ?_
      intro times s c' clock other runs
      have later := run_underWay down nests deadline stamps underWay runs
      obtain ⟨made, pool, -⟩ := pool_run runs
      exact ih _ (run_left gathered clock other runs) later
        (Pool.isRun.invariant Pool.slotted_step pool slotted)
        (Pool.isRun.invariant Pool.gathered_step pool gathered) rfl

end RunsOut

end Crew

end Checkup
