import Checkup.Proofs.Clock.Doubles
import Checkup.Proofs.Runner.Progress

/-!
A batch on one worker, against its checks one by one.

One worker has one job under way at most. So in virtual time the clock goes on only as far as that
job waits (`stepInTime`). What remains open is which step is made next, and with it the order in
which the caller collects its records. But entries are taken up in turn, and each job finds the
world as the one before it has left it (`Ahead`). What one step leaves, the next goes on from, until
the caller has left (`EndsIn`).

Main statements: `run_of_stepInTime` (a step in virtual time is one of the batch, after time has
passed), `InTurn.step` and `InTurn.leave` (what a step keeps and how the last one ends),
`InTurn.exists_step` and `oneWorker_returns_runEach`.
-/

namespace Checkup

open Clock (IsTime IsSpan)
open Runner (Timed)

variable {τ σ : Type} [Clock τ]

namespace Crew

variable {setting : Entry τ → World.Setting τ} {r : Runner τ σ} {entries : List (Entry τ)}
  {c c' : Crew τ σ} {s : Step τ} {k : Nat} {P Q : Crew τ σ → Prop}

/-! ### Virtual time -/

/-- Makes a step in virtual time, where one job at most is under way: for a step of that job the
clock goes on as far as it waits, and otherwise the clock stands. -/
def stepInTime (setting : Entry τ → World.Setting τ) (r : Runner τ σ) (c : Crew τ σ) :
    Step τ → Option (Crew τ σ)
  | .later _ | .fire _ => none
  | .work k =>
    (c.jobs[k]?.bind fun job => job.whenReady? c.world.line).bind fun line =>
      (c.withLine line).step setting r (.work k)
  | s => c.step setting r s

/-- Whichever steps are made in virtual time, the batch comes to an end at which `P` holds: unless
the caller has left a step can be made, and wherever a step leads the batch comes to such an end. -/
inductive EndsIn (setting : Entry τ → World.Setting τ) (r : Runner τ σ) (P : Crew τ σ → Prop) :
    Crew τ σ → Prop
  | final {c : Crew τ σ} : c.pool.IsFinal → P c → EndsIn setting r P c
  | goesOn {c : Crew τ σ} : (∃ s c', c.stepInTime setting r s = some c') →
      (∀ s c', c.stepInTime setting r s = some c' → EndsIn setting r P c') → EndsIn setting r P c

/-- All that a step in virtual time needs and does. -/
inductive MoveInTime (setting : Entry τ → World.Setting τ) (r : Runner τ σ) (c : Crew τ σ) :
    Step τ → Crew τ σ → Prop
  | pool {s : Step τ} {c' : Crew τ σ} : s.isClock = false → (∀ k, s ≠ .work k) →
      c.step setting r s = some c' → MoveInTime setting r c s c'
  | work (k : Nat) (entry : Entry τ) (job job' : Job τ σ) (t : Timeline τ) (world : World τ) :
      c.pool.tasks[k]? = some ⟨entry, .running⟩ → c.jobs[k]? = some job →
      job.whenReady? c.world.line = some t →
      job.step (setting entry) r entry c.scope { c.world with line := t } = some (job', world) →
      MoveInTime setting r c (.work k) { c with jobs := c.jobs.set k job', world }

/-- A step in time is one of those that `MoveInTime` names. -/
theorem moveInTime_of_step (makes : c.stepInTime setting r s = some c') :
    c.MoveInTime setting r s c' := by
  cases s with
  | later | fire => cases makes
  | work k =>
      obtain ⟨t, ready, makes⟩ := Option.bind_eq_some_iff.mp makes
      obtain ⟨job, here, ready⟩ := Option.bind_eq_some_iff.mp ready
      cases move_of_step makes with
      | pool pool isStep => cases isStep
      | work _ entry job' _ world running there works =>
          obtain rfl : job = job' := Option.some.inj (here.symm.trans there)
          exact .work k entry job _ t world running here ready works
  | _ => exact .pool rfl (by rintro k ⟨⟩) makes

/-- A step in virtual time is a step of the batch, after some time has passed. -/
theorem run_of_stepInTime (makes : c.stepInTime setting r s = some c') :
    ∃ steps, c.run setting r (steps ++ [s]) = some c' := by
  cases moveInTime_of_step makes with
  | pool _ _ makes => exact ⟨[], isRun.head makes (isRun.nil _)⟩
  | work k entry job job' t world running here ready works =>
      obtain ⟨u, passes, works⟩ := Job.exists_elapses ready works
      obtain ⟨steps, elapses⟩ := run_elapses setting r c passes
      refine ⟨steps, isRun.append elapses (isRun.head ?_ (isRun.nil _))⟩
      have step : (c.withLine u).step setting r (.work k) =
          some { c with jobs := c.jobs.set k job', world } := by
        simp only [Crew.step, withLine, running, here, works, Option.map_some]
      exact step

/-- A step in virtual time leaves less to do. -/
theorem stepInTime_left (gathered : c.pool.Gathered) (makes : c.stepInTime setting r s = some c') :
    Less r c'.left c.left := by
  cases moveInTime_of_step makes with
  | pool other _ makes => exact step_left gathered other makes
  | work k entry job job' t world running here ready works =>
      have made : (c.withLine t).step setting r (.work k) =
          some { c with jobs := c.jobs.set k job', world } := by
        simp only [step, withLine, running, here, works, Option.map_some]
      exact step_left (c := c.withLine t) gathered rfl made

/-! ### Entries in turn -/

/-- Entries are run in turn: each job leads to a record, and leaves the world to the job after it.
An entry that is not submitted has no job yet. -/
inductive Ahead (setting : Entry τ → World.Setting τ) (r : Runner τ σ) (scope : ScopeId) :
    List (Entry τ) → List (Job τ σ) → World τ → List (Record σ) → World τ → Prop
  | nil (w : World τ) : Ahead setting r scope [] [] w [] w
  | job {entry : Entry τ} {entries : List (Entry τ)} {job : Job τ σ} {jobs : List (Job τ σ)}
      {record : Record σ} {records : List (Record σ)} {w w' w'' : World τ} :
      job.LeadsTo (setting entry) r entry scope w (.ended (.ok record)) w' →
      Ahead setting r scope entries jobs w' records w'' →
      Ahead setting r scope (entry :: entries) (job :: jobs) w (record :: records) w''
  | entry {entry : Entry τ} {entries : List (Entry τ)} {record : Record σ}
      {records : List (Record σ)} {w w' w'' : World τ} :
      Job.LeadsTo (setting entry) r entry scope .fresh w (.ended (.ok record)) w' →
      Ahead setting r scope entries [] w' records w'' →
      Ahead setting r scope (entry :: entries) [] w (record :: records) w''

namespace Ahead

variable {scope : ScopeId} {jobs : List (Job τ σ)} {records : List (Record σ)} {w w'' : World τ}

/-- What checks one by one return is ahead of a batch that is about to begin. -/
theorem of_runEach (services : Array (Service τ σ)) (entries : List (Entry τ))
    (returned : (r.runEach services scope entries w).1 = records.map Outcome.returned) :
    Ahead (Runner.settingOf services) r scope entries [] w records
      (r.runEach services scope entries w).2 := by
  induction entries generalizing w records with
  | nil =>
      rw [List.map_eq_nil_iff.mp returned.symm]
      exact .nil w
  | cons entry rest ih =>
      obtain ⟨record, records, rfl, first, later⟩ := List.map_eq_cons_iff.mp returned.symm
      have first : (r.runOne services entry scope w).1 = .returned record := first.symm
      obtain ⟨result, comes, leads⟩ := Job.executeIn_leadsTo (Runner.settingOf services entry) r
        entry scope w (fun stalled => by cases first.symm.trans stalled)
      obtain rfl : result = .ok record := by
        cases result with
        | ok value => cases first.symm.trans comes; rfl
        | error fault => cases first.symm.trans comes
      exact .entry leads (ih later.symm)

/-- The next entry is submitted. -/
theorem submit (ahead : Ahead setting r scope entries jobs w records w'')
    (more : jobs.length < entries.length) :
    Ahead setting r scope entries (jobs ++ [.fresh]) w records w'' := by
  induction ahead with
  | nil => cases more
  | job leads _ ih => exact .job leads (ih (Nat.lt_of_succ_lt_succ more))
  | entry leads rest => exact .job leads rest

/-- A job leads to its record where those before it have ended, and may take the place of another
that leads there. -/
theorem turn {entry : Entry τ} {job : Job τ σ}
    (ahead : Ahead setting r scope entries jobs w records w'') (at' : entries[k]? = some entry)
    (here : jobs[k]? = some job)
    (before : ∀ j, j < k → ∃ result, jobs[j]? = some (.ended result)) :
    ∃ record w', job.LeadsTo (setting entry) r entry scope w (.ended (.ok record)) w' ∧
      ∀ job' v, Job.LeadsTo (setting entry) r entry scope job' v (.ended (.ok record)) w' →
        Ahead setting r scope entries (jobs.set k job') v records w'' := by
  induction ahead generalizing k with
  | nil | entry => cases here
  | @job first _ _ _ _ _ w w' _ leads rest ih =>
      cases k with
      | zero =>
          cases at'
          cases here
          exact ⟨_, w', leads, fun job' v leads' => .job leads' rest⟩
      | succ k =>
          obtain ⟨result, ended⟩ := before 0 (Nat.succ_pos k)
          cases ended
          obtain ⟨⟨⟩, rfl⟩ := leads.eq_of_ended
          obtain ⟨record, w₁, leads₁, takes⟩ := ih at' here fun j less =>
            before (j + 1) (Nat.succ_lt_succ less)
          exact ⟨record, w₁, leads₁, fun job' v leads' => .job (.refl ..) (takes job' v leads')⟩

/-- Where all have ended, there are the records, and the world is the one that is left. -/
theorem of_ended (ahead : Ahead setting r scope entries jobs w records w'')
    (length_eq : jobs.length = entries.length)
    (ended : ∀ job ∈ jobs, ∃ result, job = .ended result) :
    jobs = records.map (fun record => .ended (.ok record)) ∧ w'' = w := by
  induction ahead with
  | nil => exact ⟨rfl, rfl⟩
  | entry => cases length_eq
  | job leads _ ih =>
      obtain ⟨result, rfl⟩ := ended _ List.mem_cons_self
      obtain ⟨⟨⟩, rfl⟩ := leads.eq_of_ended
      obtain ⟨rfl, rfl⟩ := ih (Nat.succ.inj length_eq) fun job mem =>
        ended job (List.mem_cons_of_mem _ mem)
      exact ⟨rfl, rfl⟩

end Ahead

/-! ### One worker -/

/-- A batch is under way on one worker, which has `records` and the world `w'` ahead. -/
structure InTurn (setting : Entry τ → World.Setting τ) (r : Runner τ σ) (entries : List (Entry τ))
    (records : List (Record σ)) (w' : World τ) (c : Crew τ σ) : Prop
    extends c.Paired entries where
  unfinished : ¬ c.pool.IsFinal
  slotted : c.pool.Slotted 1 entries
  gathered : c.pool.Gathered
  oneByOne : c.pool.OneByOne
  ahead : Ahead setting r c.scope entries c.jobs c.world records w'

namespace InTurn

variable {records : List (Record σ)} {w' : World τ}

theorem start (services : Array (Service τ σ)) (r : Runner τ σ) (entries : List (Entry τ))
    (caller : ScopeId) (w : World τ)
    (returned : (r.runEach services (w.line.child caller none).1 entries
      { w with line := (w.line.child caller none).2 }).1 = records.map Outcome.returned) :
    InTurn (Runner.settingOf services) r entries records
      (r.runEach services (w.line.child caller none).1 entries
        { w with line := (w.line.child caller none).2 }).2 (.start 1 entries caller w) where
  itemized := Pool.itemized_start 1 entries
  length_eq := rfl
  results := by
    intro k result done
    cases done
  unfinished := by
    rintro ⟨fault, left⟩
    cases left
  slotted := Pool.slotted_start 1 entries
  gathered := Pool.gathered_start 1 entries
  oneByOne := Pool.oneByOne_start 1 entries
  ahead := Ahead.of_runEach services entries returned

variable (inTurn : c.InTurn setting r entries records w')
include inTurn

/-- The jobs before that of a task that has begun have ended. -/
theorem before {entry : Entry τ} (running : c.pool.tasks[k]? = some ⟨entry, .running⟩) (j : Nat)
    (less : j < k) : ∃ result, c.jobs[j]? = some (.ended result) := by
  have begun : c.pool.HasBegun k :=
    ⟨.running, by rw [Pool.stage?, running, Option.map_some], Bool.false_ne_true⟩
  obtain ⟨result, done⟩ := inTurn.oneByOne j k less begun
  exact ⟨result, inTurn.results done⟩

/-- A step can be made. -/
theorem exists_step : ∃ s c', c.stepInTime setting r s = some c' := by
  have workers : 0 < c.pool.size := by
    rw [inTurn.slotted.size_eq]
    exact Nat.one_pos
  rcases exists_step_or_works r setting workers inTurn.slotted inTurn.gathered inTurn.toPaired
    inTurn.unfinished with ⟨s, c', other, notJob, makes⟩ | ⟨k, entry, job, running, here, going⟩
  · refine ⟨s, c', ?_⟩
    cases s with
    | later | fire => cases other
    | work k => exact absurd rfl (notJob k)
    | _ => exact makes
  · obtain ⟨record, w', leads, -⟩ := inTurn.ahead.turn (inTurn.itemized.item_eq running) here
      (inTurn.before running)
    obtain ⟨t, job', world, ready, works⟩ := leads.exists_step going
    refine ⟨.work k, { c with jobs := c.jobs.set k job', world }, ?_⟩
    simp only [stepInTime, here, Option.bind_some, ready, step, withLine, running, works,
      Option.map_some]

/-- A step of the pool keeps what holds of it, while the jobs stay paired and in turn. -/
theorem onPool {s : Pool.Step (Record σ)} (steps : c.pool.step s = some c'.pool)
    (paired : c'.Paired entries) (unfinished : ¬ c'.pool.IsFinal)
    (ahead : Ahead setting r c'.scope entries c'.jobs c'.world records w') :
    c'.InTurn setting r entries records w' where
  toPaired := paired
  unfinished := unfinished
  slotted := Pool.slotted_step inTurn.slotted steps
  gathered := Pool.gathered_step inTurn.gathered steps
  oneByOne := Pool.oneByOne_step (Nat.le_of_eq inTurn.slotted.size_eq) inTurn.oneByOne steps
  ahead := ahead

/-- A step by which the caller does not leave keeps all this. -/
theorem step (makes : c.stepInTime setting r s = some c') (unfinished : ¬ c'.pool.IsFinal) :
    c'.InTurn setting r entries records w' := by
  cases moveInTime_of_step makes with
  | work k entry job job' t world running here ready works =>
      obtain ⟨record, w₁, leads, takes⟩ := inTurn.ahead.turn (inTurn.itemized.item_eq running) here
        (inTurn.before running)
      exact { inTurn with
        toPaired := inTurn.toPaired.work job' world running
        ahead := takes job' world (leads.tail ready works) }
  | pool other notJob makes =>
      cases move_of_step makes with
      | later | fire => cases other
      | work k => exact absurd rfl (notJob k)
      | leave pool steps =>
          refine absurd ?_ unfinished
          cases Pool.move_of_step steps with
          | leave | leaveFailing => exact ⟨_, rfl⟩
      | pool pool isStep steps =>
          have paired : ({ c with pool } : Crew τ σ).Paired entries :=
            inTurn.toPaired.of_pool steps (by cases isStep <;> rintro ⟨⟩) (by
              rintro k result rfl
              cases isStep
              assumption)
          exact inTurn.onPool steps paired unfinished inTurn.ahead
      | submit pool steps =>
          have paired := inTurn.toPaired.submit steps
          have more : c.jobs.length < entries.length := by
            have within : pool.tasks.length ≤ entries.length := by
              rw [← paired.itemized.items_eq]
              simp only [List.length_append, List.length_map]
              omega
            have grown := paired.length_eq
            rw [List.length_append, List.length_singleton] at grown
            exact Nat.lt_of_lt_of_le (Nat.lt_of_lt_of_eq (Nat.lt_succ_self _) grown) within
          exact inTurn.onPool steps paired unfinished (inTurn.ahead.submit more)

/-- When the caller leaves it has the records, in some order, and the clock is where it is in the
end. -/
theorem leave (makes : c.stepInTime setting r s = some c') (final : c'.pool.IsFinal) :
    ∃ collected, c'.outcome? = some (.returned collected) ∧ collected.Perm records ∧
      c'.world.line.now = w'.line.now := by
  cases moveInTime_of_step makes with
  | work => exact absurd final inTurn.unfinished
  | pool other notJob makes =>
      cases move_of_step makes with
      | later | fire => cases other
      | work k => exact absurd rfl (notJob k)
      | submit pool steps =>
          rcases Pool.isFinal_of_step steps final with ⟨⟨⟩⟩ | before
          exact absurd before inTurn.unfinished
      | pool pool isStep steps =>
          rcases Pool.isFinal_of_step steps final with rfl | before
          · cases isStep
          · exact absurd before inTurn.unfinished
      | leave pool steps =>
          have paired : ({ c with pool } : Crew τ σ).Paired entries :=
            inTurn.toPaired.of_pool steps (by rintro ⟨⟩) (by rintro k result ⟨⟩)
          have all := Pool.allReleased_step (fun before => absurd before inTurn.unfinished) steps
            final
          have length_eq : c.jobs.length = entries.length := by
            rw [← Pool.items_of_isFinal paired.itemized final, List.length_map]
            exact paired.length_eq
          obtain ⟨jobs, rfl⟩ := inTurn.ahead.of_ended length_eq (paired.ended_of_allReleased all)
          obtain ⟨collected, returns, perm⟩ := paired.outcome_of_records jobs
            (Pool.gathered_step inTurn.gathered steps) final
          exact ⟨collected, returns, perm, rfl⟩

/-- The batch comes to its end, whatever the order of its steps: by induction on what is left to
do. -/
theorem endsIn : c.EndsIn setting r (fun c' => ∃ collected,
    c'.outcome? = some (.returned collected) ∧ collected.Perm records ∧
      c'.world.line.now = w'.line.now) := by
  induction left : c.left using (less_wellFounded r).induction generalizing c with
  | h _ ih =>
      subst left
      refine .goesOn inTurn.exists_step fun s c' makes => ?_
      by_cases final : c'.pool.IsFinal
      · exact .final final (inTurn.leave makes final)
      · exact ih _ (stepInTime_left inTurn.gathered makes) (inTurn.step makes final) rfl

end InTurn

end Crew

namespace Runner

variable [Clock.Ordered τ] [Clock.Arrives τ] {w : World τ} {c : ScopeId} {r : Runner τ σ}
  {entries : List (Entry τ)} {limit : τ}

/-- One worker, whatever the order in which it, its tasks and the caller make their steps, and
whatever timers cancel scopes meanwhile for cancellations and deadlines: where probes act only
through the scopes that they are given, wait for times and raise ordinary faults, the batch comes to
an end and returns, in some order, the records that running its checks one by one under the caller's
scope returns from the same start, and the clock ends at the same time. -/
theorem oneWorker_returns_runEach (deadline : r.timeout.seconds? = .ok limit)
    (span : IsSpan limit) (stamps : ∀ now, ∃ stamp, r.stamp now = .ok stamp)
    (ready : w.line.Ready) (timed : Timed w.line c)
    (targets : ∀ timer ∈ w.line.timers, timer.target < w.line.forest.size)
    (acts : ∀ e ∈ entries, e.probe.IsScoped {}) (orderly : ∀ e ∈ entries, e.probe.IsScoped .orderly)
    (services : Array (Service τ σ)) :
    let single := r.runEach services c entries w
    ∃ records : List (Record σ), records.length = entries.length ∧
      single.1 = records.map Outcome.returned ∧
      (Crew.start 1 entries c w).EndsIn (settingOf services) r fun batch =>
        ∃ collected, batch.outcome? = some (.returned collected) ∧ collected.Perm records ∧
          batch.world.line.now = single.2.line.now := by
  intro single
  obtain ⟨records, length, returned⟩ := runEach_returns stamps deadline span services orderly
    ready timed
  obtain ⟨same, now⟩ := runEach_child deadline ready.settled timed.1 targets acts services
  refine ⟨records, length, returned, ?_⟩
  have inTurn := Crew.InTurn.start services r entries c w (same.trans returned)
  rw [← now]
  exact inTurn.endsIn

/-- A caller with ten seconds left, whose root is cancelled after three. -/
def hurried : World Float where
  line := (({ now := 0.0 } : Timeline Float).background.2.child 0 (some 10.0)).2.setTimer 3.0 0
    (.because .scopeCancelled "shutting down")

/-- Two checks, each of which sleeps for two seconds. -/
def sleepers : List (Entry Float) :=
  [{ check := { name := "first", description := "", category := "nap" }
     probe := .sleep 0 (some 2.0) (.done .none) },
    { check := { name := "second", description := "", category := "nap" }
      probe := .sleep 0 (some 2.0) (.done .none) }]

theorem hurried_batch_returns :
    let r : Runner Float Float := { timeout := .exact 5.0, stamp := .ok }
    let services : Array (Service Float Float) := #[]
    let single := r.runEach services 1 sleepers hurried
    ∃ records : List (Record Float), records.length = 2 ∧
      single.1 = records.map Outcome.returned ∧
      (Crew.start 1 sleepers 1 hurried).EndsIn (settingOf services) r fun batch =>
        ∃ collected, batch.outcome? = some (.returned collected) ∧ collected.Perm records ∧
          batch.world.line.now = single.2.line.now := by
  have root : ({ now := 0.0 } : Timeline Float).background.2.Ready :=
    (Timeline.Ready.start (show Clock.IsMoment (0.0 : Float) from ⟨rfl, nofun⟩)).background
  have first : 0 < ({ now := 0.0 } : Timeline Float).background.2.forest.size := Nat.one_pos
  have ready : hurried.line.Ready := (root.child first (some 10.0)).setTimer 3.0 0 (.inl rfl)
  have size : hurried.line.forest.size = 2 :=
    Timeline.Extends.size_child root.settled first (some 10.0)
  have targets (timer : Timer Float) (mem : timer ∈ hurried.line.timers) :
      timer.target < hurried.line.forest.size := by
    rw [size, List.mem_singleton.mp mem]
    exact Nat.two_pos
  have acts (manner : Manner Float) (waits : manner.waits 2.0)
      (fresh : ∀ fault, manner.hears fault → manner.raises fault.fresh) (e : Entry Float)
      (mem : e ∈ sleepers) : e.probe.IsScoped manner := by
    have naps : (Probe.sleep 0 (some 2.0) (.done .none)).IsScoped manner :=
      Probe.isScoped_sleep (fun _ given => Option.some.inj given ▸ waits) fresh (.done .none)
    rcases List.mem_cons.mp mem with rfl | mem
    · exact naps
    · rw [List.mem_singleton.mp mem]
      exact naps
  have caller : 1 < hurried.line.forest.size := size ▸ Nat.one_lt_two
  have timed (deadline : Float) (known : hurried.line.forest.deadline? 1 = some deadline) :
      IsTime deadline := by
    obtain rfl : (0.0 + 10.0 : Float) = deadline := Option.some.inj known
    rfl
  exact oneWorker_returns_runEach rfl rfl (fun now => ⟨now, rfl⟩) ready ⟨caller, timed⟩ targets
    (acts {} trivial fun _ _ => trivial) (acts .orderly rfl fun _ => Fault.isOrdinary_fresh) #[]

end Runner

end Checkup
