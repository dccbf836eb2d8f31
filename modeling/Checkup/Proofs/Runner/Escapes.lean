import Checkup.Proofs.Runner.Ends

/-!
A fault that ends the whole program, raised in a batch.

Such a fault is not caught where a check runs. Its task comes to it instead of a record, closes its
scope all the same and gives its slot back, so the caller, which may be waiting for that slot, goes
on with the entries that are left. Only when it collects does it find the fault, and it leaves with
that when no task is left.

Main statement: `escape_comes_last`.
-/

namespace Checkup.Runner

open Clock (IsTime IsSpan)

variable {τ σ : Type} [Clock τ] [Clock.Ordered τ] [Clock.Arrives τ]
  {services : Array (Service τ σ)} {r : Runner τ σ} {limit : τ} {entries : List (Entry τ)}
  {caller : ScopeId} {size : Nat} {w : World τ} {steps : List (Crew.Step τ)} {c : Crew τ σ}

/-- However the steps of a batch follow each other, it runs out, given a caller whose deadline is a
time if it has one. Once the caller has left, every entry was taken, and its probe was called once,
under a scope below that of the batch, and has come to an end once; all slots are free; the scope
of the batch hangs below the caller's, and it and all that hangs below it is cancelled and linked
nowhere. And where one probe has raised what is not to be caught, and no other has, the caller
raises that. -/
theorem escape_comes_last (deadline : r.timeout.seconds? = .ok limit) (span : IsSpan limit)
    (stamps : ∀ now, ∃ stamp, r.stamp now = .ok stamp) (workers : 1 ≤ size)
    (settled : w.line.forest.Settled) (isTime : IsTime w.line.now)
    (made : caller < w.line.forest.size)
    (runs : (Crew.start size entries caller w).run (settingOf services) r steps = some c) :
    let told := (Crew.start size entries caller w : Crew τ σ).told (settingOf services) r steps
    let forest := c.world.line.forest
    (Timed w.line caller → c.RunsOut (settingOf services) r) ∧
    (c.pool.IsFinal →
      (c.pool.ahead = [] ∧ c.pool.tasks.map Task.item = entries) ∧
      (∀ k entry, entries[k]? = some entry →
        ∃ own outcome, CalledOnce told k own outcome ∧ forest.Above c.scope own) ∧
      (∀ k, entries.length ≤ k → Mark.of k told = []) ∧
      (c.pool.allReleased ∧ c.pool.slots = size) ∧
      (forest.parent? c.scope = some caller ∧
        ∀ s, forest.Above c.scope s → (forest.cause? s).isSome ∧ ∀ p, s ∉ forest.children p) ∧
      ∀ k entry own fault, entries[k]? = some entry → CalledOnce told k own (.raised fault) →
        fault.isOrdinary = false →
        (∀ j own outcome, j ≠ k → CalledOnce told j own outcome → outcome.IsOrdinary) →
        c.outcome? = some (.raised fault)) := by
  intro told forest
  have nests := Job.nestsOn_settingOf services
  obtain ⟨poolSteps, poolRuns, -⟩ := Crew.pool_run runs
  have gathered := Pool.gathered_run poolRuns
  have slotted := Pool.slotted_run poolRuns
  refine ⟨fun timed => ?_, fun final => ?_⟩
  · have down := Job.handsDown_expires deadline span
    have underWay := Crew.UnderWay.of_run down nests deadline stamps settled isTime made
      (Job.timed_child settled timed) runs
    exact underWay.runsOut down Job.wakes_expires nests deadline stamps workers slotted gathered
  · have underWay := Crew.UnderWay.of_made nests deadline stamps settled isTime made runs
    have all := Pool.allReleased_of_isFinal poolRuns final
    have closed := underWay.closed final
    refine ⟨⟨Pool.ahead_of_isFinal underWay.itemized final,
      Pool.items_of_isFinal underWay.itemized final⟩, fun k entry at' => ?_, fun k beyond => ?_,
      ⟨all, Pool.slots_of_isFinal slotted all final⟩, ⟨underWay.hangs, fun s above => ?_⟩, ?_⟩
    · obtain ⟨own, outcome, _, called, -, -, below⟩ := underWay.called_once final all at'
      exact ⟨own, outcome, called, .ofParent below .self⟩
    · apply underWay.unmarked
      rw [underWay.length_eq, underWay.length_of_isFinal final]
      exact beyond
    · exact ⟨closed.cancelled_below underWay.settled above,
        closed.unlinked_below underWay.settled underWay.hangs above⟩
    · intro k entry own fault at' called escapes others
      exact underWay.outcome_of_escape final gathered at' called escapes others

/-- Three checks, the first of which asks the program to stop. -/
def quitterFirst : List (Entry Rat) :=
  [{ check := { name := "quitter", description := "", category := "exit" }
     probe := .fail { kind := .systemExit } },
    { check := { name := "second", description := "", category := "exit" }
      probe := .done (.int 2) },
    { check := { name := "third", description := "", category := "exit" }
      probe := .fail (.because .valueError "third") }]

/-- One worker takes them one by one; the caller waits for the slot of each before the next. -/
def oneByOne : List (Crew.Step Rat) :=
  [.take, .acquire, .submit, .take, .begin 0, .work 0, .work 0, .work 0, .finish 0, .release 0,
    .acquire, .submit, .take, .begin 1, .work 1, .work 1, .work 1, .work 1, .work 1, .finish 1,
    .release 1, .acquire, .submit, .take, .begin 2, .work 2, .work 2, .work 2, .work 2, .work 2,
    .finish 2, .release 2, .collect 1, .collect 0, .leave]

theorem quitter_comes_last : ∃ c : Crew Rat Rat,
    (Crew.start 1 quitterFirst 0 parent).run (settingOf (σ := Rat) #[]) patient oneByOne =
        some c ∧
      c.outcome? = some (.raised { kind := .systemExit }) ∧ c.pool.slots = 1 := by
  let setting : Entry Rat → World.Setting Rat := settingOf (σ := Rat) #[]
  obtain ⟨c, runs, final⟩ : ∃ c : Crew Rat Rat,
      (Crew.start 1 quitterFirst 0 parent).run setting patient oneByOne = some c ∧
        c.pool.IsFinal := ⟨_, rfl, _, rfl⟩
  let told := (Crew.start 1 quitterFirst 0 parent : Crew Rat Rat).told setting patient oneByOne
  obtain ⟨first, second, third, each⟩ : ∃ first second third,
      told = [(0, .called first), (0, .came (.raised { kind := .systemExit })),
        (1, .called second), (1, .came (.returned (.int 2))),
        (2, .called third), (2, .came (.raised (.because .valueError "third")))] := ⟨_, _, _, rfl⟩
  have made : 0 < parent.line.forest.size := by cbv
  obtain ⟨-, done⟩ := escape_comes_last rfl trivial (fun now => ⟨now, rfl⟩) (Nat.le_refl 1)
    settled_parent trivial made runs
  obtain ⟨-, called, -, ⟨-, slots⟩, -, raises⟩ := done final
  obtain ⟨own, outcome, quits, -⟩ := called 0 _ rfl
  have came : (0, .came outcome) ∈ told := quits.came_mem
  obtain rfl : outcome = .raised { kind := .systemExit } := by simpa [each] using came
  refine ⟨c, runs, raises 0 _ own _ rfl quits rfl fun j own' outcome' other called' => ?_, slots⟩
  have came' : (j, .came outcome') ∈ told := called'.came_mem
  have later : (j = 1 ∧ outcome' = .returned (.int 2)) ∨
      (j = 2 ∧ outcome' = .raised (.because .valueError "third")) := by
    simpa [each, other] using came'
  rcases later with ⟨-, rfl⟩ | ⟨-, rfl⟩
  · exact .inl ⟨_, rfl⟩
  · exact .inr ⟨_, rfl, rfl⟩

end Checkup.Runner
