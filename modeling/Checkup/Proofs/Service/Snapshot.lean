import Checkup.Proofs.Runner.Registrars
import Checkup.Proofs.Service.Returns

/-!
Runs are snapshots.

A run goes by the entries that are registered when it is asked for. What its checks register and
take away meanwhile makes no difference to it, whichever entries that concerns; it takes effect at
once, and the next run goes by it.

Main statement: `runs_are_snapshots`.
-/

namespace Checkup

variable {τ σ : Type} [Clock τ]

open Registry (Write)

/-! ### Registrars behave -/

theorem Runner.allBehave_of_isRegistrar {services : Array (Service τ σ)} {r : Runner τ σ}
    {limit : τ} {scope : ScopeId} {entries : List (Entry τ)} {w : World τ}
    (acts : ∀ entry ∈ entries, entry.probe.IsRegistrar) :
    AllBehave services r limit scope entries w := by
  induction entries generalizing w with
  | nil => trivial
  | cons entry rest ih =>
      refine ⟨?_, ih fun other mem => acts other (List.mem_cons_of_mem entry mem)⟩
      rw [Behaves, probeRun_eq]
      exact World.runProbe_isOrdinary (acts entry List.mem_cons_self) ..

namespace Service

open Runner (settingOf)

variable {services : Array (Service τ σ)} {s : Service τ σ} {limit : τ} {scope : Option ScopeId}
  {category : Option String} {w w' : World τ}

/-! ### What is asked for -/

/-- The entries that a run is asked for: those of a category, or all. -/
def asked (s : Service τ σ) (category : Option String) (w : World τ) : List (Entry τ) :=
  category.elim (w.store s.store).all fun category =>
    (w.store s.store).all.filter fun entry => entry.check.category = category

/-- A run of the checks of a category, or of all. -/
def runOf (services : Array (Service τ σ)) (s : Service τ σ) (category : Option String)
    (scope : Option ScopeId) (w : World τ) : Outcome (List (Record σ)) × World τ :=
  category.elim (s.run services scope w) fun category => s.runCategory services category scope w

/-- The run of the checks of a category, or of all, as a pool of workers begins it. -/
def crew (s : Service τ σ) (size : Nat) (category : Option String) (scope : Option ScopeId)
    (w : World τ) : Crew τ σ :=
  .start size (s.asked category w) (scopeOr scope w).1
    ((scopeOr scope w).2.note (.batchStarted (s.asked category w).length (category.getD "all")))

/-! ### Snapshots -/

/-- What a run of workers has come to after some steps: it comes to its end, and the registry is the
one before with the writes that have succeeded. In the end the entries that were asked for, and no
others, have been executed, each once, and there is a record of each, all of which the caller
has. -/
structure IsSnapshot (services : Array (Service τ σ)) (s : Service τ σ) (category : Option String)
    (w : World τ) (begins : Crew τ σ) (steps : List (Crew.Step τ)) (c : Crew τ σ) : Prop where
  comesToEnd : c.ComesToEnd (settingOf services) s.runner
  store_eq : c.world.store s.store = Write.after (w.store s.store)
    (Write.successful (w.store s.store) (begins.writes (settingOf services) s.runner steps))
  executed : c.pool.IsFinal → c.pool.tasks.map Task.item = s.asked category w ∧
    (Crew.begun steps).Perm (List.range (s.asked category w).length)
  records : c.pool.IsFinal → ∃ records : List (Record σ),
    c.jobs = records.map (fun record => .ended (.ok record)) ∧
    records.map Record.check = (s.asked category w).map Entry.check ∧
    ∃ collected, c.outcome? = some (.returned collected) ∧ collected.Perm records

/-- Every run that is begun in a world is a snapshot, whichever checks it is asked for and whatever
the scope: as a pool of workers makes it, however their steps are ordered, and in order, where it is
one of these and the records are in the order of the entries. -/
structure Snapshots (services : Array (Service τ σ)) (s : Service τ σ) (w : World τ) : Prop where
  crew (category : Option String) (scope : Option ScopeId) {size : Nat} (workers : 1 ≤ size)
    {steps : List (Crew.Step τ)} {c : Crew τ σ} :
    (s.crew size category scope w).run (settingOf services) s.runner steps = some c →
    s.IsSnapshot services category w (s.crew size category scope w) steps c
  inOrder (category : Option String) (scope : Option ScopeId) {size : Nat} (workers : 1 ≤ size) :
    ∃ records steps c, (s.runOf services category scope w).1 = .returned records ∧
      records.map Record.check = (s.asked category w).map Entry.check ∧
      (s.crew size category scope w).run (settingOf services) s.runner steps = some c ∧
      c.outcome? = some (.returned records) ∧
      c.world.stores = (s.runOf services category scope w).2.stores ∧
      s.IsSnapshot services category w (s.crew size category scope w) steps c
  /-- There is no record just where no check of the category is registered. -/
  empty (category : String) (scope : Option ScopeId) :
    (s.runCategory services category scope w).1 = .returned [] ↔
      ∀ entry ∈ (w.store s.store).all, entry.check.category ≠ category

/-- The worlds that runs leave, one after the other. What else there is but registries may change
between them. -/
inductive Follows (services : Array (Service τ σ)) (s : Service τ σ) (w : World τ) :
    World τ → Prop
  | start {w' : World τ} : w'.stores = w.stores → Follows services s w w'
  | run {w' w'' : World τ} (category : Option String) (scope : Option ScopeId) :
      Follows services s w w' → w''.stores = (s.runOf services category scope w').2.stores →
      Follows services s w w''
  | crew {w' w'' : World τ} (category : Option String) (scope : Option ScopeId) {size : Nat}
      {steps : List (Crew.Step τ)} {c : Crew τ σ} : Follows services s w w' → 1 ≤ size →
      (s.crew size category scope w').run (settingOf services) s.runner steps = some c →
      c.pool.IsFinal → w''.stores = c.world.stores → Follows services s w w''

/-! ### Runs in order -/

omit [Clock τ] in
theorem stores_scopeOr (scope : Option ScopeId) (w : World τ) :
    (scopeOr scope w).2.stores = w.stores := by
  cases scope <;> rfl

omit [Clock τ] in
/-- The batch of a run begins among registrars. -/
theorem registrars_begun (registrars : w.Registrars services s.store) (scope : Option ScopeId)
    (e : Event τ) : ((scopeOr scope w).2.note e).Registrars services s.store :=
  registrars.of_stores_eq (stores_scopeOr scope w)

theorem stores_runBatch {label : String} {entries : List (Entry τ)} :
    (s.runBatch services label entries scope w).2.stores =
      (s.runner.runAll services entries (scopeOr scope w).1
        ((scopeOr scope w).2.note (.batchStarted entries.length label))).2.stores := by
  unfold runBatch
  dsimp only
  split
  · rename_i ran
    rw [ran]
    rfl
  · rename_i ran
    rw [ran]

omit [Clock τ] in
/-- What is asked for of a registry made by calls: what is in the bucket of the category. -/
theorem asked_some (reached : ∃ history, w.store s.store = Write.after {} history)
    (category : String) :
    s.asked (some category) w = ((w.store s.store).ofCategory? category).getD [] := by
  obtain ⟨history, reached⟩ := reached
  have tracks := Registry.tracks_trace (τ := τ) Registry.tracks_empty history
  rw [← reached] at tracks
  exact tracks.filter_all category

omit [Clock τ] in
/-- What is asked for is registered. -/
theorem mem_all_of_mem_asked {entry : Entry τ} (mem : entry ∈ s.asked category w) :
    entry ∈ (w.store s.store).all := by
  cases category with
  | none => exact mem
  | some category => exact List.mem_of_mem_filter mem

/-- A run is that of a batch, also where it is not begun because there is nothing to run. -/
theorem runOf_eq_runBatch (services : Array (Service τ σ))
    (reached : ∃ history, w.store s.store = Write.after {} history)
    (category : Option String) (scope : Option ScopeId) :
    (s.runOf services category scope w).1 =
        (s.runBatch services (category.getD "all") (s.asked category w) scope w).1 ∧
      (s.runOf services category scope w).2.stores =
        (s.runBatch services (category.getD "all") (s.asked category w) scope w).2.stores := by
  cases category with
  | none => exact ⟨rfl, rfl⟩
  | some category =>
      rw [asked_some reached, runOf, Option.elim_some, runCategory]
      cases (w.store s.store).ofCategory? category with
      | some entries => exact ⟨rfl, rfl⟩
      | none =>
          constructor
          · rw [fst_runBatch]
            rfl
          · rw [stores_runBatch]
            exact (stores_scopeOr scope w).symm

section Scheduled

variable (deadline : s.runner.timeout.seconds? = .ok limit)
  (stamps : ∀ now, ∃ stamp, s.runner.stamp now = .ok stamp) {size : Nat} (workers : 1 ≤ size)
include deadline stamps workers

/-- A batch of registrars in order is one order of the steps of workers. -/
theorem runBatch_is_scheduled (services : Array (Service τ σ)) {entries : List (Entry τ)}
    (acts : ∀ entry ∈ entries, entry.probe.IsRegistrar) (label : String)
    (scope : Option ScopeId) (w : World τ) :
    ∃ records steps c, (s.runBatch services label entries scope w).1 = .returned records ∧
      records.map Record.check = entries.map Entry.check ∧
      (Crew.start size entries (scopeOr scope w).1
        ((scopeOr scope w).2.note (.batchStarted entries.length label))).run
          (settingOf services) s.runner steps = some c ∧
      c.outcome? = some (.returned records) ∧
      c.world.stores = (s.runBatch services label entries scope w).2.stores := by
  obtain ⟨records, returned, checks⟩ : ∃ records,
      (s.runBatch services label entries scope w).1 = .returned records ∧
        records.map Record.check = entries.map Entry.check :=
    runBatch_returns deadline stamps (Runner.allBehave_of_isRegistrar acts)
  have all : (s.runner.runAll services entries (scopeOr scope w).1
      ((scopeOr scope w).2.note (.batchStarted entries.length label))).1 = .returned records :=
    fst_runBatch.symm.trans returned
  obtain ⟨steps, c, runs, outcome, world⟩ := Crew.runAll_is_scheduled workers (by
    rw [all]
    rintro ⟨⟩)
  refine ⟨records, steps, c, returned, checks, runs, ?_, ?_⟩
  · rw [outcome, all]
  · rw [world, stores_runBatch]

/-- A run in order is one order of the steps of workers. -/
theorem runOf_is_scheduled (registrars : w.Registrars services s.store) (category : Option String)
    (scope : Option ScopeId) :
    ∃ records steps c, (s.runOf services category scope w).1 = .returned records ∧
      records.map Record.check = (s.asked category w).map Entry.check ∧
      (s.crew size category scope w).run (settingOf services) s.runner steps = some c ∧
      c.outcome? = some (.returned records) ∧
      c.world.stores = (s.runOf services category scope w).2.stores := by
  have acts : ∀ entry ∈ s.asked category w, entry.probe.IsRegistrar :=
    fun entry mem => (registrars.all (mem_all_of_mem_asked mem)).1
  obtain ⟨records, steps, c, returned, checks, runs, outcome, stores⟩ :=
    runBatch_is_scheduled deadline stamps workers services acts (category.getD "all") scope w
  obtain ⟨same, sameStores⟩ := runOf_eq_runBatch services registrars.reached category scope
  exact ⟨records, steps, c, same.trans returned, checks, runs, outcome,
    stores.trans sameStores.symm⟩

end Scheduled

/-! ### Runs of workers -/

section Crew

variable (deadline : s.runner.timeout.seconds? = .ok limit)
  (stamps : ∀ now, ∃ stamp, s.runner.stamp now = .ok stamp) {size : Nat} (workers : 1 ≤ size)
  (registrars : w.Registrars services s.store) {steps : List (Crew.Step τ)} {c : Crew τ σ}
  (runs : (s.crew size category scope w).run (settingOf services) s.runner steps = some c)
include deadline stamps registrars runs

/-- A run of workers writes what its checks write, and leaves registrars only. -/
theorem crew_orderly : c.Orderly services s.store (s.asked category w) ∧
    World.Written s.store
      ((s.crew size category scope w).writes (settingOf services) s.runner steps) w c.world := by
  have begins : World.Written s.store [] w (s.crew size category scope w).world :=
    .of_stores_eq (stores_scopeOr scope w)
  have begun : (s.crew size category scope w).Orderly services s.store (s.asked category w) :=
    Crew.orderly_start (registrars_begun registrars scope _) ..
  obtain ⟨orderly, written⟩ := Crew.run_orderly deadline stamps
    (fun entry mem => registrars.all (mem_all_of_mem_asked mem)) begun runs
  exact ⟨orderly, begins.trans written⟩

/-- However the steps of workers are ordered, a run is a snapshot. -/
theorem isSnapshot_of_run (workers : 1 ≤ size) :
    s.IsSnapshot services category w (s.crew size category scope w) steps c := by
  obtain ⟨orderly, written⟩ := crew_orderly deadline stamps registrars runs
  obtain ⟨made, poolRuns, begins⟩ := Crew.pool_run runs
  have gathered := Pool.gathered_run poolRuns
  constructor
  · exact Crew.comesToEnd_of_run deadline stamps workers
      (registrars_begun registrars scope _)
      (fun entry mem => registrars.all (mem_all_of_mem_asked mem)) runs
  · rw [written.store_eq, Write.after_successful]
  · intro final
    have submitted := Pool.items_of_isFinal orderly.itemized final
    have once := Pool.begun_perm (Pool.tracked_run poolRuns) (orderly.records gathered final).1
    rw [begins, ← List.length_map Task.item, submitted] at once
    exact ⟨submitted, once⟩
  · intro final
    exact (orderly.records gathered final).2

end Crew

/-! ### One run after the other -/

/-- Runs leave registrars only. -/
theorem registrars_of_follows (deadline : s.runner.timeout.seconds? = .ok limit)
    (stamps : ∀ now, ∃ stamp, s.runner.stamp now = .ok stamp)
    (registrars : w.Registrars services s.store) (follows : s.Follows services w w') :
    w'.Registrars services s.store := by
  induction follows with
  | start stores => exact registrars.of_stores_eq stores
  | run category scope _ stores ih =>
      obtain ⟨_, _, c, -, -, runs, -, left⟩ :=
        runOf_is_scheduled deadline stamps (Nat.le_refl 1) ih category scope
      have orderly := (crew_orderly deadline stamps ih runs).1
      exact orderly.registrars.of_stores_eq (stores.trans left.symm)
  | crew category scope _ _ runs _ stores ih =>
      have orderly := (crew_orderly deadline stamps ih runs).1
      exact orderly.registrars.of_stores_eq stores

/-- Whatever registrars are registered, each run of them is a snapshot, and so is each that follows:
it executes the entries that are registered when it is asked for, or those of a category, each once,
and has a record of each, whatever its checks register and take away meanwhile; and the registry is
what it was with the writes that have succeeded, one after the other. -/
theorem runs_are_snapshots (deadline : s.runner.timeout.seconds? = .ok limit)
    (stamps : ∀ now, ∃ stamp, s.runner.stamp now = .ok stamp)
    (registrars : w.Registrars services s.store) (follows : s.Follows services w w') :
    s.Snapshots services w' := by
  have registrars := registrars_of_follows deadline stamps registrars follows
  constructor
  · intro category scope size workers steps c runs
    exact isSnapshot_of_run deadline stamps registrars runs workers
  · intro category scope size workers
    obtain ⟨records, steps, c, returned, checks, runs, outcome, stores⟩ :=
      runOf_is_scheduled deadline stamps workers registrars category scope
    exact ⟨records, steps, c, returned, checks, runs, outcome, stores,
      isSnapshot_of_run deadline stamps registrars runs workers⟩
  · intro category scope
    obtain ⟨records, -, -, returned, checks, -⟩ :=
      runOf_is_scheduled deadline stamps (Nat.le_refl 1) registrars (some category) scope
    have returned : (s.runCategory services category scope w').1 = .returned records := returned
    rw [returned]
    calc (Outcome.returned records = .returned [])
      _ ↔ records.map Record.check = [] := by rw [Outcome.returned.injEq, List.map_eq_nil_iff]
      _ ↔ s.asked (some category) w' = [] := by rw [checks, List.map_eq_nil_iff]
      _ ↔ ∀ entry ∈ (w'.store s.store).all, entry.check.category ≠ category := by simp [asked]

def desk : Service Rat Rat where
  runner := { timeout := .whole 5, stamp := .ok }

/-- Three checks: one registers another, one takes itself and the third away and then fails, and the
third does nothing. -/
def unruly : List (Write Rat) :=
  [.register ⟨"adder", "registers a check", "early"⟩
      (.ok (.register ⟨"newcomer", "", "late"⟩ (.done .none) fun _ => .done .none)) 0,
    .register ⟨"remover", "takes checks away", "early"⟩
      (.ok (.unregister "early" "remover" fun _ => .unregister "late" "bystander" fun _ =>
        .fail { kind := .unprintable })) 0,
    .register ⟨"bystander", "does nothing", "late"⟩ (.ok (.done .none)) 0]

def board : World Rat where
  line := { now := 0 }
  stores := #[Write.after {} unruly]

def namesOf (outcome : Outcome (List (Record Rat))) : Outcome (List String) :=
  outcome.map fun records => records.map fun record => record.check.name

theorem registrars_board : board.Registrars #[desk] 0 where
  made := Nat.one_pos
  reached := ⟨unruly, rfl⟩
  all := by
    rintro ⟨check, probe, service⟩ mem
    have mem : ⟨check, probe, service⟩ ∈ (Write.after {} unruly).all := mem
    rcases Write.mem_all_of_after mem with old | new
    · cases old
    · rcases List.mem_cons.mp new with same | new
      · cases same
        exact ⟨.register (.done _) fun _ => .done _, rfl⟩
      · rcases List.mem_cons.mp new with same | new
        · cases same
          exact ⟨.unregister fun _ => .unregister fun _ => .fail rfl, rfl⟩
        · cases List.mem_singleton.mp new
          exact ⟨.done _, rfl⟩

theorem unruly_checks_run_once :
    namesOf (desk.run #[desk] none board).1 = .returned ["adder", "remover", "bystander"] ∧
    ((desk.run #[desk] none board).2.store 0).all.map (fun entry => entry.check.name) =
      ["adder", "newcomer"] ∧
    namesOf (desk.run #[desk] none (desk.run #[desk] none board).2).1 =
      .returned ["adder", "newcomer"] := by
  have snapshots {w : World Rat} (follows : desk.Follows #[desk] board w) :
      desk.Snapshots #[desk] w :=
    runs_are_snapshots rfl (fun now => ⟨now, rfl⟩) registrars_board follows
  have names {w : World Rat} (follows : desk.Follows #[desk] board w) :
      namesOf (desk.run #[desk] none w).1 =
        .returned ((w.store 0).all.map fun entry => entry.check.name) := by
    obtain ⟨records, -, -, returned, checks, -⟩ :=
      (snapshots follows).inOrder none none (Nat.le_refl 1)
    have returned : (desk.run #[desk] none w).1 = .returned records := returned
    have named := congrArg (List.map Check.name) checks
    rw [List.map_map, List.map_map] at named
    rw [returned]
    exact congrArg Outcome.returned named
  have first := names (.start rfl)
  have second := names (.run none none (.start rfl) rfl)
  have before : (board.store 0).all.map (fun entry => entry.check.name) =
      ["adder", "remover", "bystander"] := by cbv
  have after : ((desk.run #[desk] none board).2.store 0).all.map (fun entry => entry.check.name) =
      ["adder", "newcomer"] := by cbv
  rw [before] at first
  refine ⟨first, after, ?_⟩
  rw [← after]
  exact second

end Service

end Checkup
