import Checkup.Proofs.Pool.Steps

/-!
Slots bound how much of a batch is under way.

A slot is held from when the caller acquires it until the task that it was for gives it back: by the
caller while it is ready to submit, and by every submitted task that has not given it back. What is
held and what is free make up the size of the pool.

Main statements: `slotted_step` (a step keeps the slots accounted for) and `bounded_by_slots` (in
every state of a run: what runs, what is submitted, how far the caller is ahead, and when it has to
wait).
-/

namespace Checkup.Pool

variable {α β : Type} {p p' : Pool α β} {s : Step β} {steps : List (Step β)} {items : List α}
  {size k : Nat} {stage : TaskStage β}

def callerSlots : Caller α → Nat
  | .ready _ => 1
  | _ => 0

def held (p : Pool α β) : Nat := p.unreleased + callerSlots p.caller

/-- The slots of a pool are accounted for, and so are the items of its batch. -/
structure Slotted (size : Nat) (items : List α) (p : Pool α β) : Prop where
  size_eq : p.size = size
  slots_eq : p.slots = size - (p.held : Int)
  nonneg : 0 ≤ p.slots
  taken_eq : p.taken + p.ahead.length = items.length

theorem slotted_start (size : Nat) (items : List α) :
    (start size items : Pool α β).Slotted size items := by
  constructor
  · rfl
  · exact (Int.sub_zero _).symm
  · exact Int.natCast_nonneg size
  · exact Nat.zero_add _

/-- A task that ends or begins keeps its slot. -/
theorem unreleased_setStage {old : TaskStage β} (here : p.stage? k = some old) (stage : TaskStage β)
    (same : stage.isReleased = old.isReleased) :
    (p.setStage k stage).unreleased = p.unreleased := by
  have counts := count_setStage here stage fun stage => !stage.isReleased
  rw [same] at counts
  exact Nat.add_right_cancel counts

/-- A task that gives its slot back holds it no more. -/
theorem unreleased_release {r : Except Fault β} (here : p.stage? k = some (.ended r)) :
    (p.setStage k (.released r)).unreleased + 1 = p.unreleased :=
  count_setStage here (.released r) fun stage => !stage.isReleased

theorem taken_setStage (p : Pool α β) (k : Nat) (stage : TaskStage β) :
    (p.setStage k stage).taken = p.taken := by
  simp [taken, setStage]

/-- A step keeps the slots accounted for. -/
theorem slotted_step (slotted : p.Slotted size items) (makes : p.step s = some p') :
    p'.Slotted size items := by
  obtain ⟨size_eq, slots_eq, nonneg, taken_eq⟩ := slotted
  have taken_set (k : Nat) (stage : TaskStage β) :
      (p.setStage k stage).taken + p.ahead.length = items.length := by
    rw [taken_setStage, taken_eq]
  -- tasks as they were, and a caller that holds as many slots and items as before
  have keeps (caller : Caller α) (slots : callerSlots caller = callerSlots p.caller)
      (taken : ({ p with caller } : Pool α β).taken = p.taken) :
      ({ p with caller } : Pool α β).Slotted size items := by
    refine ⟨size_eq, ?_, nonneg, by rw [taken]; exact taken_eq⟩
    change p.slots = size - ((p.unreleased + callerSlots caller : Nat) : Int)
    rw [slots]
    exact slots_eq
  -- a task that begins or ends keeps its slot
  have moves {k : Nat} {old : TaskStage β} (here : p.stage? k = some old) (stage : TaskStage β)
      (same : stage.isReleased = old.isReleased) (issued : Nat) :
      ({ p.setStage k stage with issued } : Pool α β).Slotted size items := by
    refine ⟨size_eq, ?_, nonneg, taken_set k stage⟩
    change p.slots = size - (((p.setStage k stage).unreleased + callerSlots p.caller : Nat) : Int)
    rw [unreleased_setStage here stage same]
    exact slots_eq
  cases move_of_step makes with
  | take item rest caller ahead =>
      refine ⟨size_eq, ?_, nonneg, ?_⟩
      · rw [held, caller] at slots_eq
        exact slots_eq
      · rw [← taken_eq, ahead]
        simp only [taken, caller, List.length_cons]
        omega
  | drain caller ahead => exact keeps .collecting (by rw [caller]; rfl) (by simp [taken, caller])
  | acquire item caller free =>
      refine ⟨size_eq, ?_, Int.le_sub_one_of_lt free, ?_⟩
      · change p.slots - 1 = size - ((p.unreleased + 1 : Nat) : Int)
        rw [held, caller] at slots_eq
        change p.slots = size - ((p.unreleased + 0 : Nat) : Int) at slots_eq
        omega
      · simpa [taken, caller] using taken_eq
  | submit item caller =>
      refine ⟨size_eq, ?_, nonneg, ?_⟩
      · rw [held, caller] at slots_eq
        rw [slots_eq]
        simp [held, callerSlots, unreleased, count, TaskStage.isReleased]
      · simpa [taken, caller] using taken_eq
  | begin k queued => exact moves queued .running rfl (p.issued + 1)
  | finish k r running => exact moves running (.ended r) rfl p.issued
  | release k r ended =>
      refine ⟨size_eq, ?_, Int.le_add_one nonneg, taken_set k (.released r)⟩
      change p.slots + 1 =
        size - (((p.setStage k (.released r)).unreleased + callerSlots p.caller : Nat) : Int)
      have gives := unreleased_release ended
      rw [held] at slots_eq
      omega
  | collect k value caller result new => exact ⟨size_eq, slots_eq, nonneg, taken_eq⟩
  | fail k fault caller result =>
      exact keeps (.failing fault) (by rw [caller]; rfl) (by simp [taken, caller])
  | leave caller done all =>
      exact keeps (.left none) (by rw [caller]; rfl) (by simp [taken, caller])
  | leaveFailing fault caller done =>
      exact keeps (.left (some fault)) (by rw [caller]; rfl) (by simp [taken, caller])

/-- Any run keeps the slots accounted for. -/
theorem slotted_run (runs : (start size items).run steps = some p) : p.Slotted size items :=
  isRun.invariant slotted_step runs (slotted_start size items)

/-! ### The ledger -/

namespace Step

def isAcquire : Step β → Bool
  | .acquire => true
  | _ => false

def isRelease : Step β → Bool
  | .release _ => true
  | _ => false

end Step

/-- What was acquired and not released is what is missing. -/
theorem ledger_step {past : List (Step β)}
    (ledger : p.slots + past.countP Step.isAcquire = size + past.countP Step.isRelease)
    (makes : p.step s = some p') :
    p'.slots + (past ++ [s]).countP Step.isAcquire =
      size + (past ++ [s]).countP Step.isRelease := by
  rw [List.countP_append, List.countP_append]
  cases move_of_step makes with
  | acquire item caller free =>
      simp only [List.countP_singleton, Step.isAcquire, Step.isRelease]
      push_cast
      omega
  | release k r ended =>
      simp only [List.countP_singleton, Step.isAcquire, Step.isRelease]
      push_cast
      omega
  | _ => exact ledger

/-- The slots that are held are those acquired and not given back yet. -/
theorem held_add_releases (runs : (start size items : Pool α β).run steps = some p) :
    p.held + steps.countP Step.isRelease = steps.countP Step.isAcquire := by
  have ledger : p.slots + steps.countP Step.isAcquire = size + steps.countP Step.isRelease :=
    isRun.history (I := fun past p =>
      p.slots + past.countP Step.isAcquire = size + past.countP Step.isRelease)
      ledger_step [] runs rfl
  have slots_eq := (slotted_run runs).slots_eq
  omega

namespace Slotted

variable (slotted : p.Slotted size items)
include slotted

theorem held_le : p.held ≤ size := by
  have slots_eq := slotted.slots_eq
  have nonneg := slotted.nonneg
  omega

/-- No more tasks are unreleased than there are slots. -/
theorem unreleased_le : p.unreleased ≤ size :=
  Nat.le_trans (Nat.le_add_right ..) slotted.held_le

/-- A task that runs has not given its slot back. -/
theorem running_le : p.running ≤ size := by
  refine Nat.le_trans (List.countP_mono_left fun t _ running => ?_) slotted.unreleased_le
  cases h : t.stage with
  | running => rfl
  | queued | ended r | released r =>
      rw [h] at running
      cases running

/-- The caller takes an item before it has a slot for it, so it can be one item further ahead than
the slots allow. -/
theorem taken_le : p.taken ≤ p.released + size + 1 := by
  have all := released_add_unreleased p
  have held_le := slotted.held_le
  unfold held callerSlots at held_le
  unfold taken
  cases caller : p.caller with
  | ready item =>
      rw [caller] at held_le
      simp only at held_le ⊢
      omega
  | _ =>
      simp only
      omega

/-- A slot is given back only where one is missing. -/
theorem slots_lt_of_release (releases : (p.step (.release k)).isSome) : p.slots < size := by
  obtain ⟨p', makes⟩ := Option.isSome_iff_exists.mp releases
  cases move_of_step makes with
  | release k r ended =>
      have counts : 0 < p.unreleased := count_pos ended rfl
      have slots_eq := slotted.slots_eq
      unfold held at slots_eq
      omega

/-- The caller waits for a slot only while all of them are held. -/
theorem held_eq_of_blocked {item : α} (holding : p.caller = .holding item)
    (blocked : p.step .acquire = none) : p.held = size := by
  have slots_eq := slotted.slots_eq
  have nonneg := slotted.nonneg
  have unfree : ¬ 0 < p.slots := by
    intro free
    simp [step, holding, free] at blocked
  omega

end Slotted

/-- In every state of a run: no more tasks run than there are slots, no more are submitted that have
not given their slot back, and the caller has taken at most one item more than that; the slots that
are free and those held, acquired and not released, make up the size of the pool; a slot is given
back only where one is missing; and the caller is kept waiting only while all slots are held. -/
theorem bounded_by_slots (runs : (start size items).run steps = some p) :
    p.running ≤ size ∧
    p.unreleased ≤ size ∧
    (p.taken + p.ahead.length = items.length ∧ p.taken ≤ p.released + (size + 1)) ∧
    (p.slots = size - (p.held : Int) ∧ 0 ≤ p.slots ∧ p.slots ≤ size ∧
      p.held + steps.countP Step.isRelease = steps.countP Step.isAcquire) ∧
    (∀ k, (p.step (.release k)).isSome → p.slots < size) ∧
    (∀ item, p.caller = .holding item → p.step .acquire = none → p.held = size) := by
  have slotted := slotted_run runs
  have slots_eq := slotted.slots_eq
  refine ⟨slotted.running_le, slotted.unreleased_le, ⟨slotted.taken_eq, slotted.taken_le⟩,
    ⟨slots_eq, slotted.nonneg, ?_, held_add_releases runs⟩, ?_, ?_⟩
  · omega
  · intro k releases
    exact slotted.slots_lt_of_release releases
  · intro item holding blocked
    exact slotted.held_eq_of_blocked holding blocked

/-- With two slots the caller holds the third item and waits while the first two are under way. -/
theorem third_item_waits : ∃ p : Pool Nat Nat,
    (start 2 [10, 20, 30]).run
      [.take, .acquire, .submit, .begin 0, .take, .acquire, .submit, .begin 1, .take] = some p ∧
    p.step .acquire = none ∧ p.held = 2 ∧ p.running ≤ 2 ∧ p.taken ≤ p.released + 3 := by
  obtain ⟨p, runs, holding, blocked⟩ : ∃ p : Pool Nat Nat, (start 2 [10, 20, 30]).run
      [.take, .acquire, .submit, .begin 0, .take, .acquire, .submit, .begin 1, .take] = some p ∧
      p.caller = .holding 30 ∧ p.step .acquire = none := ⟨_, rfl, rfl, rfl⟩
  have ⟨running, _, ⟨_, taken⟩, _, _, waits⟩ := bounded_by_slots runs
  exact ⟨p, runs, blocked, waits 30 holding blocked, running, taken⟩

end Checkup.Pool
