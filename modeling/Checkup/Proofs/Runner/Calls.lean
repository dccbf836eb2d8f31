import Checkup.Proofs.Runner.Progress

/-!
What becomes of every probe of a batch.

A probe is called when its job has made a scope for it, and comes to an end when its job judges it
or lets its fault pass. Along the steps of a batch these are the `Mark`s of its tasks. However the
jobs take turns, the marks of a task tell how far it is: a task that is done has called its probe
once and has seen it end once, and what it comes to is what that shows.

Main statements: `Job.accounts_step` (a step of a job adds its mark), `step_underWay` (what every
step of a batch keeps), `UnderWay.called_once` and `UnderWay.outcome_of_escape` (what there is in
the end).
-/

namespace Checkup

open Clock (IsTime)
open Runner (Verdict)
open Timeline (Follows Closed)

variable {τ σ : Type}

/-! ### Marks -/

/-- What becomes of a probe: it is called under a scope of its own, or comes to an end. -/
inductive Mark where
  | called (own : ScopeId)
  | came (outcome : Outcome Value)

namespace Mark

variable {k j : Nat} {told more : List (Nat × Mark)} {mark : Mark}

def of (k : Nat) (told : List (Nat × Mark)) : List Mark :=
  told.filterMap fun m => if m.1 = k then some m.2 else none

theorem of_append (k : Nat) (told more : List (Nat × Mark)) :
    of k (told ++ more) = of k told ++ of k more :=
  List.filterMap_append

theorem of_self (k : Nat) (mark : Option Mark) :
    of k ((mark.map fun m => (k, m)).toList) = mark.toList := by
  cases mark <;> simp [of]

theorem of_other (apart : j ≠ k) (mark : Option Mark) :
    of k ((mark.map fun m => (j, m)).toList) = [] := by
  cases mark <;> simp [of, apart]

theorem mem_of_iff : mark ∈ of k told ↔ (k, mark) ∈ told := by
  constructor
  · intro mem
    obtain ⟨⟨j, m⟩, there, here⟩ := List.mem_filterMap.mp mem
    split at here
    · rename_i same
      cases here
      subst same
      exact there
    · cases here
  · intro mem
    exact List.mem_filterMap.mpr ⟨_, mem, if_pos rfl⟩

end Mark

/-- A task has called its probe under a scope of its own, once, and that has come to an end,
once. -/
def CalledOnce (told : List (Nat × Mark)) (k : Nat) (own : ScopeId) (outcome : Outcome Value) :
    Prop :=
  Mark.of k told = [.called own, .came outcome]

/-- A task that is called once comes to one outcome. -/
theorem CalledOnce.outcome_eq {told : List (Nat × Mark)} {k : Nat} {own own' : ScopeId}
    {outcome outcome' : Outcome Value} (called : CalledOnce told k own outcome)
    (called' : CalledOnce told k own' outcome') : outcome = outcome' := by
  unfold CalledOnce at called called'
  rw [called] at called'
  cases called'
  rfl

theorem CalledOnce.came_mem {told : List (Nat × Mark)} {k : Nat} {own : ScopeId}
    {outcome : Outcome Value} (called : CalledOnce told k own outcome) :
    (k, .came outcome) ∈ told := by
  apply Mark.mem_of_iff.mp
  rw [called]
  exact List.mem_cons_of_mem _ (List.mem_singleton_self _)

theorem CalledOnce.outcome_of_mem {told : List (Nat × Mark)} {k : Nat} {own : ScopeId}
    {outcome outcome' : Outcome Value} (called : CalledOnce told k own outcome)
    (came : .came outcome' ∈ Mark.of k told) : outcome' = outcome := by
  rw [called] at came
  rcases List.mem_cons.mp came with ⟨⟨⟩⟩ | last
  cases List.mem_singleton.mp last
  rfl

/-- What a check comes to shows how its probe ended: in a record of that check, or as a fault that
is not to be caught. -/
def Shows (check : Check) (outcome : Outcome Value) : Except Fault (Record σ) → Prop
  | .ok record => record.check = check ∧
      (Verdict.ofOutcome outcome).shown? = some (record.error, record.details)
  | .error fault => outcome = .raised fault ∧ fault.isOrdinary = false

/-- Only a probe that returns or raises what is caught has a record. -/
theorem Shows.isOrdinary {check : Check} {outcome : Outcome Value} {record : Record σ}
    (shows : Shows check outcome (.ok record)) : outcome.IsOrdinary :=
  Verdict.isOrdinary_iff.mpr ⟨_, shows.2⟩

/-- Records that show the same end show the same. -/
theorem Shows.eq {check check' : Check} {outcome : Outcome Value} {record record' : Record σ}
    (shows : Shows check outcome (.ok record)) (shows' : Shows check' outcome (.ok record')) :
    record'.error = record.error ∧ record'.details = record.details :=
  Prod.mk.inj (Option.some.inj (shows'.2.symm.trans shows.2))

/-- A task whose probe ended in an ordinary way has a record. -/
theorem Shows.exists_record {check : Check} {outcome : Outcome Value}
    {result : Except Fault (Record σ)} (shows : Shows check outcome result)
    (ordinary : outcome.IsOrdinary) : ∃ record, result = .ok record := by
  cases result with
  | ok record => exact ⟨record, rfl⟩
  | error fault =>
      obtain ⟨rfl, escapes⟩ := shows
      rcases ordinary with ⟨value, ⟨⟩⟩ | ⟨_, ⟨⟩, caught⟩
      rw [escapes] at caught
      cases caught

/-! ### Jobs -/

theorem Probe.Next.outcome?_eq_none {probe next : Probe τ} (goesOn : probe.Next next) :
    probe.outcome? = none := by
  cases goesOn <;> rfl

namespace Job

/-- What the next step of a job makes of its probe. -/
def mark? : Job τ σ → World τ → Option Mark
  | .entering .., w => some (.called w.line.forest.size)
  | .acting _ probe, _ => probe.outcome?.map .came
  | _, _ => none

/-- Marks that tell how far a job is. -/
def Accounts (check : Check) (marks : List Mark) : Job τ σ → Prop
  | .fresh | .entering .. => marks = []
  | .acting frame _ | .waiting frame .. => marks = [.called frame.own]
  | .judged frame error details | .stamped frame _ error details =>
    ∃ outcome, marks = [.called frame.own, .came outcome] ∧
      (Verdict.ofOutcome outcome).shown? = some (error, details)
  | .ended result =>
    ∃ own outcome, marks = [.called own, .came outcome] ∧ Shows check outcome result

variable [Clock τ] {setting : World.Setting τ} {r : Runner τ σ} {entry : Entry τ} {scope : ScopeId}
  {job job' : Job τ σ} {w w' : World τ} {limit : τ} {marks : List Mark}

/-- A step of a job adds what it makes of its probe. -/
theorem accounts_step (deadline : r.timeout.seconds? = .ok limit)
    (stamps : ∀ now, ∃ stamp, r.stamp now = .ok stamp) (accounts : job.Accounts entry.check marks)
    (makes : job.step setting r entry scope w = some (job', w')) :
    job'.Accounts entry.check (marks ++ (job.mark? w).toList) := by
  have silent (none : job.mark? w = none) (still : job'.Accounts entry.check marks) :
      job'.Accounts entry.check (marks ++ (job.mark? w).toList) := by
    rw [none, Option.toList_none, List.append_nil]
    exact still
  cases move_of_step makes with
  | begin => exact silent rfl accounts
  | unfit unfit =>
      rw [deadline] at unfit
      cases unfit
  | enter => exact congrArg (· ++ _) accounts
  | use goesOn => exact silent (by rw [mark?, goesOn.outcome?_eq_none]; rfl) accounts
  | derive | nest | wait | wake => exact silent rfl accounts
  | @judge _ _ frame probe outcome error details ends shown =>
      have mark : (acting frame probe : Job τ σ).mark? w = some (.came outcome) := by
        rw [mark?, ends]
        rfl
      rw [mark]
      exact ⟨outcome, congrArg (· ++ _) accounts, shown⟩
  | @escape _ frame fault escapes =>
      exact ⟨frame.own, .raised fault, congrArg (· ++ _) accounts, rfl, escapes⟩
  | stamp => exact silent rfl accounts
  | unstamped _ _ unstamped =>
      obtain ⟨stamp, stamped⟩ := stamps w.line.now
      rw [unstamped] at stamped
      cases stamped
  | @finish _ _ frame _ _ _ record check error details =>
      obtain ⟨outcome, told, shown⟩ := accounts
      rw [← error, ← details] at shown
      exact silent rfl ⟨frame.own, outcome, told, check, shown⟩

/-- The scope under which a probe is called hangs below that of the run. -/
theorem parent?_of_called {own : ScopeId} (settled : w.line.forest.Settled)
    (made : scope < w.line.forest.size) (calls : job.mark? w = some (.called own))
    (makes : job.step setting r entry scope w = some (job', w')) :
    w'.line.forest.parent? own = some scope := by
  cases move_of_step makes with
  | enter =>
      cases calls
      exact Forest.parent?_child_new settled made
  | use goesOn =>
      rw [mark?, goesOn.outcome?_eq_none] at calls
      cases calls
  | @judge _ _ _ probe _ _ _ ends =>
      rw [mark?, ends] at calls
      cases calls
  | _ => cases calls

end Job

namespace Crew

/-! ### Batches -/

variable [Clock τ]

/-- What a step of a batch makes of the probe of a task. -/
def mark? (c : Crew τ σ) : Step τ → Option (Nat × Mark)
  | .work k => c.jobs[k]?.bind fun job => (job.mark? c.world).map fun mark => (k, mark)
  | _ => none

/-- What the steps of a batch make of the probes of its tasks, in the order in which they are
made. -/
def told (setting : Entry τ → World.Setting τ) (r : Runner τ σ) (c : Crew τ σ) :
    List (Step τ) → List (Nat × Mark)
  | [] => []
  | s :: steps => (c.mark? s).toList ++
      (c.step setting r s).elim [] fun c => c.told setting r steps

variable [Clock.Ordered τ] {setting : Entry τ → World.Setting τ} {r : Runner τ σ} {limit : τ}
  {R P : Timeline τ → ScopeId → Prop} {entries : List (Entry τ)} {caller : ScopeId}
  {marks : List (Nat × Mark)} {c c' : Crew τ σ} {s : Step τ} {steps : List (Step τ)} {k : Nat}

omit [Clock.Ordered τ] in
theorem emits_told : Emits (step setting r) (fun c s => (c.mark? s).toList) (told setting r) := by
  refine ⟨fun _ => rfl, fun makes steps => ?_⟩
  rw [told, makes, Option.elim_some]

/-- A batch on its way, whose scope hangs below the caller's and was handed `R`: its jobs are in
place, its marks tell how far they are, and once the caller has left its scope is closed. -/
structure UnderWay (r : Runner τ σ) (R P : Timeline τ → ScopeId → Prop) (entries : List (Entry τ))
    (caller : ScopeId) (marks : List (Nat × Mark)) (c : Crew τ σ) : Prop
    extends c.Paired entries where
  settled : c.world.line.forest.Settled
  isTime : IsTime c.world.line.now
  hangs : c.world.line.forest.parent? c.scope = some caller
  root : R c.world.line c.scope
  placed : ∀ job ∈ c.jobs, job.Placed r P c.world.line
  accounts {k : Nat} {job : Job τ σ} {entry : Entry τ} : c.jobs[k]? = some job →
    entries[k]? = some entry → job.Accounts entry.check (Mark.of k marks)
  unmarked {k : Nat} : c.jobs.length ≤ k → Mark.of k marks = []
  below {k : Nat} {own : ScopeId} : (k, .called own) ∈ marks →
    c.world.line.forest.parent? own = some c.scope
  closed : c.pool.IsFinal → c.world.line.Closed caller c.scope

namespace UnderWay

/-- A batch that is about to begin. -/
theorem start {size : Nat} {w : World τ} (settled : w.line.forest.Settled)
    (isTime : IsTime w.line.now) (made : caller < w.line.forest.size)
    (root : R (w.line.child caller none).2 w.line.forest.size) :
    (Crew.start size entries caller w : Crew τ σ).UnderWay r R P entries caller [] := by
  have new : (w.line.child caller none).1 = w.line.forest.size := Forest.fst_child ..
  have opens := Follows.child settled isTime made none
  constructor
  · exact ⟨Pool.itemized_start size entries, rfl, nofun⟩
  · exact opens.settled
  · exact opens.isTime
  · show (w.line.child caller none).2.forest.parent? (w.line.child caller none).1 = some caller
    rw [new]
    exact Forest.parent?_child_new settled made
  · show R (w.line.child caller none).2 (w.line.child caller none).1
    rw [new]
    exact root
  · exact nofun
  · exact nofun
  · exact fun _ => rfl
  · exact nofun
  · rintro ⟨fault, ⟨⟩⟩

/-- So is one of whose scopes no more is told than that they were made. -/
theorem start_made {size : Nat} {w : World τ} (settled : w.line.forest.Settled)
    (isTime : IsTime w.line.now) (made : caller < w.line.forest.size) :
    (Crew.start size entries caller w : Crew τ σ).UnderWay r (fun t s => s < t.forest.size)
      (fun t s => s < t.forest.size) entries caller [] :=
  .start settled isTime made
    (Nat.lt_of_lt_of_eq (Nat.lt_succ_self _) (Forest.size_child ..).symm)

variable (underWay : c.UnderWay r R P entries caller marks)
include underWay

/-- Something is done to scopes, and to nothing else. -/
theorem withLine (down : Job.HandsDown r R P) {t : Timeline τ}
    (follows : c.world.line.Follows t) :
    (c.withLine t).UnderWay r R P entries caller marks := by
  have made := Forest.lt_size_of_parent? underWay.hangs
  constructor
  · exact ⟨underWay.itemized, underWay.length_eq, underWay.results⟩
  · exact follows.settled
  · exact follows.isTime
  · exact (follows.parent?_eq made).trans underWay.hangs
  · exact down.root_stays follows underWay.root
  · exact fun job mem => down.placed follows (underWay.placed job mem)
  · exact underWay.accounts
  · exact underWay.unmarked
  · intro k own mem
    have hangs := underWay.below mem
    exact (follows.parent?_eq (Forest.lt_size_of_parent? hangs)).trans hangs
  · exact fun final => follows.closed made (underWay.closed final)

/-- The pool makes a step that leaves the jobs as they are, and the caller does not leave. -/
theorem of_pool {pool : Pool (Entry τ) (Record σ)} {s : Pool.Step (Record σ)}
    (makes : c.pool.step s = some pool) (other : s ≠ .submit) (stays : s ≠ .leave)
    (finishes : ∀ k result, s = .finish k result → c.jobs[k]? = some (.ended result)) :
    ({ c with pool } : Crew τ σ).UnderWay r R P entries caller marks := by
  refine { underWay with toPaired := underWay.toPaired.of_pool makes other finishes, closed := ?_ }
  intro final
  rcases Pool.isFinal_of_step makes final with leaves | before
  · exact absurd leaves stays
  · exact underWay.closed before

/-- A task is submitted. -/
theorem submit {pool : Pool (Entry τ) (Record σ)} (makes : c.pool.step .submit = some pool) :
    ({ c with pool, jobs := c.jobs ++ [.fresh] } : Crew τ σ).UnderWay r R P entries caller
      marks := by
  refine { underWay with
    toPaired := underWay.toPaired.submit makes
    placed := ?_, accounts := ?_, unmarked := ?_, closed := ?_ }
  · intro job mem
    rcases List.mem_append.mp mem with old | new
    · exact underWay.placed job old
    · rw [List.mem_singleton.mp new]
      trivial
  · intro k job entry here at'
    rcases Nat.lt_or_ge k c.jobs.length with old | new
    · rw [List.getElem?_append_left old] at here
      exact underWay.accounts here at'
    · rw [List.getElem?_append_right new, List.getElem?_singleton] at here
      split at here
      · cases here
        exact underWay.unmarked new
      · cases here
  · intro k beyond
    rw [List.length_append] at beyond
    exact underWay.unmarked (Nat.le_of_add_right_le beyond)
  · intro final
    rcases Pool.isFinal_of_step makes final with ⟨⟨⟩⟩ | before
    exact underWay.closed before

/-- The job of a task that runs makes a step. -/
theorem work (down : Job.HandsDown r R P) (nests : ∀ entry, Job.NestsOn (setting entry))
    (deadline : r.timeout.seconds? = .ok limit) (stamps : ∀ now, ∃ stamp, r.stamp now = .ok stamp)
    {entry : Entry τ} {job job' : Job τ σ} {world : World τ}
    (running : c.pool.tasks[k]? = some ⟨entry, .running⟩) (here : c.jobs[k]? = some job)
    (works : job.step (setting entry) r entry c.scope c.world = some (job', world)) :
    ({ c with jobs := c.jobs.set k job', world } : Crew τ σ).UnderWay r R P entries caller
      (marks ++ (c.mark? (.work k)).toList) := by
  have made := down.root_made underWay.root
  have inside := (List.getElem?_eq_some_iff.mp here).1
  obtain ⟨follows, placed⟩ := Job.step_placed down (nests entry) underWay.settled underWay.isTime
    underWay.root (underWay.placed job (List.mem_of_getElem? here)) works
  have mark : c.mark? (.work k) = (job.mark? c.world).map fun mark => (k, mark) := by
    rw [mark?, here, Option.bind_some]
  rw [mark]
  constructor
  · exact underWay.toPaired.work job' world running
  · exact follows.settled
  · exact follows.isTime
  · exact (follows.parent?_eq made).trans underWay.hangs
  · exact down.root_stays follows underWay.root
  · intro other mem
    rcases List.mem_or_eq_of_mem_set mem with old | rfl
    · exact down.placed follows (underWay.placed other old)
    · exact placed
  · intro j other entry' there at'
    rw [Mark.of_append]
    by_cases same : k = j
    · subst same
      rw [List.getElem?_set_self inside] at there
      rw [underWay.itemized.item_eq running] at at'
      cases there
      cases at'
      rw [Mark.of_self]
      have accounts := underWay.accounts here (underWay.itemized.item_eq running)
      exact Job.accounts_step deadline stamps accounts works
    · rw [List.getElem?_set_ne same] at there
      rw [Mark.of_other same, List.append_nil]
      exact underWay.accounts there at'
  · intro j beyond
    have beyond : c.jobs.length ≤ j := Nat.le_trans (Nat.le_of_eq (List.length_set ..).symm) beyond
    rw [Mark.of_append, Mark.of_other (Nat.ne_of_lt (Nat.lt_of_lt_of_le inside beyond)),
      List.append_nil]
    exact underWay.unmarked beyond
  · intro j own mem
    rcases List.mem_append.mp mem with old | new
    · have hangs := underWay.below old
      exact (follows.parent?_eq (Forest.lt_size_of_parent? hangs)).trans hangs
    · obtain ⟨called, calls, same⟩ := Option.map_eq_some_iff.mp (Option.mem_toList.mp new)
      cases same
      exact Job.parent?_of_called underWay.settled made calls works
  · exact fun final => follows.closed made (underWay.closed final)

end UnderWay

/-- What every step of a batch keeps. -/
theorem step_underWay (down : Job.HandsDown r R P) (nests : ∀ entry, Job.NestsOn (setting entry))
    (deadline : r.timeout.seconds? = .ok limit) (stamps : ∀ now, ∃ stamp, r.stamp now = .ok stamp)
    (underWay : c.UnderWay r R P entries caller marks) (makes : c.step setting r s = some c') :
    c'.UnderWay r R P entries caller (marks ++ (c.mark? s).toList) := by
  have silent (none : c.mark? s = none) (still : c'.UnderWay r R P entries caller marks) :
      c'.UnderWay r R P entries caller (marks ++ (c.mark? s).toList) := by
    rw [none, Option.toList_none, List.append_nil]
    exact still
  have settled := underWay.settled
  have isTime := underWay.isTime
  cases move_of_step makes with
  | later now => exact silent rfl (underWay.withLine down (.later settled isTime now))
  | fire limit timer others =>
      exact silent rfl (underWay.withLine down (.fire settled isTime timer others))
  | pool pool isStep steps =>
      refine silent (by cases isStep <;> rfl) (underWay.of_pool steps ?_ ?_ ?_)
      · cases isStep <;> rintro ⟨⟩
      · cases isStep <;> rintro ⟨⟩
      · rintro k result rfl
        cases isStep
        assumption
  | submit pool steps => exact silent rfl (underWay.submit steps)
  | work k entry job job' world running here works =>
      exact underWay.work down nests deadline stamps running here works
  | leave pool steps =>
      have closes := Follows.close settled isTime c.scope
      have left := underWay.withLine down closes
      refine silent rfl { left with toPaired := ?_, closed := fun _ => ?_ }
      · have paired := underWay.toPaired.of_pool steps (by rintro ⟨⟩) (by rintro k result ⟨⟩)
        exact ⟨paired.itemized, paired.length_eq, paired.results⟩
      · exact .of_close settled underWay.hangs

/-- What the steps of a batch keep. -/
theorem run_underWay (down : Job.HandsDown r R P) (nests : ∀ entry, Job.NestsOn (setting entry))
    (deadline : r.timeout.seconds? = .ok limit) (stamps : ∀ now, ∃ stamp, r.stamp now = .ok stamp)
    (underWay : c.UnderWay r R P entries caller marks) (runs : c.run setting r steps = some c') :
    c'.UnderWay r R P entries caller (marks ++ c.told setting r steps) :=
  emits_told.history isRun (I := fun marks c => c.UnderWay r R P entries caller marks)
    (fun _ => step_underWay down nests deadline stamps) marks runs underWay

/-- A batch is on its way from its beginning. -/
theorem UnderWay.of_run {size : Nat} {w : World τ} (down : Job.HandsDown r R P)
    (nests : ∀ entry, Job.NestsOn (setting entry)) (deadline : r.timeout.seconds? = .ok limit)
    (stamps : ∀ now, ∃ stamp, r.stamp now = .ok stamp) (settled : w.line.forest.Settled)
    (isTime : IsTime w.line.now) (made : caller < w.line.forest.size)
    (root : R (w.line.child caller none).2 w.line.forest.size)
    (runs : (Crew.start size entries caller w).run setting r steps = some c) :
    c.UnderWay r R P entries caller
      ((Crew.start size entries caller w : Crew τ σ).told setting r steps) :=
  run_underWay down nests deadline stamps (.start settled isTime made root) runs

/-- So is a batch below any caller, of whose scopes no more is told than that they were made. -/
theorem UnderWay.of_made {size : Nat} {w : World τ} (nests : ∀ entry, Job.NestsOn (setting entry))
    (deadline : r.timeout.seconds? = .ok limit) (stamps : ∀ now, ∃ stamp, r.stamp now = .ok stamp)
    (settled : w.line.forest.Settled) (isTime : IsTime w.line.now)
    (made : caller < w.line.forest.size)
    (runs : (Crew.start size entries caller w).run setting r steps = some c) :
    c.UnderWay r (fun t s => s < t.forest.size) (fun t s => s < t.forest.size) entries caller
      ((Crew.start size entries caller w : Crew τ σ).told setting r steps) :=
  run_underWay (Job.handsDown_made r) nests deadline stamps (.start_made settled isTime made) runs

/-! ### In the end -/

namespace UnderWay

variable (underWay : c.UnderWay r R P entries caller marks) (final : c.pool.IsFinal)
include underWay final

/-- At the end of a batch there is a task for each entry. -/
theorem length_of_isFinal : c.pool.tasks.length = entries.length := by
  rw [← Pool.items_of_isFinal underWay.itemized final, List.length_map]

/-- Every entry has been called once and has come to an end once, under a scope below that of the
batch, and its task has come to what that shows. -/
theorem called_once (all : c.pool.allReleased) {entry : Entry τ}
    (at' : entries[k]? = some entry) : ∃ own outcome result, CalledOnce marks k own outcome ∧
      c.pool.result? k = some result ∧ Shows entry.check outcome result ∧
      c.world.line.forest.parent? own = some c.scope := by
  have inside := (List.getElem?_eq_some_iff.mp at').1
  rw [← underWay.length_of_isFinal final] at inside
  obtain ⟨result, released⟩ := Pool.exists_result?_of_allReleased all inside
  have done : c.pool.result? k = some result := by
    rw [Pool.result?, released]
    rfl
  obtain ⟨own, outcome, called, shows⟩ := underWay.accounts (underWay.results done) at'
  have mem : .called own ∈ Mark.of k marks := by
    rw [called]
    exact List.mem_cons_self
  exact ⟨own, outcome, result, called, done, shows, underWay.below (Mark.mem_of_iff.mp mem)⟩

/-- A task that is done shows how the probe of its entry ended. -/
theorem shows_of_result {result : Except Fault (Record σ)} (done : c.pool.result? k = some result) :
    ∃ entry own outcome, entries[k]? = some entry ∧ CalledOnce marks k own outcome ∧
      Shows entry.check outcome result := by
  have inside := Pool.lt_length_of_result? done
  rw [underWay.length_of_isFinal final] at inside
  have at' := List.getElem?_eq_getElem inside
  obtain ⟨own, outcome, called, shows⟩ := underWay.accounts (underWay.results done) at'
  exact ⟨_, own, outcome, at', called, shows⟩

/-- Where one probe raises what is not to be caught, and no other does, the caller raises that. -/
theorem outcome_of_escape (gathered : c.pool.Gathered) {entry : Entry τ} {own : ScopeId}
    {fault : Fault} (at' : entries[k]? = some entry)
    (called : CalledOnce marks k own (.raised fault)) (escapes : fault.isOrdinary = false)
    (others : ∀ j own outcome, j ≠ k → CalledOnce marks j own outcome → outcome.IsOrdinary) :
    c.outcome? = some (.raised fault) := by
  have passes {fault : Fault} (escapes : fault.isOrdinary = false) :
      ¬ (Outcome.raised fault : Outcome Value).IsOrdinary := by
    rintro (⟨value, ⟨⟩⟩ | ⟨_, ⟨⟩, caught⟩)
    rw [escapes] at caught
    cases caught
  obtain ⟨found, left⟩ := id final
  cases found with
  | none =>
      -- then the caller would have collected a record of every task, and of this one too
      have inside := (List.getElem?_eq_some_iff.mp at').1
      rw [← underWay.length_of_isFinal final, ← List.mem_range] at inside
      have keys := gathered.keys_perm (gathered.complete left).2
      obtain ⟨⟨_, record⟩, collected, rfl⟩ := List.mem_map.mp (keys.mem_iff.mpr inside)
      obtain ⟨_, _, outcome, -, called', shows⟩ :=
        underWay.shows_of_result final (gathered.result collected)
      obtain rfl := called.outcome_eq called'
      exact absurd shows.isOrdinary (passes escapes)
  | some found =>
      obtain ⟨j, failed⟩ := gathered.raised left
      obtain ⟨_, own', _, -, called', rfl, escapes'⟩ := underWay.shows_of_result final failed
      by_cases same : j = k
      · subst same
        cases called.outcome_eq called'
        rw [outcome?, left]
      · exact absurd (others j own' _ same called') (passes escapes')

/-- Where all probes return or raise what is caught, every task has come to a record, which shows how
its probe ended, and the caller returns these. -/
theorem outcome_of_ordinary (gathered : c.pool.Gathered)
    (ordinary : ∀ k own outcome, CalledOnce marks k own outcome → outcome.IsOrdinary) :
    ∃ records collected : List (Record σ), c.outcome? = some (.returned collected) ∧
      collected.Perm records ∧ records.length = entries.length ∧
      ∀ k entry, entries[k]? = some entry → ∃ record own outcome, records[k]? = some record ∧
        c.pool.result? k = some (.ok record) ∧ CalledOnce marks k own outcome ∧
        Shows entry.check outcome (.ok record) := by
  have length_eq := underWay.length_of_isFinal final
  have left : c.pool.caller = .left none := by
    obtain ⟨found, left⟩ := id final
    cases found with
    | none => exact left
    | some found =>
        obtain ⟨j, failed⟩ := gathered.raised left
        obtain ⟨_, own, _, -, called, shows⟩ := underWay.shows_of_result final failed
        obtain ⟨_, ⟨⟩⟩ := shows.exists_record (ordinary j own _ called)
  have all := (gathered.complete left).1
  have each {k : Nat} {entry : Entry τ} (at' : entries[k]? = some entry) :
      ∃ record own outcome, c.pool.result? k = some (.ok record) ∧
        CalledOnce marks k own outcome ∧ Shows entry.check outcome (.ok record) := by
    obtain ⟨own, outcome, result, called, done, shows, -⟩ := underWay.called_once final all at'
    obtain ⟨record, rfl⟩ := shows.exists_record (ordinary k own outcome called)
    exact ⟨record, own, outcome, done, called, shows⟩
  have recorded : ∀ job ∈ c.jobs, ∃ record, (.ended (.ok record) : Job τ σ) = job := by
    intro job mem
    obtain ⟨k, here⟩ := List.getElem?_of_mem mem
    have inside := (List.getElem?_eq_some_iff.mp here).1
    rw [underWay.length_eq, length_eq] at inside
    obtain ⟨record, _, _, done, -⟩ := each (List.getElem?_eq_getElem inside)
    exact ⟨record, Option.some.inj ((underWay.results done).symm.trans here)⟩
  have lifted : c.jobs ∈ Set.range (List.map fun record => (.ended (.ok record) : Job τ σ)) := by
    rw [Set.range_list_map]
    exact recorded
  obtain ⟨records, jobs⟩ := lifted
  have length : records.length = entries.length := by
    rw [← length_eq, ← underWay.length_eq, ← jobs, List.length_map]
  obtain ⟨collected, returns, perm⟩ :=
    underWay.toPaired.outcome_of_records jobs.symm gathered final
  refine ⟨records, collected, returns, perm, length, ?_⟩
  intro k entry at'
  obtain ⟨record, own, outcome, done, called, shows⟩ := each at'
  obtain ⟨_, ⟨⟩, here⟩ := underWay.toPaired.exists_record jobs.symm done
  exact ⟨record, own, outcome, here, done, called, shows⟩

end UnderWay

end Crew

end Checkup
