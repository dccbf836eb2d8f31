import Checkup.Proofs.Registry.Flat
import Checkup.Proofs.Runner.Progress

/-!
Checks that write to the registry while a batch runs.

A registrar is a probe that registers checks, takes checks away, one or all, and then returns or
raises what is caught. Each of its writes takes effect at once, and none concerns the batch, which
goes by the entries it was begun with: whatever the order of steps, every entry is executed once,
and the registry has the writes of all jobs, one after the other.

Main statements: `step_orderly` (what every step of a batch of registrars keeps and writes),
`Orderly.records` (what the caller has in the end), `Orderly.goesOn` (unless the caller has left, a
step can be made) and `comesToEnd_of_run` (no order of steps goes on forever).
-/

namespace Checkup

/-! ### Writes -/

namespace Registry.Write

variable {τ : Type} {r : Registry (Entry τ)} {write : Write τ} {writes : List (Write τ)}
  {entry : Entry τ}

theorem after_append (r : Registry (Entry τ)) (first second : List (Write τ)) :
    after r (first ++ second) = after (after r first) second :=
  List.foldl_append

/-- Whether a call registers something, takes something away, or takes all away. -/
def succeeds (r : Registry (Entry τ)) (write : Write τ) : Bool :=
  match (write.answer r).1 with
  | .registered _ | .removed true | .cleared => true
  | _ => false

/-- Those of some calls that succeed, made one after the other. -/
def successful (r : Registry (Entry τ)) : List (Write τ) → List (Write τ)
  | [] => []
  | write :: rest =>
    let later := successful (write.answer r).2 rest
    if write.succeeds r then write :: later else later

/-- A call that does not succeed leaves the registry as it is. -/
theorem answer_of_not_succeeds (fails : write.succeeds r = false) : (write.answer r).2 = r := by
  have does := write.does_answer r
  generalize answer : write.answer r = answered at does
  obtain ⟨reply, r'⟩ := answered
  rw [succeeds, answer] at fails
  cases does with
  | refuse | miss => rfl
  | register | unregister | clear => cases fails

/-- Only the calls that succeed make a difference. -/
theorem after_successful (r : Registry (Entry τ)) (writes : List (Write τ)) :
    after r (successful r writes) = after r writes := by
  induction writes generalizing r with
  | nil => rfl
  | cons write rest ih =>
      have later : after r (write :: rest) = after (write.answer r).2 rest := rfl
      rw [later, successful]
      cases succeeds' : write.succeeds r with
      | true => exact ih (write.answer r).2
      | false => rw [answer_of_not_succeeds succeeds']; exact ih r

/-- What is registered after a call was so before, or the call has registered it. -/
theorem mem_all_of_answer (mem : entry ∈ (write.answer r).2.all) :
    entry ∈ r.all ∨ write = .register entry.check (.ok entry.probe) entry.service := by
  cases write with
  | register check offered service =>
      cases offered with
      | error typeName => exact .inl mem
      | ok probe =>
          simp only [answer, Entry.ofOffer, Call.answer] at mem
          split at mem
          · rename_i registers
            rcases mem_all_of_register registers mem with rfl | old
            · exact .inr rfl
            · exact .inl old
          · exact .inl mem
  | unregister category name => exact .inl (mem_all_of_unregister mem)
  | clear => cases mem

/-- What is registered after some calls was so before, or one of them has registered it. -/
theorem mem_all_of_after (mem : entry ∈ (after r writes).all) :
    entry ∈ r.all ∨ .register entry.check (.ok entry.probe) entry.service ∈ writes := by
  induction writes generalizing r with
  | nil => exact .inl mem
  | cons write rest ih =>
      rcases ih mem with before | later
      · rcases mem_all_of_answer before with old | rfl
        · exact .inl old
        · exact .inr List.mem_cons_self
      · exact .inr (List.mem_cons_of_mem _ later)

end Registry.Write

open Registry (Write)

variable {τ σ : Type}

/-! ### Registrars -/

/-- A probe that registers checks and takes checks away, and ends by returning or by raising what is
caught. Meanwhile it may do anything but wait and run other checks. What it registers is a registrar
as well. -/
inductive Probe.IsRegistrar : Probe τ → Prop
  | done (value : Value) : IsRegistrar (.done value)
  | fail {fault : Fault} : fault.isOrdinary = true → IsRegistrar (.fail fault)
  | isCancelled {h : Handle} {next : Bool → Probe τ} :
      (∀ cancelled, IsRegistrar (next cancelled)) → IsRegistrar (.isCancelled h next)
  | error {h : Handle} {next : Option Fault → Probe τ} :
      (∀ cause, IsRegistrar (next cause)) → IsRegistrar (.error h next)
  | remaining {h : Handle} {next : Option τ → Probe τ} :
      (∀ left, IsRegistrar (next left)) → IsRegistrar (.remaining h next)
  | derive {h : Handle} {timeout : Option τ} {next : Probe τ} :
      IsRegistrar next → IsRegistrar (.derive h timeout next)
  | close {h : Handle} {next : Probe τ} : IsRegistrar next → IsRegistrar (.close h next)
  | cancel {h : Handle} {cause : Fault} {next : Probe τ} :
      IsRegistrar next → IsRegistrar (.cancel h cause next)
  | knows {scope : String} {next : Bool → Probe τ} :
      (∀ known, IsRegistrar (next known)) → IsRegistrar (.knows scope next)
  | cancelNamed {scope : String} {cause : Fault} {next : Probe τ} :
      IsRegistrar next → IsRegistrar (.cancelNamed scope cause next)
  | clock {next : τ → Probe τ} : (∀ now, IsRegistrar (next now)) → IsRegistrar (.clock next)
  | pass {span : τ} {next : Probe τ} : IsRegistrar next → IsRegistrar (.pass span next)
  | total {next : Nat → Probe τ} :
      (∀ total, IsRegistrar (next total)) → IsRegistrar (.total next)
  | register {check : Check} {probe : Probe τ} {next : Option Fault → Probe τ} :
      IsRegistrar probe → (∀ fault, IsRegistrar (next fault)) →
      IsRegistrar (.register check probe next)
  | unregister {category name : String} {next : Bool → Probe τ} :
      (∀ removed, IsRegistrar (next removed)) → IsRegistrar (.unregister category name next)
  | clear {next : Probe τ} : IsRegistrar next → IsRegistrar (.clear next)
  | host {next : Host → Probe τ} : (∀ host, IsRegistrar (next host)) → IsRegistrar (.host next)

/-! ### Worlds -/

namespace World

/-- One world has come of another by calls that were made of one of its registries. -/
structure Written (store : Nat) (writes : List (Write τ)) (w w' : World τ) : Prop where
  size_eq : w'.stores.size = w.stores.size
  store_eq : w'.store store = Write.after (w.store store) writes

variable {store : Nat} {writes more : List (Write τ)} {w w' w'' : World τ}

theorem Written.of_stores_eq (same : w'.stores = w.stores) : Written store [] w w' where
  size_eq := by rw [same]
  store_eq := by
    rw [World.store, same]
    rfl

/-- What is written in two parts is written as a whole. -/
theorem Written.trans (first : Written store writes w w') (second : Written store more w' w'') :
    Written store (writes ++ more) w w'' where
  size_eq := second.size_eq.trans first.size_eq
  store_eq := by rw [second.store_eq, first.store_eq, Write.after_append]

/-- A call that leaves the registry as it is. -/
theorem Written.of_answer_eq {write : Write τ} (same : w'.stores = w.stores)
    (unchanged : (write.answer (w.store store)).2 = w.store store) :
    Written store [write] w w' where
  size_eq := by rw [same]
  store_eq := by
    rw [World.store, same]
    exact unchanged.symm

theorem written_setStore (made : store < w.stores.size) (write : Write τ) :
    Written store [write] w (w.setStore store (write.answer (w.store store)).2) where
  size_eq := Array.size_modify ..
  store_eq := by
    rw [store_setStore, if_pos made]
    rfl

theorem written_note (written : Written store writes w w') (e : Event τ) :
    Written store writes w (w'.note e) :=
  ⟨written.size_eq, written.store_eq⟩

/-- A registration that is accepted is written. -/
theorem written_register (made : store < w.stores.size) {entry : Entry τ}
    (registers : w.register store entry = .ok w') :
    Written store [.register entry.check (.ok entry.probe) entry.service] w w' := by
  obtain ⟨r, added, rfl⟩ := exists_of_register registers
  have answer : ((Write.register entry.check (.ok entry.probe) entry.service).answer
      (w.store store)).2 = r := by
    simp only [Write.answer, Entry.ofOffer, Registry.Call.answer, added]
  rw [← answer]
  exact written_note (written_setStore made _) _

/-- A registration that is refused is written, too: it changes nothing. -/
theorem written_register_error {entry : Entry τ} {fault : Fault}
    (refused : w.register store entry = .error fault) :
    Written store [.register entry.check (.ok entry.probe) entry.service] w w := by
  unfold World.register at refused
  split at refused
  · cases refused
  · rename_i refused'
    refine .of_answer_eq rfl ?_
    simp only [Write.answer, Entry.ofOffer, Registry.Call.answer, refused']

theorem written_unregister (made : store < w.stores.size) (category name : String) :
    Written store [.unregister category name] w (w.unregister store category name).2 := by
  unfold World.unregister
  split
  · rename_i r removed
    have answer : ((Write.unregister category name).answer (w.store store)).2 = r :=
      congrArg Prod.snd removed
    rw [← answer]
    exact written_note (written_setStore made _) _
  · rename_i r missed
    refine .of_answer_eq rfl ?_
    have missing : (w.store store).contains category name = false := by
      by_contra there
      simp [Registry.unregister, eq_true_of_ne_false there] at missed
    simp [Write.answer, Registry.Call.answer, Registry.unregister, missing]

end World

/-- A registered check is a registrar, of the registry with a number. -/
def Entry.IsRegistrar (services : Array (Service τ σ)) (store : Nat) (entry : Entry τ) : Prop :=
  entry.probe.IsRegistrar ∧ (services[entry.service]?.map Service.store).getD 0 = store

/-- A registry that was made by calls, and in which only registrars of it are registered. -/
structure World.Registrars (services : Array (Service τ σ)) (store : Nat) (w : World τ) : Prop where
  made : store < w.stores.size
  reached : ∃ history, w.store store = Write.after {} history
  all {entry : Entry τ} : entry ∈ (w.store store).all → entry.IsRegistrar services store

/-- Calls that register none but registrars keep a registry in which there are no others. -/
theorem World.Registrars.written {services : Array (Service τ σ)} {store : Nat} {w w' : World τ}
    {writes : List (Write τ)} (registrars : w.Registrars services store)
    (written : Written store writes w w')
    (registers : ∀ check probe service, .register check (.ok probe) service ∈ writes →
      Entry.IsRegistrar services store ⟨check, probe, service⟩) :
    w'.Registrars services store where
  made := by
    rw [written.size_eq]
    exact registrars.made
  reached := by
    obtain ⟨history, reached⟩ := registrars.reached
    exact ⟨history ++ writes, by rw [written.store_eq, reached, Write.after_append]⟩
  all := by
    intro entry mem
    rw [written.store_eq] at mem
    rcases Write.mem_all_of_after mem with old | new
    · exact registrars.all old
    · exact registers _ _ _ new

theorem World.Registrars.of_stores_eq {services : Array (Service τ σ)} {store : Nat}
    {w w' : World τ} (registrars : w.Registrars services store) (same : w'.stores = w.stores) :
    w'.Registrars services store := by
  refine registrars.written (.of_stores_eq same) fun check probe service mem => ?_
  cases mem

/-! ### Probes -/

section Probes

variable [Clock τ]

/-- A registrar returns, or raises what is caught. -/
theorem World.runProbe_isOrdinary {p : Probe τ} (acts : p.IsRegistrar) (setting : Setting τ)
    (own : ScopeId) (derived : List ScopeId) (w : World τ) :
    (runProbe setting own p derived w).1.IsOrdinary := by
  induction acts generalizing derived w with
  | done value => exact .inl ⟨value, rfl⟩
  | fail ordinary => exact .inr ⟨_, rfl, ordinary⟩
  | isCancelled _ ih | error _ ih | remaining _ ih | knows _ ih | clock _ ih | total _ ih
  | unregister _ ih | host _ ih => exact ih _ _ _
  | derive _ ih | close _ ih | cancel _ ih | cancelNamed _ ih | pass _ ih | clear _ ih =>
      exact ih _ _
  | register _ _ _ ih =>
      rw [runProbe]
      split
      · exact ih _ _ _
      · exact ih _ _ _

end Probes

/-! ### Jobs -/

namespace Job

/-- What the next step of a job writes to the registry. -/
def write? (setting : World.Setting τ) : Job τ σ → Option (Write τ)
  | .acting _ (.register check probe _) => some (.register check (.ok probe) setting.service)
  | .acting _ (.unregister category name _) => some (.unregister category name)
  | .acting _ (.clear _) => some .clear
  | _ => none

/-- A job of a check whose probe is a registrar; if it has ended, then with a record of that
check. -/
def IsOrderly (check : Check) : Job τ σ → Prop
  | .acting _ probe => probe.IsRegistrar
  | .waiting .. | .ended (.error _) => False
  | .ended (.ok record) => record.check = check
  | .fresh | .entering .. | .judged .. | .stamped .. => True

/-- An orderly job registers none but registrars, of the service it belongs to. -/
theorem IsOrderly.registers {setting : World.Setting τ} {check new : Check} {job : Job τ σ}
    {probe : Probe τ} {service : Nat} (orderly : job.IsOrderly check)
    (writes : job.write? setting = some (.register new (.ok probe) service)) :
    probe.IsRegistrar ∧ service = setting.service := by
  unfold write? at writes
  split at writes
  · cases writes
    cases orderly with
    | register inner _ => exact ⟨inner, rfl⟩
  · cases writes
  · cases writes
  · cases writes

variable [Clock τ] {setting : World.Setting τ} {r : Runner τ σ} {entry : Entry τ} {scope : ScopeId}
  {job job' : Job τ σ} {w w' : World τ} {frame : Frame τ} {limit : τ} {probe : Probe τ}
  {check : Check}

/-- What becomes of an orderly job at a step. -/
structure Proceeds (setting : World.Setting τ) (check : Check) (job : Job τ σ) (w : World τ)
    (job' : Job τ σ) (w' : World τ) : Prop where
  orderly : job'.IsOrderly check
  written : World.Written setting.store (job.write? setting).toList w w'

omit [Clock τ] in
/-- A probe that ends in what is caught has its record made. -/
theorem judge_of_isOrdinary {outcome : Outcome Value} (ordinary : outcome.IsOrdinary)
    (check : Check) (frame : Frame τ) (w : World τ) :
    ∃ error details w', (judge check frame outcome w : Option (Job τ σ × World τ)) =
      some (.judged frame error details, w') ∧ w'.stores = w.stores := by
  obtain ⟨shown, shows⟩ := Runner.Verdict.isOrdinary_iff.mp ordinary
  unfold judge
  cases verdict : Runner.Verdict.ofOutcome outcome with
  | details value => exact ⟨_, _, _, rfl, rfl⟩
  | failure fault => exact ⟨_, _, _, rfl, rfl⟩
  | escape fault =>
      rw [verdict] at shows
      cases shows
  | stalled =>
      rw [verdict] at shows
      cases shows

/-- What a registrar does next. -/
theorem act_proceeds (acts : probe.IsRegistrar) (made : setting.store < w.stores.size)
    (frame : Frame τ) : ∃ (job' : Job τ σ) (w' : World τ),
      act setting check frame probe w = some (job', w') ∧
        Proceeds setting check (.acting frame probe : Job τ σ) w job' w' := by
  cases acts with
  | done value =>
      obtain ⟨error, details, w', judged, same⟩ :=
        judge_of_isOrdinary (σ := σ) (.inl ⟨value, rfl⟩) check frame w
      exact ⟨_, w', judged, trivial, .of_stores_eq same⟩
  | @fail fault ordinary =>
      obtain ⟨error, details, w', judged, same⟩ :=
        judge_of_isOrdinary (σ := σ) (.inr ⟨fault, rfl, ordinary⟩) check frame w
      exact ⟨_, w', judged, trivial, .of_stores_eq same⟩
  | isCancelled next | error next | remaining next | knows next | clock next | total next
  | host next => exact ⟨_, _, rfl, next _, .of_stores_eq rfl⟩
  | derive next | close next | cancel next | pass next =>
      exact ⟨_, _, rfl, next, .of_stores_eq rfl⟩
  | cancelNamed next =>
      refine ⟨_, _, rfl, next, .of_stores_eq ?_⟩
      split <;> rfl
  | @register new inner next _ goesOn =>
      cases answer : w.register setting.store ⟨new, inner, setting.service⟩ with
      | ok w' =>
          refine ⟨.acting frame (next none), w', ?_, goesOn _, World.written_register made answer⟩
          simp only [act, answer]
      | error fault =>
          refine ⟨.acting frame (next (some fault)), w, ?_, goesOn _,
            World.written_register_error answer⟩
          simp only [act, answer]
  | unregister next => exact ⟨_, _, rfl, next _, World.written_unregister made _ _⟩
  | clear next => exact ⟨_, _, rfl, next, World.written_setStore made .clear⟩

/-- An orderly job that has not ended can make a step. -/
theorem step_proceeds (deadline : r.timeout.seconds? = .ok limit)
    (stamps : ∀ now, ∃ stamp, r.stamp now = .ok stamp) (acts : entry.probe.IsRegistrar)
    (made : setting.store < w.stores.size) (orderly : job.IsOrderly entry.check)
    (scope : ScopeId) :
    (∃ result, job = .ended result) ∨ ∃ job' w',
      job.step setting r entry scope w = some (job', w') ∧
        Proceeds setting entry.check job w job' w' := by
  cases job with
  | fresh =>
      let noted := (w.issueId r.ids).2.note (.running entry.check.key)
      refine .inr ⟨.entering (w.issueId r.ids).1 noted.line.now limit, noted, ?_, trivial,
        .of_stores_eq (World.stores_issueId ..)⟩
      simp only [step, deadline, noted]
  | entering id start limit => exact .inr ⟨_, _, rfl, acts, .of_stores_eq rfl⟩
  | acting frame probe => exact .inr (act_proceeds orderly made frame)
  | waiting => cases orderly
  | judged frame error details =>
      obtain ⟨stamp, stamped⟩ := stamps w.line.now
      refine .inr ⟨.stamped frame stamp error details, w, ?_, trivial, .of_stores_eq rfl⟩
      simp only [step, stamped]
  | stamped frame timestamp error details =>
      refine .inr ⟨_, _, rfl, rfl, .of_stores_eq ?_⟩
      split <;> rfl
  | ended result => exact .inl ⟨result, rfl⟩

end Job

/-! ### Batches -/

namespace Crew

variable [Clock τ]

/-- What a step of a batch writes to the registry. -/
def write? (setting : Entry τ → World.Setting τ) (c : Crew τ σ) : Step τ → Option (Write τ)
  | .work k => c.pool.tasks[k]?.bind fun task => c.jobs[k]?.bind (Job.write? (setting task.item))
  | _ => none

/-- What the steps of a batch write to the registry, in the order in which they are made. -/
def writes (setting : Entry τ → World.Setting τ) (r : Runner τ σ) (c : Crew τ σ) :
    List (Step τ) → List (Write τ)
  | [] => []
  | s :: steps => (c.write? setting s).toList ++
      (c.step setting r s).elim [] fun c => c.writes setting r steps

def Step.begun? : Step τ → Option Nat
  | .begin k => some k
  | _ => none

def begun (steps : List (Step τ)) : List Nat := steps.filterMap Step.begun?

variable {services : Array (Service τ σ)} {store size : Nat} {entries : List (Entry τ)}
  {r : Runner τ σ} {limit : τ} {caller : ScopeId} {w : World τ} {c c' : Crew τ σ} {s : Step τ}
  {steps : List (Step τ)} {setting : Entry τ → World.Setting τ}

theorem emits_writes :
    Emits (step setting r) (fun c s => (c.write? setting s).toList) (writes setting r) := by
  refine ⟨fun _ => rfl, fun makes steps => ?_⟩
  rw [writes, makes, Option.elim_some]

/-- The steps of a batch are steps of its pool, which begin the same tasks. -/
theorem pool_run (runs : c.run setting r steps = some c') :
    ∃ made, c.pool.run made = some c'.pool ∧ Pool.begun made = begun steps := by
  induction steps generalizing c with
  | nil =>
      cases runs
      exact ⟨[], rfl, rfl⟩
  | cons s steps ih =>
      obtain ⟨between, makes, goesOn⟩ := Option.bind_eq_some_iff.mp runs
      obtain ⟨made, runs, begins⟩ := ih goesOn
      cases move_of_step makes with
      | pool pool isStep steps' =>
          refine ⟨_ :: made, Option.bind_eq_some_iff.mpr ⟨_, steps', runs⟩, ?_⟩
          cases isStep with
          | begin k => exact congrArg (k :: ·) begins
          | take | acquire | finish | release | collect => exact begins
      | submit pool steps' =>
          exact ⟨.submit :: made, Option.bind_eq_some_iff.mpr ⟨_, steps', runs⟩, begins⟩
      | leave pool steps' =>
          exact ⟨.leave :: made, Option.bind_eq_some_iff.mpr ⟨_, steps', runs⟩, begins⟩
      | work | later | fire => exact ⟨made, runs, begins⟩

/-- A batch of registrars on its way: what is registered are still registrars, every task has an
orderly job, and tasks end with what their jobs have come to. -/
structure Orderly (services : Array (Service τ σ)) (store : Nat) (entries : List (Entry τ))
    (c : Crew τ σ) : Prop where
  registrars : c.world.Registrars services store
  itemized : c.pool.Itemized entries
  length_eq : c.jobs.length = c.pool.tasks.length
  jobs {k : Nat} {job : Job τ σ} {entry : Entry τ} : c.jobs[k]? = some job →
    entries[k]? = some entry → job.IsOrderly entry.check
  results {k : Nat} {result : Except Fault (Record σ)} : c.pool.result? k = some result →
    c.jobs[k]? = some (.ended result)

omit [Clock τ] in
theorem Orderly.paired (orderly : c.Orderly services store entries) : c.Paired entries :=
  ⟨orderly.itemized, orderly.length_eq, orderly.results⟩

theorem orderly_start (registrars : w.Registrars services store) (size : Nat)
    (entries : List (Entry τ)) (caller : ScopeId) :
    (start size entries caller w : Crew τ σ).Orderly services store entries where
  registrars := registrars.of_stores_eq rfl
  itemized := Pool.itemized_start size entries
  length_eq := rfl
  jobs := nofun
  results := nofun

omit [Clock τ] in
/-- A step after which tasks and jobs are still paired. -/
theorem Orderly.of_paired (paired : c.Paired entries) (registrars : c.world.Registrars services store)
    (jobs : ∀ {k : Nat} {job : Job τ σ} {entry : Entry τ}, c.jobs[k]? = some job →
      entries[k]? = some entry → job.IsOrderly entry.check) : c.Orderly services store entries :=
  ⟨registrars, paired.itemized, paired.length_eq, jobs, paired.results⟩

omit [Clock τ] in
theorem Orderly.withLine (orderly : c.Orderly services store entries) (t : Timeline τ) :
    (c.withLine t).Orderly services store entries :=
  { orderly with registrars := orderly.registrars.of_stores_eq rfl }

omit [Clock τ] in
/-- A task that is submitted has a job that has not begun. -/
theorem Orderly.submit (orderly : c.Orderly services store entries)
    {pool : Pool (Entry τ) (Record σ)} (makes : c.pool.step .submit = some pool) :
    ({ c with pool, jobs := c.jobs ++ [.fresh] } : Crew τ σ).Orderly services store entries := by
  refine .of_paired (orderly.paired.submit makes) orderly.registrars ?_
  intro k job entry here at'
  rcases Nat.lt_or_ge k c.jobs.length with old | new
  · rw [List.getElem?_append_left old] at here
    exact orderly.jobs here at'
  · rw [List.getElem?_append_right new, List.getElem?_singleton] at here
    split at here
    · cases here
      trivial
    · cases here

/-- The job of a task that runs has made a step. -/
theorem Orderly.work (orderly : c.Orderly services store entries) {k : Nat} {entry : Entry τ}
    {job job' : Job τ σ} {world : World τ} (acts : entry.IsRegistrar services store)
    (running : c.pool.tasks[k]? = some ⟨entry, .running⟩) (here : c.jobs[k]? = some job)
    (goesOn : job'.IsOrderly entry.check)
    (written : World.Written store (job.write? (Runner.settingOf services entry)).toList c.world
      world) :
    ({ c with jobs := c.jobs.set k job', world } : Crew τ σ).Orderly services store entries := by
  have at' := orderly.itemized.item_eq running
  refine .of_paired (orderly.paired.work job' world running) ?_ ?_
  · refine orderly.registrars.written written fun check probe service mem => ?_
    obtain ⟨inner, rfl⟩ := (orderly.jobs here at').registers (Option.mem_toList.mp mem)
    exact ⟨inner, acts.2⟩
  · intro j other entry' there entered
    by_cases same : k = j
    · subst same
      rw [List.getElem?_set_self (List.getElem?_eq_some_iff.mp here).1] at there
      rw [at'] at entered
      cases there
      cases entered
      exact goesOn
    · rw [List.getElem?_set_ne same] at there
      exact orderly.jobs there entered

section Steps

variable (deadline : r.timeout.seconds? = .ok limit)
  (stamps : ∀ now, ∃ stamp, r.stamp now = .ok stamp)
  (acts : ∀ entry ∈ entries, entry.IsRegistrar services store)
  (orderly : c.Orderly services store entries)
include deadline stamps acts orderly

/-- The job of a task has ended, or can make a step, and this writes what is known before. -/
theorem Orderly.job_proceeds {k : Nat} {task : Task (Entry τ) (Record σ)} {job : Job τ σ}
    (there : c.pool.tasks[k]? = some task) (here : c.jobs[k]? = some job) :
    task.item.IsRegistrar services store ∧ ((∃ result, job = .ended result) ∨ ∃ job' world,
      job.step (Runner.settingOf services task.item) r task.item c.scope c.world =
          some (job', world) ∧
        job'.IsOrderly task.item.check ∧
        World.Written store (job.write? (Runner.settingOf services task.item)).toList c.world
          world) := by
  have at' := orderly.itemized.item_eq there
  have acts := acts task.item (List.mem_of_getElem? at')
  have own : (Runner.settingOf services task.item).store = store := acts.2
  refine ⟨acts, ?_⟩
  rcases Job.step_proceeds deadline stamps acts.1 (own ▸ orderly.registrars.made)
    (orderly.jobs here at') c.scope with ended | ⟨job', world, makes, goesOn, written⟩
  · exact .inl ended
  · rw [own] at written
    exact .inr ⟨job', world, makes, goesOn, written⟩

/-- What every step of a batch of registrars keeps, and what it writes. -/
theorem step_orderly (makes : c.step (Runner.settingOf services) r s = some c') :
    c'.Orderly services store entries ∧
      World.Written store (c.write? (Runner.settingOf services) s).toList c.world c'.world := by
  cases move_of_step makes with
  | later | fire => exact ⟨orderly.withLine _, .of_stores_eq rfl⟩
  | pool pool isStep steps =>
      have silent : c.write? (Runner.settingOf services) s = none := by
        cases isStep <;> rfl
      rw [silent]
      have paired := orderly.paired.of_pool steps (by cases isStep <;> rintro ⟨⟩) (by
        rintro k result rfl
        cases isStep
        assumption)
      exact ⟨.of_paired paired orderly.registrars orderly.jobs, .of_stores_eq rfl⟩
  | submit pool steps => exact ⟨orderly.submit steps, .of_stores_eq rfl⟩
  | leave pool steps =>
      have paired := orderly.paired.of_pool steps (by rintro ⟨⟩) (by rintro k result ⟨⟩)
      have left := Orderly.of_paired paired orderly.registrars orderly.jobs
      exact ⟨left.withLine _, .of_stores_eq rfl⟩
  | work k entry job job' world running here works =>
      have writes : c.write? (Runner.settingOf services) (.work k) =
          job.write? (Runner.settingOf services entry) := by
        simp only [write?, running, here, Option.bind_some]
      rw [writes]
      obtain ⟨acts, ⟨result, rfl⟩ | ⟨job'', world', makes', goesOn, written⟩⟩ :=
        orderly.job_proceeds deadline stamps acts running here
      · cases works
      · rw [works] at makes'
        cases makes'
        exact ⟨orderly.work acts running here goesOn written, written⟩

omit orderly in
/-- What the steps of a batch of registrars keep, and what they write. -/
theorem run_orderly (orderly : c.Orderly services store entries)
    (runs : c.run (Runner.settingOf services) r steps = some c') :
    c'.Orderly services store entries ∧
      World.Written store (c.writes (Runner.settingOf services) r steps) c.world c'.world := by
  refine emits_writes.history isRun
    (I := fun writes c' => c'.Orderly services store entries ∧
      World.Written store writes c.world c'.world) ?_ [] runs ⟨orderly, .of_stores_eq rfl⟩
  rintro past c c' s - ⟨orderly, written⟩ makes
  obtain ⟨still, more⟩ := step_orderly deadline stamps acts orderly makes
  exact ⟨still, written.trans more⟩

/-- Unless the caller has left, a step can be made that is not one of the clock, as no job of a
registrar is kept from going on. -/
theorem Orderly.goesOn (workers : 0 < c.pool.size) (slotted : c.pool.Slotted size entries)
    (gathered : c.pool.Gathered) (unfinished : ¬ c.pool.IsFinal) :
    ∃ s c', s.isClock = false ∧ c.step (Runner.settingOf services) r s = some c' := by
  rcases exists_step_or_blocked r (Runner.settingOf services) workers slotted gathered
    orderly.paired unfinished with goesOn | ⟨k, entry, job, there, here, going, blocked⟩
  · exact goesOn
  · obtain ⟨-, ⟨result, ended⟩ | ⟨job', world, makes, -⟩⟩ :=
      orderly.job_proceeds deadline stamps acts there here
    · exact absurd ended (going result)
    · rw [blocked] at makes
      cases makes

end Steps

/-! ### Ends -/

omit [Clock τ] in
/-- Where every job has ended with a record of its entry, there are these records. -/
theorem exists_records {jobs : List (Job τ σ)} {entries : List (Entry τ)}
    (length_eq : jobs.length = entries.length)
    (each : ∀ (k : Nat) (entry : Entry τ), entries[k]? = some entry →
      ∃ record : Record σ, jobs[k]? = some (.ended (.ok record)) ∧ record.check = entry.check) :
    ∃ records : List (Record σ), jobs = records.map (fun record => .ended (.ok record)) ∧
      records.map Record.check = entries.map Entry.check := by
  induction entries generalizing jobs with
  | nil => exact ⟨[], List.eq_nil_of_length_eq_zero length_eq, rfl⟩
  | cons entry entries ih =>
      obtain ⟨record, first, check⟩ := each 0 entry rfl
      cases jobs with
      | nil => cases first
      | cons job jobs =>
          cases first
          obtain ⟨records, rfl, checks⟩ := ih (Nat.succ.inj length_eq) fun k => each (k + 1)
          exact ⟨record :: records, rfl, by rw [List.map_cons, List.map_cons, check, checks]⟩

section Final

omit [Clock τ]

variable (orderly : c.Orderly services store entries) (gathered : c.pool.Gathered)
include orderly

/-- A task that is done has ended with a record of its entry. -/
theorem Orderly.exists_record {k : Nat} {entry : Entry τ} {result : Except Fault (Record σ)}
    (at' : entries[k]? = some entry) (done : c.pool.result? k = some result) :
    ∃ record, result = .ok record ∧ record.check = entry.check := by
  have fine := orderly.jobs (orderly.results done) at'
  cases result with
  | error fault => cases fine
  | ok record => exact ⟨record, rfl, fine⟩

/-- At the end of a batch every entry has had its task. -/
theorem Orderly.length_of_isFinal (final : c.pool.IsFinal) :
    c.pool.tasks.length = entries.length := by
  rw [← Pool.items_of_isFinal orderly.itemized final, List.length_map]

include gathered

/-- No task has a fault that the caller could find. -/
theorem Orderly.left_of_isFinal (final : c.pool.IsFinal) : c.pool.caller = .left none := by
  have length_eq := orderly.length_of_isFinal final
  obtain ⟨fault, left⟩ := final
  cases fault with
  | none => exact left
  | some fault =>
      obtain ⟨k, failed⟩ := gathered.raised left
      have inside := Pool.lt_length_of_result? failed
      rw [length_eq] at inside
      obtain ⟨record, ⟨⟩, -⟩ := orderly.exists_record (List.getElem?_eq_getElem inside) failed

/-- What there is in the end: every entry has a record, and the caller has collected these. -/
theorem Orderly.records (final : c.pool.IsFinal) :
    c.pool.allReleased ∧ ∃ records : List (Record σ),
      c.jobs = records.map (fun record => .ended (.ok record)) ∧
      records.map Record.check = entries.map Entry.check ∧
      ∃ collected, c.outcome? = some (.returned collected) ∧ collected.Perm records := by
  have length_eq := orderly.length_of_isFinal final
  have all := (gathered.complete (orderly.left_of_isFinal gathered final)).1
  have each (k : Nat) (entry : Entry τ) (at' : entries[k]? = some entry) : ∃ record : Record σ,
      c.jobs[k]? = some (.ended (.ok record)) ∧ record.check = entry.check := by
    have inside := (List.getElem?_eq_some_iff.mp at').1
    rw [← length_eq] at inside
    obtain ⟨result, released⟩ := Pool.exists_result?_of_allReleased all inside
    have done : c.pool.result? k = some result := by
      rw [Pool.result?, released]
      rfl
    obtain ⟨record, rfl, check⟩ := orderly.exists_record at' done
    exact ⟨record, orderly.results done, check⟩
  obtain ⟨records, jobs, checks⟩ := exists_records (orderly.length_eq.trans length_eq) each
  exact ⟨all, records, jobs, checks, orderly.paired.outcome_of_records jobs gathered final⟩

end Final

/-! ### Every order of steps -/

/-- A batch comes to its end, whatever the order of its steps: unless the caller has left, a step
can be made that is not one of the clock, and from wherever such a step leads, whatever the clock
has done before it, the batch comes to its end. -/
inductive ComesToEnd (setting : Entry τ → World.Setting τ) (r : Runner τ σ) : Crew τ σ → Prop
  | final {c : Crew τ σ} : c.pool.IsFinal → ComesToEnd setting r c
  | goesOn {c : Crew τ σ} : (∃ s c', s.isClock = false ∧ c.step setting r s = some c') →
      (∀ {times : List (Step τ)} {s : Step τ} {c' : Crew τ σ}, (∀ time ∈ times, time.isClock) →
        s.isClock = false → c.run setting r (times ++ [s]) = some c' → ComesToEnd setting r c') →
      ComesToEnd setting r c

section Run

variable (deadline : r.timeout.seconds? = .ok limit)
  (stamps : ∀ now, ∃ stamp, r.stamp now = .ok stamp) (workers : 1 ≤ size)
  (registrars : w.Registrars services store)
  (acts : ∀ entry ∈ entries, entry.IsRegistrar services store)
include deadline stamps workers registrars acts

/-- No order of the steps of a batch of registrars goes on forever: by induction on what is left to
do. -/
theorem comesToEnd_of_run
    (runs : (start size entries caller w).run (Runner.settingOf services) r steps = some c) :
    c.ComesToEnd (Runner.settingOf services) r := by
  induction left : c.left using (less_wellFounded r).induction generalizing c steps with
  | h _ ih =>
      subst left
      obtain ⟨made, poolRuns, -⟩ := pool_run runs
      have slotted := Pool.slotted_run poolRuns
      have gathered := Pool.gathered_run poolRuns
      by_cases final : c.pool.IsFinal
      · exact .final final
      have orderly := (run_orderly deadline stamps acts (orderly_start registrars ..) runs).1
      refine .goesOn (orderly.goesOn deadline stamps acts (slotted.size_eq ▸ workers) slotted
        gathered final) fun clock other later => ?_
      exact ih _ (run_left gathered clock other later) (isRun.append runs later) rfl

end Run

end Crew

end Checkup
