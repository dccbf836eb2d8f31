import Checkup.Proofs.Clock.WholeSeconds
import Checkup.Proofs.Config.Admitted
import Checkup.Proofs.Pool.Batch
import Checkup.Proofs.Runner.Batch
import Checkup.Service

/-!
Runs that return, whatever comes of the checks.

Once the deadline of a runner is a time, nothing that a check does can end a run early: where the
probes that are run return, or raise what is caught, the run returns a record for each. Whole
numbers of seconds are valid at any size, though, and one that no clock can hold ends every run
that has a check to run.

Main statements: `runs_return` and `runs_overflow`.
-/

namespace Checkup

variable {τ σ : Type}

/-! ### Deadlines that are times -/

namespace Config

/-- The deadline is a time, unless it is a whole number of seconds that is too large. -/
def Fits (c : Config) : Prop := ∀ n, c.timeout = .whole n → n.natAbs < Decimal.tooLong

/-- Settings fit if the deadline of a runner with them is a time. -/
theorem fits_iff {c : Config} :
    c.Fits ↔ ∃ limit, (Span.ofValue (numberValue c.timeout)).seconds? = .ok limit := by
  obtain ⟨workers, timeout⟩ := c
  cases timeout with
  | whole n =>
      refine Iff.trans ?_ (Span.seconds?_whole_iff n).symm
      constructor
      · intro fits
        exact fits n rfl
      · rintro small _ ⟨⟩
        exact small
  | real x => exact iff_of_true nofun ⟨x, rfl⟩

end Config

/-! ### Checks -/

namespace Runner

variable [Clock τ] {services : Array (Service τ σ)} {r : Runner τ σ} {limit : τ} {scope : ScopeId}
  {entry : Entry τ} {entries : List (Entry τ)} {w : World τ} {fault : Fault}

/-- The probe of an entry returns, or raises what is caught, when it is run under a scope. -/
def Behaves (services : Array (Service τ σ)) (r : Runner τ σ) (limit : τ) (entry : Entry τ)
    (scope : ScopeId) (w : World τ) : Prop :=
  (probeRun (settingOf services entry) r limit entry scope w).1.IsOrdinary

/-- So do the probes of entries that are run one after the other. -/
def AllBehave (services : Array (Service τ σ)) (r : Runner τ σ) (limit : τ) (scope : ScopeId) :
    List (Entry τ) → World τ → Prop
  | [], _ => True
  | entry :: rest, w => Behaves services r limit entry scope w ∧
      AllBehave services r limit scope rest (r.runOne services entry scope w).2

/-- A check that behaves comes to a record of its own. -/
theorem runOne_returns (deadline : r.timeout.seconds? = .ok limit)
    (stamps : ∀ now, ∃ stamp, r.stamp now = .ok stamp)
    (behaves : Behaves services r limit entry scope w) :
    ∃ record, (r.runOne services entry scope w).1 = .returned record ∧
      record.check = entry.check := by
  obtain ⟨⟨error, details⟩, shown⟩ := Verdict.isOrdinary_iff.mp behaves
  obtain ⟨stamp, stamped⟩ := stamps _
  have made := (executeIn_returned_iff deadline).mpr ⟨stamp, error, details, stamped, shown, rfl⟩
  exact ⟨_, made, check_of_returned made⟩

/-- Checks that behave come to one record each, in order. -/
theorem runEach_records (deadline : r.timeout.seconds? = .ok limit)
    (stamps : ∀ now, ∃ stamp, r.stamp now = .ok stamp)
    (behave : AllBehave services r limit scope entries w) :
    ∃ records : List (Record σ),
      (r.runEach services scope entries w).1 = records.map Outcome.returned ∧
        records.map Record.check = entries.map Entry.check := by
  induction entries generalizing w with
  | nil => exact ⟨[], rfl, rfl⟩
  | cons entry rest ih =>
      obtain ⟨behaves, others⟩ := behave
      obtain ⟨record, returned, same⟩ := runOne_returns deadline stamps behaves
      obtain ⟨records, returneds, sames⟩ := ih others
      refine ⟨record :: records, ?_, ?_⟩
      · rw [List.map_cons, ← returneds, ← returned]
        rfl
      · rw [List.map_cons, List.map_cons, same, sames]

/-- Without a deadline that is a time, no check is run. -/
theorem runOne_raises (noTime : r.timeout.seconds? = .error fault) :
    (r.runOne services entry scope w).1 = .raised fault := by
  show (executeIn (settingOf services entry) r entry scope w).1 = .raised fault
  simp only [executeIn, noTime]

/-- Where the timeout is no deadline, checks that are run raise the fault of that. -/
theorem gather_raises (noTime : r.timeout.seconds? = .error fault) (filled : entries ≠ []) :
    gather (r.runEach services scope entries w).1 = .raised fault := by
  induction entries generalizing w with
  | nil => exact absurd rfl filled
  | cons entry rest ih =>
      have first : (r.runOne services entry scope w).1 = .raised fault := runOne_raises noTime
      cases rest with
      | nil => simp only [runEach, gather, first]
      | cons next rest =>
          have others := ih (w := (r.runOne services entry scope w).2)
            (List.cons_ne_nil next rest)
          show gather ((r.runOne services entry scope w).1 ::
            (r.runEach services scope (next :: rest) (r.runOne services entry scope w).2).1) = _
          simp only [gather, first, others]

/-- A pool of workers, however its steps are ordered: where its tasks end with what their entries
come to, it goes on until the caller has left, without a fault and with a record for each entry. -/
theorem pool_returns (deadline : r.timeout.seconds? = .ok limit)
    (stamps : ∀ now, ∃ stamp, r.stamp now = .ok stamp) {size : Nat} (workers : 1 ≤ size)
    {steps : List (Pool.Step (Record σ))} {p : Pool (Entry τ) (Record σ)}
    (runs : (Pool.start size entries).run steps = some p)
    (executes : ∀ k result entry, Pool.Step.finish k result ∈ steps → entries[k]? = some entry →
      ∃ scope w, Behaves services r limit entry scope w ∧
        (r.runOne services entry scope w).1 = .ofExcept result) :
    (¬ p.IsFinal → p.CanGoOn) ∧ (p.IsFinal → p.caller = .left none ∧
      (p.collected.map fun c => c.2.check).Perm (entries.map Entry.check)) := by
  have gathered := Pool.gathered_run runs
  have tracked := Pool.tracked_run runs
  have slotted := Pool.slotted_run runs
  refine ⟨Pool.canGoOn (slotted.size_eq ▸ workers) slotted gathered, fun final => ?_⟩
  have faultless : Pool.Faultless steps := by
    intro k fault mem
    have inside := Pool.lt_length_of_finish tracked mem
    rw [← List.length_map Task.item, Pool.items_of_isFinal (Pool.itemized_run runs) final] at inside
    obtain ⟨scope, w, behaves, raised⟩ :=
      executes k _ _ mem (List.getElem?_eq_getElem inside)
    obtain ⟨record, returned, -⟩ := runOne_returns deadline stamps behaves
    rw [returned] at raised
    cases raised
  refine ⟨Pool.left_of_isFinal tracked gathered faultless final,
    Pool.told_perm runs faultless final Record.check Entry.check ?_⟩
  intro k record entry mem here
  obtain ⟨scope, w, behaves, same⟩ := executes k _ _ mem here
  obtain ⟨record', returned, check⟩ := runOne_returns deadline stamps behaves
  rw [returned] at same
  cases same
  exact check

end Runner

/-! ### Services -/

namespace Service

open Runner (AllBehave Behaves gather)

variable [Clock τ] {services : Array (Service τ σ)} {s : Service τ σ} {limit : τ}
  {scope : Option ScopeId} {entries : List (Entry τ)} {label : String} {w : World τ} {fault : Fault}

/-- The scope that the checks of a batch are run under, and the world that the first is run in. -/
def batchStart (label : String) (entries : List (Entry τ)) (scope : Option ScopeId) (w : World τ) :
    ScopeId × World τ :=
  let begun := (scopeOr scope w).2.note (.batchStarted entries.length label)
  let derived := begun.line.child (scopeOr scope w).1 none
  (derived.1, { begun with line := derived.2 })

/-- The probes of a batch return, or raise what is caught. -/
def BatchBehaves (services : Array (Service τ σ)) (s : Service τ σ) (limit : τ) (label : String)
    (entries : List (Entry τ)) (scope : Option ScopeId) (w : World τ) : Prop :=
  AllBehave services s.runner limit (batchStart label entries scope w).1 entries
    (batchStart label entries scope w).2

theorem fst_runBatch : (s.runBatch services label entries scope w).1 =
    gather (s.runner.runEach services (batchStart label entries scope w).1 entries
      (batchStart label entries scope w).2).1 := by
  have all : (s.runner.runAll services entries (scopeOr scope w).1
      ((scopeOr scope w).2.note (.batchStarted entries.length label))).1 =
    gather (s.runner.runEach services (batchStart label entries scope w).1 entries
      (batchStart label entries scope w).2).1 := rfl
  rw [← all]
  unfold runBatch
  dsimp only
  split
  · rename_i returned
    rw [returned]
  · rename_i other
    rw [other]

/-- A batch of checks that behave returns their records. -/
theorem runBatch_returns (deadline : s.runner.timeout.seconds? = .ok limit)
    (stamps : ∀ now, ∃ stamp, s.runner.stamp now = .ok stamp)
    (behaves : s.BatchBehaves services limit label entries scope w) :
    ∃ records, (s.runBatch services label entries scope w).1 = .returned records ∧
      records.map Record.check = entries.map Entry.check := by
  obtain ⟨records, returned, checks⟩ := Runner.runEach_records deadline stamps behaves
  refine ⟨records, ?_, checks⟩
  rw [fst_runBatch, returned, Runner.gather_returned]

/-- What a service comes to, from any world and under any scope or none, as long as the probes that
it runs return or raise what is caught. -/
structure Returns (services : Array (Service τ σ)) (s : Service τ σ) (limit : τ)
    (scope : Option ScopeId) (w : World τ) : Prop where
  /-- A record for each check that is registered. -/
  run : s.BatchBehaves services limit "all" (w.store s.store).all scope w →
    ∃ records, (s.run services scope w).1 = .returned records ∧
      records.map Record.check = (w.store s.store).all.map Entry.check
  /-- A record for each check of a category; none if there is no such category. -/
  runCategory : ∀ category,
    (∀ entries, (w.store s.store).ofCategory? category = some entries →
      s.BatchBehaves services limit category entries scope w) →
    ∃ records, (s.runCategory services category scope w).1 = .returned records ∧
      records.map Record.check =
        (((w.store s.store).ofCategory? category).getD []).map Entry.check
  /-- A record of the check that is asked for, if it is registered. -/
  runCheck : ∀ category name,
    (∀ entry, (w.store s.store).get? category name = some entry →
      Behaves services s.runner limit entry (scopeOr scope w).1 (scopeOr scope w).2) →
    ∃ record, (s.runCheck services category name scope w).1 = .returned record ∧
      record.map Record.check = ((w.store s.store).get? category name).map Entry.check

theorem returns (deadline : s.runner.timeout.seconds? = .ok limit)
    (stamps : ∀ now, ∃ stamp, s.runner.stamp now = .ok stamp) :
    s.Returns services limit scope w where
  run behaves := runBatch_returns deadline stamps behaves
  runCategory category behave := by
    unfold Service.runCategory
    cases found : (w.store s.store).ofCategory? category with
    | none => exact ⟨[], rfl, rfl⟩
    | some entries => exact runBatch_returns deadline stamps (behave entries found)
  runCheck category name behaves := by
    unfold Service.runCheck
    cases found : (w.store s.store).get? category name with
    | none => exact ⟨none, rfl, rfl⟩
    | some entry =>
        obtain ⟨record, returned, check⟩ :=
          Runner.runOne_returns deadline stamps (behaves entry found)
        refine ⟨some record, ?_, by rw [Option.map_some, check, Option.map_some]⟩
        simp only [returned, Outcome.map]

omit [Clock τ] in
/-- What a run that is not even begun raises. -/
theorem seconds?_of_not_fits {c : Config} (long : ¬ c.Fits) :
    (Span.ofValue (Config.numberValue c.timeout)).seconds? =
      .error (.because .overflowError "int too large to convert to float") := by
  obtain ⟨workers, timeout⟩ := c
  cases timeout with
  | whole n =>
      apply Span.seconds?_whole_of_tooLong
      apply Nat.le_of_not_lt
      intro small
      apply long
      rintro _ ⟨⟩
      exact small
  | real x => exact absurd nofun long

/-- Valid settings whose deadline fits make a service that always returns, under any scope or none:
as long as the probes that it runs return or raise what is caught, there is a record for each check
that it is asked to run. With more than one worker this holds however the workers take turns. -/
theorem runs_return {workers timeout : Value} {c : Config}
    (valid : Config.make workers timeout = .ok c) (fits : c.Fits) (ids : IdSource)
    {stamp : Float → Except Fault σ} (stamps : ∀ now, ∃ t, stamp now = .ok t) :
    ∃ r limit, Runner.ofConfig c ids stamp = .ok r ∧ r.timeout.seconds? = .ok limit ∧
      (∀ services store scope w, Returns services { store, runner := r } limit scope w) ∧
      ∀ (services : Array (Service Float σ)) (entries : List (Entry Float))
        (steps : List (Pool.Step (Record σ))) (p : Pool (Entry Float) (Record σ)),
        (Pool.start c.maxWorkers.toNat entries).run steps = some p →
        (∀ k result entry, Pool.Step.finish k result ∈ steps → entries[k]? = some entry →
          ∃ scope w, Behaves services r limit entry scope w ∧
            (r.runOne services entry scope w).1 = .ofExcept result) →
        (¬ p.IsFinal → p.CanGoOn) ∧ (p.IsFinal → p.caller = .left none ∧
          (p.collected.map fun c => c.2.check).Perm (entries.map Entry.check)) := by
  obtain ⟨limit, deadline⟩ := Config.fits_iff.mp fits
  have enough : 1 ≤ c.maxWorkers.toNat := by
    have := (Config.make_ok_iff.mp valid).1.2
    omega
  refine ⟨_, limit, Runner.ofConfig_of_valid valid ids stamp, deadline, ?_, ?_⟩
  · intro services store scope w
    exact returns deadline stamps
  · intro services entries steps p runs executes
    exact Runner.pool_returns deadline stamps enough runs executes

def holding (check : Check) (probe : Probe Float) : World Float where
  line := { now := 0.0 }
  stores := #[{ buckets := [(check.category, [(check.name, { check, probe })])], count := 1 }]

theorem long_deadline_returns :
    let check : Check := ⟨"mute", "says nothing", "quiet"⟩
    ∃ c r, Config.make (.int 3) (.int (10 ^ 250)) = .ok c ∧
      Runner.ofConfig c .counted (fun now => .ok now) = .ok r ∧
      ∃ records : List (Record Float),
        (run #[] { runner := r } none (holding check (.fail { kind := .unprintable }))).1 =
          .returned records ∧ records.map Record.check = [check] := by
  have valid : Config.make (.int 3) (.int (10 ^ 250)) =
      .ok { maxWorkers := 3, timeout := .whole (10 ^ 250) } := rfl
  have fits : Config.Fits { maxWorkers := 3, timeout := .whole (10 ^ 250) } := by
    rintro _ ⟨⟩
    decide +kernel
  obtain ⟨r, limit, made, -, returns, -⟩ := runs_return valid fits .counted fun now => ⟨now, rfl⟩
  exact ⟨_, r, valid, made, (returns #[] 0 none _).run ⟨.inr ⟨_, rfl, rfl⟩, trivial⟩⟩

/-- Whole numbers of seconds are valid at any size. With one that is too long for the clock no run
returns that has a check to run: it raises the fault of adding the number to the time. -/
theorem runs_overflow {workers timeout : Value} {c : Config}
    (valid : Config.make workers timeout = .ok c) (long : ¬ c.Fits) (ids : IdSource)
    (stamp : Float → Except Fault σ) :
    ∃ r, Runner.ofConfig c ids stamp = .ok r ∧ ∀ services store scope w,
      (w.store store).all ≠ [] → (run services { store, runner := r } scope w).1 =
        .raised (.because .overflowError "int too large to convert to float") := by
  refine ⟨_, Runner.ofConfig_of_valid valid ids stamp, fun services store scope w filled => ?_⟩
  rw [run, fst_runBatch]
  exact Runner.gather_raises (seconds?_of_not_fits long) filled

theorem endless_deadline_escapes :
    let check : Check := ⟨"fine", "always passes", "quiet"⟩
    ∃ (c : Config) (r : Runner Float Float),
      Config.make (.int 1) (.int Decimal.tooLong) = .ok c ∧
      Runner.ofConfig c .counted (fun now => .ok now) = .ok r ∧
      (run #[] { runner := r } none (holding check (.done .none))).1 =
        .raised (.because .overflowError "int too large to convert to float") := by
  have valid : Config.make (.int 1) (.int Decimal.tooLong) =
      .ok { maxWorkers := 1, timeout := .whole Decimal.tooLong } :=
    Config.make_ok_iff.mpr ⟨⟨rfl, Int.le_refl 1⟩, rfl, by decide +kernel⟩
  have long : ¬ Config.Fits { maxWorkers := 1, timeout := .whole Decimal.tooLong } := by
    intro fits
    have small := fits Decimal.tooLong rfl
    rw [Int.natAbs_natCast] at small
    exact Nat.lt_irrefl _ small
  obtain ⟨r, made, raises⟩ := runs_overflow valid long .counted fun now => .ok now
  exact ⟨_, r, valid, made, raises #[] 0 none _ nofun⟩

end Service

end Checkup
