import Checkup.Proofs.Registry.Flat
import Checkup.Proofs.Service.Returns
import Checkup.Service.Making

/-!
Reports that are made while other threads register checks and take them away.

A report is told by two looks at the registry. The first decides whether there is one; what is in it
is what the second finds. Nothing keeps the two together: where the last check is taken away in
between, the report is empty.

Main statements: `run_alone` (where no one else is at work the steps come to what `makeReport`
does) and `report_matches_snapshot`.
-/

namespace Checkup

variable {τ σ : Type}

/-! ### Registries under calls -/

namespace World

variable {w : World τ} {store : Nat}

def calls (w : World τ) (store : Nat) (cs : List (Registry.Call τ)) : World τ :=
  cs.foldl (World.call store) w

theorem sound_call (sound : (w.store store).Sound) (c : Registry.Call τ) :
    ((w.call store c).store store).Sound := by
  rw [World.call, store_setStore]
  split
  · exact sound.answer c
  · exact Registry.sound_empty

theorem sound_calls (sound : (w.store store).Sound) (cs : List (Registry.Call τ)) :
    ((w.calls store cs).store store).Sound := by
  induction cs generalizing w with
  | nil => exact sound
  | cons c cs ih => exact ih (sound_call sound c)

end World

/-- There are no entries just where the total is 0. -/
theorem Registry.Sound.all_eq_nil_iff {r : Registry (Entry τ)} (sound : r.Sound) :
    r.all = [] ↔ r.total = 0 := by
  rw [← List.length_eq_zero_iff, length_all, ← sound.count_eq]
  rfl

namespace Service.Making

open Runner (gather)

variable [Clock τ] {services : Array (Service τ σ)} {s : Service τ σ} {now : σ} {w : World τ}
  {m : Making τ σ}

/-! ### Alone -/

theorem run_append (first second : List (Move τ)) (state : Making τ σ × World τ) :
    run services s now (first ++ second) state =
      run services s now second (run services s now first state) :=
  List.foldl_append

theorem fst_conclude (now : σ) (between : ScopeId) (start : τ)
    (outcomes : List (Outcome (Record σ))) (w : World τ) :
    (conclude now between start outcomes w).1 =
      .left ((gather outcomes).map fun results => some { startTime := now, results }) := by
  unfold conclude
  cases gathered : gather outcomes <;> rfl

/-- The checks that are ahead are run one after the other. -/
theorem run_running (between : ScopeId) (start : τ) (ahead : List (Entry τ))
    (outcomes : List (Outcome (Record σ))) (w : World τ) :
    run services s now (List.replicate (ahead.length + 1) .go)
        (.running between start ahead outcomes, w) =
      conclude now between start (outcomes ++ (s.runner.runEach services between ahead w).1)
        (s.runner.runEach services between ahead w).2 := by
  induction ahead generalizing outcomes w with
  | nil =>
      rw [Runner.runEach, List.append_nil]
      rfl
  | cons entry ahead ih =>
      rw [List.length_cons, List.replicate_succ]
      show run services s now (List.replicate (ahead.length + 1) .go)
        (.running between start ahead (outcomes ++ [(s.runner.runOne services entry between w).1]),
          (s.runner.runOne services entry between w).2) = _
      rw [ih, List.append_assoc]
      rfl

/-- Checks that are taken are run as a batch. -/
theorem run_taken (caller : ScopeId) (entries : List (Entry τ)) (w : World τ) :
    run services s now (List.replicate (entries.length + 2) .go) (.taken caller entries, w) =
      let batch := s.runBatch services "all" entries (some caller) w
      (.left (batch.1.map fun results => some { startTime := now, results }), batch.2) := by
  let start := batchStart "all" entries (some caller) w
  have runs : run services s now (List.replicate (entries.length + 2) .go)
        (.taken caller entries, w) =
      conclude now start.1 w.line.now (s.runner.runEach services start.1 entries start.2).1
        (s.runner.runEach services start.1 entries start.2).2 :=
    run_running start.1 w.line.now entries [] start.2
  have all : s.runner.runAll services entries caller (w.note (.batchStarted entries.length "all")) =
      (gather (s.runner.runEach services start.1 entries start.2).1,
        { (s.runner.runEach services start.1 entries start.2).2 with
            line := (s.runner.runEach services start.1 entries start.2).2.line.close start.1 }) := rfl
  rw [runs, conclude]
  simp only [runBatch, scopeOr, all]
  cases gather (s.runner.runEach services start.1 entries start.2).1 <;> rfl

/-- A report is that of a batch of all checks, if there are any. -/
theorem makeReport_of_total (filled : s.total w ≠ 0) : s.makeReport services now w =
    let caller := scopeOr none w
    let batch := s.runBatch services "all" (caller.2.store s.store).all (.some caller.1) caller.2
    (batch.1.map fun results => .some { startTime := now, results }, batch.2) := by
  rw [makeReport, if_neg filled]
  simp only [Service.run]
  split
  · rename_i ran
    rw [ran]
    rfl
  · rename_i ran
    rw [ran]
    rfl
  · rename_i ran
    rw [ran]
    rfl

/-- Where no one else is at work, the steps come to what making a report at once does. -/
theorem run_alone (services : Array (Service τ σ)) (s : Service τ σ) (now : σ) (w : World τ) :
    ∃ n, run services s now (List.replicate n .go) (.begun, w) =
      (.left (s.makeReport services now w).1, (s.makeReport services now w).2) := by
  by_cases none : s.total w = 0
  · refine ⟨1, ?_⟩
    show step services s now .begun w = _
    rw [step, if_pos none, makeReport, if_pos none]
  · let caller := scopeOr Option.none w
    refine ⟨(caller.2.store s.store).all.length + 2 + 1 + 1, ?_⟩
    have counted : step services s now .begun w = (.counted, w) := by
      rw [step, if_neg none]
    have taken : step services s now .counted w =
      (.taken caller.1 (caller.2.store s.store).all, caller.2) := rfl
    rw [List.replicate_succ, List.replicate_succ]
    show run services s now _ (step services s now (step services s now .begun w).1
      (step services s now .begun w).2) = _
    rw [counted, taken, run_taken, makeReport_of_total none]

/-- However far the making is, it comes to an end by its own steps: it waits for no one. -/
theorem exists_left (services : Array (Service τ σ)) (s : Service τ σ) (now : σ) (m : Making τ σ)
    (w : World τ) :
    ∃ n outcome, (run services s now (List.replicate n .go) (m, w)).1 = .left outcome := by
  have taken (caller : ScopeId) (entries : List (Entry τ)) (w : World τ) :
      ∃ n outcome, (run services s now (List.replicate n .go) (.taken caller entries, w)).1 =
        .left outcome := ⟨entries.length + 2, _, by rw [run_taken]⟩
  have counted (w : World τ) :
      ∃ n outcome, (run services s now (List.replicate n .go) (.counted, w)).1 =
        .left outcome := by
    obtain ⟨n, outcome, left⟩ :=
      taken (scopeOr none w).1 ((scopeOr none w).2.store s.store).all (scopeOr none w).2
    exact ⟨n + 1, outcome, left⟩
  cases m with
  | begun =>
      by_cases none : s.total w = 0
      · refine ⟨1, .returned .none, ?_⟩
        show (step services s now .begun w).1 = _
        rw [step, if_pos none]
      · obtain ⟨n, outcome, left⟩ := counted w
        have goes : step services s now .begun w = (.counted, w) := by rw [step, if_neg none]
        refine ⟨n + 1, outcome, ?_⟩
        rw [List.replicate_succ]
        show (run services s now _ (step services s now .begun w)).1 = _
        rw [goes, left]
  | counted => exact counted w
  | taken caller entries => exact taken caller entries w
  | running between start ahead outcomes =>
      have ends : run services s now (List.replicate (ahead.length + 1) .go)
          (.running between start ahead outcomes, w) = _ := run_running between start ahead outcomes w
      exact ⟨ahead.length + 1, _, (congrArg Prod.fst ends).trans (fst_conclude ..)⟩
  | left outcome => exact ⟨0, outcome, rfl⟩

/-! ### Among other threads -/

/-- Calls of other threads change the registry, and not how far the report is. -/
theorem run_calls (services : Array (Service τ σ)) (s : Service τ σ) (now : σ) (m : Making τ σ)
    (cs : List (Registry.Call τ)) (w : World τ) :
    run services s now (cs.map .call) (m, w) = (m, w.calls s.store cs) := by
  induction cs generalizing w with
  | nil => rfl
  | cons c cs ih => exact ih _

omit [Clock τ] in
/-- Other threads are at work until the making goes on, if it ever does. -/
theorem calls_or_go (moves : List (Move τ)) :
    (∃ cs : List (Registry.Call τ), moves = cs.map .call) ∨
    ∃ (cs : List (Registry.Call τ)) (rest : List (Move τ)),
      moves = cs.map .call ++ .go :: rest := by
  induction moves with
  | nil => exact .inl ⟨[], rfl⟩
  | cons move moves ih =>
      cases move with
      | go => exact .inr ⟨[], moves, rfl⟩
      | call c =>
          rcases ih with ⟨cs, rfl⟩ | ⟨cs, rest, rfl⟩
          · exact .inl ⟨c :: cs, rfl⟩
          · exact .inr ⟨c :: cs, rest, rfl⟩

/-- A report that was made, or was not, stays so. -/
theorem run_left (outcome : Outcome (Option (Report σ))) (moves : List (Move τ)) (w : World τ) :
    (run services s now moves (.left outcome, w)).1 = .left outcome := by
  induction moves generalizing w with
  | nil => rfl
  | cons move moves ih =>
      cases move with
      | go => exact ih _
      | call c => exact ih _

/-- An outcome that the run of an entry comes to, under some scope and in some world. -/
def IsRunOf (services : Array (Service τ σ)) (s : Service τ σ) (entry : Entry τ)
    (outcome : Outcome (Record σ)) : Prop :=
  ∃ scope w, (s.runner.runOne services entry scope w).1 = outcome

/-- How far the making can be with checks that were taken: it has run some of them in order. -/
inductive RunsFrom (services : Array (Service τ σ)) (s : Service τ σ) (now : σ)
    (entries : List (Entry τ)) : Making τ σ → Prop
  | taken {caller : ScopeId} : RunsFrom services s now entries (.taken caller entries)
  | running {between : ScopeId} {start : τ} {done ahead : List (Entry τ)}
      {outcomes : List (Outcome (Record σ))} : entries = done ++ ahead →
      List.Forall₂ (IsRunOf services s) done outcomes →
      RunsFrom services s now entries (.running between start ahead outcomes)
  | left {outcomes : List (Outcome (Record σ))} :
      List.Forall₂ (IsRunOf services s) entries outcomes →
      RunsFrom services s now entries
        (.left ((gather outcomes).map fun results => some { startTime := now, results }))

theorem RunsFrom.step {entries : List (Entry τ)} (runs : RunsFrom services s now entries m)
    (w : World τ) : RunsFrom services s now entries (m.step services s now w).1 := by
  cases runs with
  | taken => exact .running rfl .nil
  | @running between start done ahead outcomes split ran =>
      cases ahead with
      | nil =>
          rw [List.append_nil] at split
          subst split
          rw [Making.step, fst_conclude]
          exact .left ran
      | cons entry ahead =>
          have split' : entries = (done ++ [entry]) ++ ahead := by
            rw [split, List.append_assoc]
            rfl
          exact .running split' (List.rel_append ran (.cons ⟨between, w, rfl⟩ .nil))
  | left ran => exact .left ran

/-- Whatever other threads do meanwhile, the checks that were taken are run. -/
theorem RunsFrom.run {entries : List (Entry τ)} (runs : RunsFrom services s now entries m)
    (moves : List (Move τ)) (w : World τ) :
    RunsFrom services s now entries (Making.run services s now moves (m, w)).1 := by
  induction moves generalizing m w with
  | nil => exact runs
  | cons move moves ih =>
      cases move with
      | go => exact ih (runs.step w) _
      | call c => exact ih runs _

/-- Some entry was run to every outcome. -/
theorem exists_of_mem {entries : List (Entry τ)} {outcomes : List (Outcome (Record σ))}
    (ran : List.Forall₂ (IsRunOf services s) entries outcomes) {outcome : Outcome (Record σ)}
    (mem : outcome ∈ outcomes) : ∃ entry ∈ entries, IsRunOf services s entry outcome := by
  induction ran with
  | nil => cases mem
  | cons first _ ih =>
      rcases List.mem_cons.mp mem with rfl | mem
      · exact ⟨_, List.mem_cons_self, first⟩
      · obtain ⟨entry, there, ran⟩ := ih mem
        exact ⟨entry, List.mem_cons_of_mem _ there, ran⟩

/-- Records that are returned are those of the checks, in order. -/
theorem checks_eq {entries : List (Entry τ)} {records : List (Record σ)}
    (ran : List.Forall₂ (IsRunOf services s) entries (records.map .returned)) :
    records.map Record.check = entries.map Entry.check := by
  have same : List.Forall₂ Eq (entries.map Entry.check) (records.map Record.check) := by
    rw [List.forall₂_map_left_iff, List.forall₂_map_right_iff]
    refine (List.forall₂_map_right_iff.mp ran).imp fun entry record ran => ?_
    obtain ⟨scope, w, returned⟩ := ran
    exact (Runner.check_of_returned returned).symm
  rw [List.forall₂_eq_eq_eq] at same
  exact same.symm

/-- What comes of the making of a report, told by the registry that the run finds: a record for each
of its checks, in order, unless the run of one of them does not return. -/
structure Reports (services : Array (Service τ σ)) (s : Service τ σ) (now : σ)
    (r : Registry (Entry τ)) (outcome : Outcome (Option (Report σ))) : Prop where
  returned : ∀ {answer}, outcome = .returned answer → ∃ report, answer = some report ∧
    report.startTime = now ∧ report.results.map Record.check = r.all.map Entry.check ∧
    (report.results = [] ↔ r.total = 0)
  raised : ∀ {fault}, outcome = .raised fault →
    ∃ entry ∈ r.all, IsRunOf services s entry (.raised fault)
  stalled : outcome = .stalled → ∃ entry ∈ r.all, IsRunOf services s entry .stalled

/-- A run of the checks that are registered comes to a report of them. -/
theorem RunsFrom.reports {r : Registry (Entry τ)} (sound : r.Sound)
    {outcome : Outcome (Option (Report σ))}
    (runs : RunsFrom services s now r.all (.left outcome)) :
    Reports services s now r outcome := by
  cases runs with
  | @left outcomes ran =>
      cases gathered : gather outcomes with
      | returned results =>
          rw [Runner.gather_returned_iff.mp gathered] at ran
          have checks := checks_eq ran
          have empty : results = [] ↔ r.total = 0 := by
            rw [← sound.all_eq_nil_iff, ← List.map_eq_nil_iff (f := Record.check), checks,
              List.map_eq_nil_iff]
          constructor
          · rintro answer ⟨⟩
            exact ⟨_, rfl, rfl, checks, empty⟩
          · exact nofun
          · exact nofun
      | raised fault =>
          constructor
          · exact nofun
          · rintro _ ⟨⟩
            exact exists_of_mem ran (Runner.mem_of_gather_raised gathered)
          · exact nofun
      | stalled =>
          constructor
          · exact nofun
          · exact nofun
          · intro _
            exact exists_of_mem ran (Runner.mem_of_gather_stalled gathered)

end Service.Making

namespace Service

open Making (Reports)

variable [Clock τ]

/-- However the calls of other threads come between the steps of the making: it comes to an end by
steps of its own; without a report if there are no checks when it first looks; and otherwise with
what comes of the checks that there are when it looks again. So the report is empty just where there
are none left by then. -/
theorem report_matches_snapshot (services : Array (Service τ σ)) (s : Service τ σ) (now : σ)
    {w : World τ} (sound : (w.store s.store).Sound) (moves : List (Move τ)) :
    (∃ n outcome, (Making.run services s now (moves ++ List.replicate n .go) (.begun, w)).1 =
      .left outcome) ∧
    ∀ outcome, (Making.run services s now moves (.begun, w)).1 = .left outcome →
      ∃ before rest, moves = before.map .call ++ .go :: rest ∧
        let first := w.calls s.store before
        ((first.store s.store).total = 0 ∧ outcome = .returned none ∨
          (first.store s.store).total ≠ 0 ∧ ∃ between rest', rest = between.map .call ++ .go :: rest' ∧
            Reports services s now ((first.calls s.store between).store s.store) outcome) := by
  constructor
  · obtain ⟨n, outcome, left⟩ := Making.exists_left services s now
      (Making.run services s now moves (.begun, w)).1 (Making.run services s now moves (.begun, w)).2
    refine ⟨n, outcome, ?_⟩
    rw [Making.run_append]
    exact left
  · intro outcome left
    rcases Making.calls_or_go moves with ⟨before, rfl⟩ | ⟨before, rest, rfl⟩
    · rw [Making.run_calls] at left
      cases left
    · refine ⟨before, rest, rfl, ?_⟩
      rw [Making.run_append, Making.run_calls] at left
      have sound' := World.sound_calls sound before
      intro first
      change (Making.run services s now rest (Making.step services s now .begun first)).1 = _ at left
      by_cases none : (first.store s.store).total = 0
      · rw [Making.step, if_pos (show s.total first = 0 from none), Making.run_left] at left
        cases left
        exact .inl ⟨none, rfl⟩
      · rw [Making.step, if_neg (show ¬ s.total first = 0 from none)] at left
        rcases Making.calls_or_go rest with ⟨between, rfl⟩ | ⟨between, rest', rfl⟩
        · rw [Making.run_calls] at left
          cases left
        · rw [Making.run_append, Making.run_calls] at left
          refine .inr ⟨none, between, rest', rfl, ?_⟩
          have runs : Making.RunsFrom services s now
              ((first.calls s.store between).store s.store).all
              (Making.run services s now (.go :: rest') (.counted, first.calls s.store between)).1 :=
            Making.RunsFrom.taken.run rest' _
          rw [left] at runs
          exact runs.reports (World.sound_calls sound' between)

def fine : Entry Float where
  check := { name := "fine", description := "always passes", category := "quiet" }
  probe := .done .none

def clocked : Service Float Float where
  runner := { timeout := .exact 5.0, stamp := .ok }

theorem registered_meanwhile_is_reported :
    let mute : Check := ⟨"mute", "says nothing", "quiet"⟩
    ∃ report, (Making.run #[] clocked 0.0
        [.go, .call (.register fine), .go, .go, .go, .go, .go]
        (.begun, holding mute (.fail { kind := .unprintable }))).1 =
          .left (.returned (some report)) ∧
      report.results.map Record.check = [mute, fine.check] := by
  intro mute
  have sound : ((holding mute (.fail { kind := .unprintable })).store clocked.store).Sound :=
    ⟨rfl, by simp [holding, World.store, clocked]⟩
  obtain ⟨report, ends⟩ : ∃ report, (Making.run #[] clocked 0.0
        [.go, .call (.register fine), .go, .go, .go, .go, .go]
        (.begun, holding mute (.fail { kind := .unprintable }))).1 =
          .left (.returned (some report)) := ⟨_, rfl⟩
  refine ⟨report, ends, ?_⟩
  obtain ⟨before, rest, split, told⟩ := (report_matches_snapshot #[] clocked 0.0 sound _).2 _ ends
  cases before with
  | cons => cases split
  | nil =>
      cases split
      rcases told with ⟨none, -⟩ | ⟨-, between, rest', split, reports⟩
      · cases none
      · rcases between with _ | ⟨c, _ | ⟨c', cs⟩⟩ <;> cases split
        obtain ⟨_, same, -, checks, -⟩ := reports.returned rfl
        cases same
        exact checks

theorem cleared_meanwhile_reports_nothing :
    (Making.run #[] clocked 0.0 [.go, .call .clear, .go, .go, .go]
        (.begun, holding fine.check fine.probe)).1 =
      .left (.returned (some { startTime := 0.0, results := [] })) := rfl

end Service

end Checkup
