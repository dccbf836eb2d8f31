import Checkup.Proofs.Runner.Answers
import Checkup.Proofs.Runner.Reasons

/-!
Checks that are run below a cancelled caller.

They are run all the same: every probe is called, under a scope that is cancelled from its birth for
the reason of the caller. One that checks a scope, or sleeps, raises that reason, and its record
shows the text. One that never looks cannot tell, and its record is as it would be below a caller
that nothing has cancelled.

Main statement: `cancelled_caller_tells_why`.
-/

namespace Checkup.Runner

open Clock (IsTime)

variable {τ σ : Type} [Clock τ] [Clock.Ordered τ] {services : Array (Service τ σ)}
  {r : Runner τ σ} {limit : τ} {caller : ScopeId} {w : World τ}

/-- A caller that is cancelled for a reason, or has expired with nobody having looked, tells why.
However the steps of a batch below it follow each other, it runs out. Once it has, every entry has
been called once, and if all probes have returned or raised what is caught, there is a record of
each, which shows how its probe ended. A probe that has come to check a scope, or to sleep, has
raised the reason of the caller, and its record shows the text. A probe that never looks at a scope
has a record that shows the same as one from any other batch, below any other caller, in which it
was given the same answers. So it is for a single entry that is run directly below the caller, where
a probe that never looks has the same record below any other scope. -/
theorem cancelled_caller_tells_why (deadline : r.timeout.seconds? = .ok limit)
    (stamps : ∀ now, ∃ stamp, r.stamp now = .ok stamp) (settled : w.line.forest.Settled)
    (isTime : IsTime w.line.now) (asked : (w.line.isCancelled caller).1 = true)
    (reasons : ∀ cause, w.line.forest.cause? caller = some cause → cause.IsReason) :
    ∃ cause, (w.line.error caller).1 = some cause ∧ cause.IsReason ∧
      (∀ {size : Nat} {entries : List (Entry τ)} {steps : List (Crew.Step τ)} {c : Crew τ σ},
        1 ≤ size →
        (Crew.start size entries caller w).run (settingOf services) r steps = some c →
        let start : Crew τ σ := .start size entries caller w
        let told := start.told (settingOf services) r steps
        c.RunsOut (settingOf services) r ∧
        (c.pool.IsFinal →
          (∀ k entry, entries[k]? = some entry → ∃ own outcome, CalledOnce told k own outcome) ∧
          (∀ k, entries.length ≤ k → Mark.of k told = []) ∧
          ((∀ k own outcome, CalledOnce told k own outcome → outcome.IsOrdinary) →
            ∃ records collected : List (Record σ), c.outcome? = some (.returned collected) ∧
              collected.Perm records ∧ records.length = entries.length ∧
              ∀ k entry, entries[k]? = some entry → ∃ record own outcome,
                records[k]? = some record ∧ CalledOnce told k own outcome ∧
                Shows entry.check outcome (.ok record) ∧
                (∀ probe, start.Reaches (settingOf services) r steps k probe → probe.Heeds →
                  outcome = .raised cause ∧ record.error = cause.text ∧ record.details = none) ∧
                (entry.probe.IsBlind → ∀ record', Crew.ComesTo (settingOf services) r entry
                    (start.answers (settingOf services) r k steps) record' →
                  record'.error = record.error ∧ record'.details = record.details)))) ∧
      ∀ entry, (probeRun (settingOf services entry) r limit entry caller w).1.IsOrdinary →
        ∃ record own outcome, (r.runOne services entry caller w).1 = .returned record ∧
          Job.Tells (settingOf services entry) r entry caller [.called own, .came outcome] .fresh w
            (.ended (.ok record)) (r.runOne services entry caller w).2 ∧
          Shows entry.check (probeRun (settingOf services entry) r limit entry caller w).1
            (.ok record) ∧
          (∀ probe, Reaches (settingOf services entry) r limit entry caller w probe →
            probe.Heeds → (probeRun (settingOf services entry) r limit entry caller w).1 =
              .raised cause ∧ record.error = cause.text ∧ record.details = none) ∧
          (entry.probe.IsBlind → ∀ s < w.line.forest.size,
            (r.runOne services entry s w).1 = .returned record) := by
  have nests := Job.nestsOn_settingOf services
  obtain ⟨cause, told, reason⟩ := Timeline.exists_reason settled asked reasons
  have made := Job.lt_size_of_told told
  refine ⟨cause, told, reason, ?_, ?_⟩
  · intro size entries steps c workers runs start marks
    obtain ⟨poolSteps, poolRuns, -⟩ := Crew.pool_run runs
    have gathered := Pool.gathered_run poolRuns
    have slotted := Pool.slotted_run poolRuns
    have down := Job.handsDown_told r cause
    have underWay := Crew.UnderWay.of_run down nests deadline stamps settled isTime made
      (Job.told_child settled none told) runs
    refine ⟨underWay.runsOut down Job.wakes_told nests deadline stamps workers slotted gathered,
      fun final => ⟨?_, ?_, ?_⟩⟩
    · intro k entry at'
      obtain ⟨own, outcome, _, called, -⟩ :=
        underWay.called_once final (Pool.allReleased_of_isFinal poolRuns final) at'
      exact ⟨own, outcome, called⟩
    · intro k beyond
      apply underWay.unmarked
      rw [underWay.length_eq, underWay.length_of_isFinal final]
      exact beyond
    · intro ordinary
      obtain ⟨records, collected, returns, perm, length, each⟩ :=
        underWay.outcome_of_ordinary final gathered ordinary
      refine ⟨records, collected, returns, perm, length, fun k entry at' => ?_⟩
      obtain ⟨record, own, outcome, here, done, called, shows⟩ := each k entry at'
      refine ⟨record, own, outcome, here, called, shows, ?_, ?_⟩
      · intro probe reaches heeds
        obtain rfl := Crew.outcome_of_heeds nests reason deadline stamps settled isTime told runs
          final at' called reaches heeds
        exact ⟨rfl, reason.shown shows⟩
      · intro blind record' comes'
        have comes : Crew.ComesTo (settingOf services) r entry
            (start.answers (settingOf services) r k steps) record :=
          ⟨size, entries, caller, w, steps, c, k, ⟨settled, isTime, made⟩, ⟨runs, final⟩,
            ⟨at', done⟩, rfl⟩
        exact comes.eq nests deadline stamps blind comes'
  · intro entry ordinary
    obtain ⟨record, own, outcome, returned, tells, -, shows⟩ :=
      Job.executeIn_calls_once deadline stamps ordinary
    refine ⟨record, own, outcome, returned, tells, shows, ?_, ?_⟩
    · intro probe reaches heeds
      have raised := probeRun_heeds (nests entry) reason settled isTime told heeds reaches
      rw [raised] at shows
      exact ⟨raised, reason.shown shows⟩
    · intro blind s made'
      exact (runOne_blind services r blind settled made made').trans returned

/-- A scope below one that was cancelled with an empty message. -/
def calledOff : World Rat where
  line := parent.line.cancel 0 (.cancellation .scopeCancelled (.str ""))

def sleeper : Entry Rat where
  check := { name := "sleeper", description := "", category := "nap" }
  probe := .sleep 0 (some 3) (.done .none)

/-- A check that counts, and then looks at its scope; and one that never looks. -/
def lookAndLeap : List (Entry Rat) :=
  [{ check := { name := "looks", description := "", category := "pair" }
     probe := .total fun _ => .check 0 (.done .none) },
    { check := { name := "leaps", description := "", category := "pair" }
      probe := .clock fun _ => .done .none }]

/-- The steps of one worker until the first of them has counted. -/
def untilCounted : List (Crew.Step Rat) :=
  [.take, .acquire, .submit, .take, .begin 0, .work 0, .work 0, .work 0]

/-- The steps that are left. -/
def sinceCounted : List (Crew.Step Rat) :=
  [.work 0, .work 0, .work 0, .work 0, .finish 0, .release 0, .acquire, .submit, .take, .begin 1,
    .work 1, .work 1, .work 1, .work 1, .work 1, .work 1, .finish 1, .release 1, .collect 1,
    .collect 0, .leave]

theorem lookAndLeap_ends : ((Crew.start 1 lookAndLeap 1 calledOff : Crew Rat Rat).run
      (settingOf (σ := Rat) #[]) patient (untilCounted ++ sinceCounted)).map
        (fun c => c.pool.caller) = some (.left none) := by
  cbv

theorem lookAndLeap_told : (Crew.start 1 lookAndLeap 1 calledOff : Crew Rat Rat).told
      (settingOf (σ := Rat) #[]) patient (untilCounted ++ sinceCounted) =
    [(0, .called 3), (0, .came (.raised .scopeCancelled)), (1, .called 4),
      (1, .came (.returned .none))] := by
  cbv

theorem called_off_tells : (∃ (c : Crew Rat Rat) (records collected : List (Record Rat)),
      (Crew.start 1 lookAndLeap 1 calledOff).run (settingOf (σ := Rat) #[]) patient
        (untilCounted ++ sinceCounted) = some c ∧
      c.outcome? = some (.returned collected) ∧ collected.Perm records ∧
      records.map Record.error = ["scope cancelled", ""]) ∧
    ∃ record, (patient.runOne #[] sleeper 1 calledOff).1 = .returned record ∧
      record.error = "scope cancelled" := by
  obtain ⟨c, runs, left⟩ := Option.map_eq_some_iff.mp lookAndLeap_ends
  have settled : calledOff.line.forest.Settled := Forest.formed_cancel settled_parent 0 _
  have asked : (calledOff.line.isCancelled 1).1 = true := by cbv
  have known : calledOff.line.forest.cause? 1 =
      some (.cancellation .scopeCancelled (.str "")) := by cbv
  obtain ⟨cause, told, -, batch, single⟩ := @cancelled_caller_tells_why Rat Rat _ _ #[] patient 5 1
    calledOff rfl (fun now => ⟨now, rfl⟩) settled trivial asked fun cause here =>
      ⟨.scopeCancelled, "", .inl rfl, Option.some.inj (here.symm.trans known)⟩
  obtain rfl : cause = .scopeCancelled := Option.some.inj (told.symm.trans (by cbv))
  refine ⟨?_, ?_⟩
  · obtain ⟨-, done⟩ := batch (Nat.le_refl 1) runs
    obtain ⟨-, -, returns⟩ := done ⟨none, left⟩
    obtain ⟨records, collected, outcome, perm, length, shows⟩ :=
        returns fun k own outcome called => by
      have ends : (k = 0 ∧ outcome = .raised .scopeCancelled) ∨
          (k = 1 ∧ outcome = .returned .none) := by simpa [lookAndLeap_told] using called.came_mem
      rcases ends with ⟨-, rfl⟩ | ⟨-, rfl⟩
      · exact .inr ⟨_, rfl, rfl⟩
      · exact .inl ⟨_, rfl⟩
    obtain ⟨looks, leaps, rfl⟩ := List.length_eq_two.mp length
    refine ⟨c, _, collected, runs, outcome, perm, ?_⟩
    obtain ⟨_, _, _, ⟨⟩, -, -, heeds, -⟩ := shows 0 _ rfl
    obtain ⟨_, _, outcome', ⟨⟩, called, shown, -, -⟩ := shows 1 _ rfl
    have looked : looks.error = Fault.scopeCancelled.text :=
      (heeds _ ⟨untilCounted, sinceCounted, _, _, rfl, rfl, rfl⟩ (.check 0 (.done .none))).2.1
    obtain rfl : outcome' = .returned .none := by simpa [lookAndLeap_told] using called.came_mem
    have leapt : some ("", some (.mapping [])) = some (leaps.error, leaps.details) := shown.2
    obtain ⟨leapt, -⟩ := Prod.mk.inj (Option.some.inj leapt)
    rw [List.map_cons, List.map_cons, List.map_nil, looked, ← leapt]
    rfl
  · have ran : (probeRun (settingOf (σ := Rat) #[] sleeper) patient 5 sleeper 1 calledOff).1 =
        .raised .scopeCancelled := by cbv
    obtain ⟨record, _, _, returned, -, -, heeds, -⟩ := single sleeper (.inr ⟨_, ran, rfl⟩)
    have slept := (heeds _ ⟨_, _, .refl ..⟩ (.sleep 0 (some 3) _)).2.1
    exact ⟨record, returned, slept⟩

end Checkup.Runner
