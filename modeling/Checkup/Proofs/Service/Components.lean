import Checkup.Proofs.Clock.Binary64
import Checkup.Proofs.Runner.Amid
import Checkup.Proofs.Runner.Deadline
import Checkup.Proofs.Runner.Reasons
import Checkup.Proofs.Service.Definitions

/-!
Checks that ask a component.

The check that a definition stands for looks at its scope and then asks the component for the
details, under the identifier of its own definition. It asks if that scope is live when it looks,
which is some time after the scope was made. Below a cancelled caller it never is; below a live one
its own time may be over by then, and if that is so short that no later time of the clock is
reached, it is over as soon as it begins.

Main statements: `asksIfLive` (what a check does whoever else acts), `looksFirst` (in a batch, and
alone) and `definitions_are_offered`.
-/

namespace Checkup

open Clock (IsTime IsSpan)
open Runner (Verdict)

variable {τ σ : Type} [Clock τ]

/-! ### A new scope below a live one -/

namespace Timeline

variable {t : Timeline τ} {p : ScopeId} {limit : τ} (settled : t.forest.Settled)
  (made : p < t.forest.size) (live : (t.isCancelled p).1 = false)
include settled made live

/-- A scope that is made below a live one is live. -/
theorem cause?_child_of_live (timeout : Option τ) :
    (t.child p timeout).2.forest.cause? t.forest.size = none := by
  have asked : (t.isCancelled p).2 = t := by rw [isCancelled_of_live live]
  calc (t.child p timeout).2.forest.cause? t.forest.size
    _ = (t.isCancelled p).2.forest.cause? p := Forest.cause?_child_new timeout settled made
    _ = t.forest.cause? p := by rw [asked]
    _ = none := (isCancelled_eq_false_iff.mp live).1

/-- Where its own time ends no later than it begins, it has expired at once. -/
theorem fst_error_child_of_absorbed [Clock.Ordered τ] (isTime : IsTime t.now)
    (span : IsSpan limit) (timed : ∀ d, t.forest.deadline? p = some d → IsTime d)
    (absorbed : Clock.le (Clock.add t.now limit) t.now = true) :
    ((t.child p (some limit)).2.error t.forest.size).1 = some .deadlineExceeded := by
  apply fst_error_of_expired (Forest.formed_child settled t.now (some limit) made)
    (cause?_child_of_live settled made live (some limit))
  apply (Forest.isExpired_iff ..).mpr
  rw [Extends.deadline?_child settled made, if_pos rfl]
  have ends : IsTime (Clock.add t.now limit) := Clock.Ordered.isTime_add isTime span
  refine (Clock.earliest?_passed_iff timed ?_).mpr (.inr ⟨_, rfl, absorbed⟩)
  intro d own
  rwa [← Option.some.inj own]

end Timeline

/-! ### Probes that look at their scope first -/

namespace World

variable {setting : Setting τ} {own : ScopeId} {w : World τ} {cause : Fault}

/-- A check of a live scope lets the probe go on. -/
theorem runProbe_check_of_none (live : (w.line.error own).1 = none) (next : Probe τ) :
    runProbe setting own (.check 0 next) [] w =
      runProbe setting own next [] { w with line := (w.line.error own).2 } := by
  simp only [Probe.check, runProbe, scopeOf, live]

/-- A check of a cancelled scope raises the cause anew. -/
theorem runProbe_check_of_some (told : (w.line.error own).1 = some cause) (next : Probe τ) :
    runProbe setting own (.check 0 next) [] w =
      (.raised cause.fresh, { w with line := (w.line.error own).2 }) := by
  simp only [Probe.check, runProbe, scopeOf, told]

end World

namespace Job

variable {frame : Frame τ} {w : World τ} {cause : Fault} (setting : World.Setting τ)
  (r : Runner τ σ) (entry : Entry τ) (scope : ScopeId)

/-- A job that checks a live scope goes on. -/
theorem step_check_of_none (live : (w.line.error frame.own).1 = none) (next : Probe τ) :
    (.acting frame (.check 0 next) : Job τ σ).step setting r entry scope w =
      some (.acting frame next, { w with line := (w.line.error frame.own).2 }) := by
  simp only [step, act, Probe.check, Frame.scopeOf, World.scopeOf, live]

/-- A job that checks a cancelled scope fails for the cause. -/
theorem step_check_of_some (told : (w.line.error frame.own).1 = some cause) (next : Probe τ) :
    (.acting frame (.check 0 next) : Job τ σ).step setting r entry scope w =
      some (.acting frame (.fail cause.fresh),
        { w with line := (w.line.error frame.own).2 }) := by
  simp only [step, act, Probe.check, Frame.scopeOf, World.scopeOf, told]

end Job

/-! ### Checks of definitions -/

namespace Service

open Definition (newcomers)
open Runner (probeRun probeStart settingOf)

variable {services : Array (Service τ σ)} {r : Runner τ σ} {limit : τ} {caller : ScopeId}
  {w : World τ} {cause : Fault} {number : Nat} {category : String} {d : Definition}

/-- Whatever a component does for an identifier, a run asks it once, for this one: it is the run of
what the component does for it, from a world that is the same for all components. -/
def AsksOnce (id : String) (run : (String → Probe τ) → Outcome Value × World τ) : Prop :=
  ∃ setting own start, ∀ detailsFor,
    run detailsFor = World.runProbe setting own (detailsFor id) [] start

/-- Whatever the component, a check comes to the same, which is a record that tells a cause. -/
def FailsUnasked (services : Array (Service τ σ)) (r : Runner τ σ)
    (entry : (String → Probe τ) → Entry τ) (caller : ScopeId) (w : World τ) (cause : Fault) :
    Prop :=
  ∃ record w', (∀ detailsFor,
      r.runOne services (entry detailsFor) caller w = (.returned record, w')) ∧
    record.error = cause.text ∧ record.details = none

/-- A run that is the same for all components asks none. -/
theorem not_asksOnce_of_eq {id : String} {run : (String → Probe τ) → Outcome Value × World τ}
    (same : ∀ detailsFor other, run other = run detailsFor) : ¬ AsksOnce id run := by
  rintro ⟨setting, own, start, asks⟩
  have alike : World.runProbe setting own (.done .none) [] start =
      World.runProbe setting own (.fail .scopeCancelled) [] start :=
    (asks fun _ => .done .none).symm.trans ((same _ _).trans (asks fun _ => .fail .scopeCancelled))
  cases congrArg Prod.fst alike

/-- The world in which the check of a definition begins is the same for all components. -/
theorem probeRun_definitionEntry (services : Array (Service τ σ)) (r : Runner τ σ) (limit : τ)
    (number : Nat) (category : String) (d : Definition) (caller : ScopeId) (w : World τ)
    (detailsFor other : String → Probe τ) :
    probeRun (settingOf services (definitionEntry number category detailsFor d)) r limit
        (definitionEntry number category detailsFor d) caller w =
      World.runProbe (settingOf services (definitionEntry number category other d))
        w.line.forest.size (.check 0 (detailsFor d.id)) []
        (probeStart r limit (definitionEntry number category other d) caller w) := by
  have new : (w.line.child caller (some limit)).1 = w.line.forest.size := Forest.fst_child ..
  rw [Runner.probeRun_eq, new]
  rfl

/-- A check that finds its scope live asks the component. -/
theorem asksOnce_of_error
    (live : ((w.line.child caller (some limit)).2.error w.line.forest.size).1 = none) :
    AsksOnce d.id fun detailsFor =>
      probeRun (settingOf services (definitionEntry number category detailsFor d)) r limit
        (definitionEntry number category detailsFor d) caller w := by
  let nobody : String → Probe τ := fun _ => .done .none
  let start : World τ := probeStart r limit (definitionEntry number category nobody d) caller w
  have live : (start.line.error w.line.forest.size).1 = none := live
  refine ⟨settingOf services (definitionEntry number category nobody d), w.line.forest.size,
    { start with line := (start.line.error w.line.forest.size).2 }, ?_⟩
  intro detailsFor
  have begins :=
    probeRun_definitionEntry services r limit number category d caller w detailsFor nobody
  exact begins.trans (World.runProbe_check_of_none live _)

/-- A check that finds its scope cancelled raises the cause, whatever the component. -/
theorem probeRun_of_error
    (told : ((w.line.child caller (some limit)).2.error w.line.forest.size).1 = some cause) :
    ∃ w', ∀ detailsFor,
      probeRun (settingOf services (definitionEntry number category detailsFor d)) r limit
        (definitionEntry number category detailsFor d) caller w = (.raised cause.fresh, w') := by
  let nobody : String → Probe τ := fun _ => .done .none
  let start : World τ := probeStart r limit (definitionEntry number category nobody d) caller w
  have told : (start.line.error w.line.forest.size).1 = some cause := told
  refine ⟨{ start with line := (start.line.error w.line.forest.size).2 }, ?_⟩
  intro detailsFor
  have begins :=
    probeRun_definitionEntry services r limit number category d caller w detailsFor nobody
  exact begins.trans (World.runProbe_check_of_some told _)

/-! ### Records of definitions -/

/-- Checks whose probes run alike come to the same. -/
theorem runOne_of_probeRun {detailsFor other : String → Probe τ}
    (deadline : r.timeout.seconds? = .ok limit)
    (same : probeRun (settingOf services (definitionEntry number category other d)) r limit
        (definitionEntry number category other d) caller w =
      probeRun (settingOf services (definitionEntry number category detailsFor d)) r limit
        (definitionEntry number category detailsFor d) caller w) :
    r.runOne services (definitionEntry number category other d) caller w =
      r.runOne services (definitionEntry number category detailsFor d) caller w := by
  let entry : Entry τ := definitionEntry number category detailsFor d
  have same : probeRun (settingOf services entry) r limit
        { entry with probe := definitionProbe other d.id } caller w =
      probeRun (settingOf services entry) r limit
        { entry with probe := definitionProbe detailsFor d.id } caller w := same
  change Runner.executeIn (settingOf services entry) r
      { entry with probe := definitionProbe other d.id } caller w =
    Runner.executeIn (settingOf services entry) r
      { entry with probe := definitionProbe detailsFor d.id } caller w
  exact Runner.executeIn_congr deadline same

/-- The record of a check that has raised a reason tells it. -/
theorem runOne_of_raised {entry : Entry τ} (deadline : r.timeout.seconds? = .ok limit)
    (stamps : ∀ now, ∃ stamp, r.stamp now = .ok stamp) (reason : cause.IsReason)
    (raised : (probeRun (settingOf services entry) r limit entry caller w).1 = .raised cause) :
    ∃ record, (r.runOne services entry caller w).1 = .returned record ∧
      record.error = cause.text ∧ record.details = none := by
  obtain ⟨stamp, stamped⟩ :=
    stamps (probeRun (settingOf services entry) r limit entry caller w).2.line.now
  have verdict : Runner.Verdict.ofOutcome (.raised cause) = .failure cause :=
    Runner.Verdict.eq_failure_iff.mpr (.inr ⟨rfl, reason.isOrdinary⟩)
  have shown : (Runner.Verdict.ofOutcome
      (probeRun (settingOf services entry) r limit entry caller w).1).shown? =
        some (cause.text, none) := by
    rw [raised, verdict, Runner.Verdict.shown?, reason.failureText_eq]
  have made := (Runner.executeIn_returned_iff deadline).mpr ⟨stamp, _, _, stamped, shown, rfl⟩
  exact ⟨_, made, rfl, rfl⟩

theorem failsUnasked_of_error (deadline : r.timeout.seconds? = .ok limit)
    (stamps : ∀ now, ∃ stamp, r.stamp now = .ok stamp) (reason : cause.IsReason)
    (told : ((w.line.child caller (some limit)).2.error w.line.forest.size).1 = some cause) :
    FailsUnasked services r (definitionEntry number category · d) caller w cause := by
  let entry (detailsFor : String → Probe τ) : Entry τ :=
    definitionEntry number category detailsFor d
  let nobody : String → Probe τ := fun _ => .done .none
  obtain ⟨w', raises⟩ : ∃ w', ∀ detailsFor, probeRun (settingOf services (entry detailsFor)) r limit
      (entry detailsFor) caller w = (.raised cause.fresh, w') := probeRun_of_error told
  have raised : (probeRun (settingOf services (entry nobody)) r limit (entry nobody) caller w).1 =
      .raised cause := by
    rw [raises nobody, reason.fresh_eq]
  obtain ⟨record, returned, error, details⟩ := runOne_of_raised deadline stamps reason raised
  refine ⟨record, (r.runOne services (entry nobody) caller w).2, ?_, error, details⟩
  intro detailsFor
  have same := runOne_of_probeRun deadline ((raises detailsFor).trans (raises nobody).symm)
  exact same.trans (Prod.ext returned rfl)

/-! ### Whoever else acts -/

/-- How the check of a definition comes to an end below a caller, whoever else acts: at `u` it looks
at its own scope, and it asks the component if that is live. -/
structure AsksIfLive [Clock.Ordered τ] (services : Array (Service τ Moment)) (r : Runner τ Moment)
    (entry : (String → Probe τ) → Entry τ) (id : String) (detailsFor : String → Probe τ)
    (caller : ScopeId) (v : World τ) (marks : List Mark) (result : Except Fault (Record Moment))
    (w : World τ) (frame : Frame τ) (u : World τ) : Prop where
  /-- It gets there without a component. -/
  begins : Job.Begins (settingOf services (entry detailsFor)) r (entry detailsFor) caller v frame u
  /-- If its scope is live, the next step is to ask, whatever the component, for the identifier of
  the definition. From there on it does what the component does for that, and the result shows what
  comes of it. -/
  asks : (u.line.isCancelled frame.own).1 = false →
    (∀ other, (.acting frame (entry other).probe : Job τ Moment).step
      (settingOf services (entry other)) r (entry other) caller u =
        some (.acting frame (other id), u)) ∧
    ∃ outcome, marks = [.called frame.own, .came outcome] ∧
      Job.GoesAmid (settingOf services (entry detailsFor)) r (entry detailsFor) caller
        [.came outcome] (.acting frame (detailsFor id)) u (.ended result) w ∧
      Shows (entry detailsFor).check outcome result
  /-- If it is cancelled, the next step is to fail for the cause, whatever the component. -/
  fails : (u.line.isCancelled frame.own).1 = true → ∃ cause u',
    (u.line.error frame.own).1 = some cause ∧
    (∀ other, (.acting frame (entry other).probe : Job τ Moment).step
      (settingOf services (entry other)) r (entry other) caller u =
        some (.acting frame (.fail cause.fresh), u')) ∧
    marks = [.called frame.own, .came (.raised cause.fresh)] ∧
    Shows (entry detailsFor).check (.raised cause.fresh) result ∧
    (cause.IsReason → ∃ record, result = .ok record ∧ record.error = cause.text ∧
      record.details = none)

/-- How the check of a definition runs: it looks at its own scope before it asks the component. -/
structure LooksFirst [Clock.Ordered τ] (services : Array (Service τ Moment)) (r : Runner τ Moment)
    (limit : τ) (entry : (String → Probe τ) → Entry τ) (id : String)
    (detailsFor : String → Probe τ) : Prop where
  /-- Whoever else acts, it asks the component if its scope is live when it looks. -/
  amid {caller : ScopeId} {v w : World τ} {marks : List Mark}
    {result : Except Fault (Record Moment)} : v.line.forest.Settled → IsTime v.line.now →
    caller < v.line.forest.size →
    Job.GoesAmid (settingOf services (entry detailsFor)) r (entry detailsFor) caller marks .fresh v
      (.ended result) w →
    ∃ frame u, AsksIfLive services r entry id detailsFor caller v marks result w frame u
  /-- So it does in every batch, below the scope of that. -/
  inBatch {size : Nat} {entries : List (Entry τ)} {caller : ScopeId} {v : World τ}
    {steps : List (Crew.Step τ)} {c : Crew τ Moment} {k : Nat}
    {result : Except Fault (Record Moment)} : v.line.forest.Settled → IsTime v.line.now →
    caller < v.line.forest.size →
    (Crew.start size entries caller v).run (settingOf services) r steps = some c →
    entries[k]? = some (entry detailsFor) → c.pool.result? k = some result →
    let start : Crew τ Moment := .start size entries caller v
    ∃ frame u, AsksIfLive services r entry id detailsFor start.scope start.world
      (Mark.of k (start.told (settingOf services) r steps)) result c.world frame u
  /-- Alone, if the scope made for it is live, it asks the component once, for the identifier of the
  definition. It comes to a record, which tells what comes of that. -/
  asks {caller : ScopeId} {v : World τ} : v.line.forest.Settled → IsTime v.line.now →
    caller < v.line.forest.size →
    ((v.line.child caller (some limit)).2.error v.line.forest.size).1 = none →
    (AsksOnce id fun detailsFor => probeRun (settingOf services (entry detailsFor)) r limit
      (entry detailsFor) caller v) ∧
    ((probeRun (settingOf services (entry detailsFor)) r limit (entry detailsFor) caller
        v).1.IsOrdinary →
      ∃ record marks, (r.runOne services (entry detailsFor) caller v).1 = .returned record ∧
        record.Tells (entry detailsFor).check
          (probeRun (settingOf services (entry detailsFor)) r limit (entry detailsFor) caller
            v).1 ∧
        Job.GoesAmid (settingOf services (entry detailsFor)) r (entry detailsFor) caller marks
          .fresh v (.ended (.ok record)) (r.runOne services (entry detailsFor) caller v).2)
  /-- Alone, if the scope made for it tells a cause, it fails for that. -/
  fails {caller : ScopeId} {v : World τ} {cause : Fault} :
    ((v.line.child caller (some limit)).2.error v.line.forest.size).1 = some cause →
    cause.IsReason → FailsUnasked services r entry caller v cause
  /-- Below a cancelled caller it tells the cause of that. -/
  told {caller : ScopeId} {v : World τ} : v.line.forest.Settled →
    (v.line.isCancelled caller).1 = true →
    ∃ cause, (v.line.error caller).1 = some cause ∧
      ((v.line.child caller (some limit)).2.error v.line.forest.size).1 = some cause

section Looks

variable [Clock.Ordered τ] {services : Array (Service τ Moment)} {r : Runner τ Moment} {limit : τ}
  {caller : ScopeId} {v w : World τ} {marks : List Mark} {result : Except Fault (Record Moment)}
  (deadline : r.timeout.seconds? = .ok limit) (stamps : ∀ now, ∃ stamp, r.stamp now = .ok stamp)
include deadline stamps

/-- Whoever else acts, the check of a definition asks the component if its own scope is live when it
looks. -/
theorem asksIfLive {detailsFor : String → Probe τ} (settled : v.line.forest.Settled)
    (isTime : IsTime v.line.now) (made : caller < v.line.forest.size)
    (goes : Job.GoesAmid (settingOf services (definitionEntry number category detailsFor d)) r
      (definitionEntry number category detailsFor d) caller marks .fresh v (.ended result) w) :
    ∃ frame u, AsksIfLive services r (definitionEntry number category · d) d.id detailsFor caller v
      marks result w frame u := by
  obtain ⟨frame, u, job', v', rest, begins, makes, rfl, goes⟩ :=
    goes.begins deadline settled isTime made
  have settled : u.line.forest.Settled := begins.follows.settled
  have isTime : IsTime u.line.now := begins.follows.isTime
  let entry (other : String → Probe τ) : Entry τ := definitionEntry number category other d
  refine ⟨frame, u, begins, ?_, ?_⟩
  · intro live
    have same : (u.line.error frame.own).2 = u.line := by
      rw [Timeline.error_snd, Timeline.isCancelled_of_live live]
    have looks (other : String → Probe τ) :
        (.acting frame (entry other).probe : Job τ Moment).step (settingOf services (entry other))
          r (entry other) caller u =
            some (.acting frame (other d.id), { u with line := (u.line.error frame.own).2 }) :=
      Job.step_check_of_none _ r (entry other) caller (Timeline.fst_error_of_live live) _
    simp only [same] at looks
    obtain ⟨rfl, rfl⟩ := Prod.mk.inj (Option.some.inj (makes.symm.trans (looks detailsFor)))
    obtain ⟨outcome, rfl, shows⟩ := goes.comes deadline stamps
    exact ⟨looks, outcome, rfl, goes, shows⟩
  · intro cancelled
    obtain ⟨cause, told⟩ := Timeline.exists_told settled cancelled
    have looks (other : String → Probe τ) :
        (.acting frame (entry other).probe : Job τ Moment).step (settingOf services (entry other))
          r (entry other) caller u =
            some (.acting frame (.fail cause.fresh),
              { u with line := (u.line.error frame.own).2 }) :=
      Job.step_check_of_some _ r (entry other) caller told _
    obtain ⟨rfl, rfl⟩ := Prod.mk.inj (Option.some.inj (makes.symm.trans (looks detailsFor)))
    have after := Timeline.Follows.isCancelled settled isTime frame.own
    rw [← Timeline.error_snd] at after
    obtain ⟨rfl, shows⟩ := goes.comes_of_fail deadline stamps after.settled after.isTime
    refine ⟨cause, _, told, looks, rfl, shows, ?_⟩
    intro reason
    rw [reason.fresh_eq] at shows
    obtain ⟨record, rfl⟩ := shows.exists_record (.inr ⟨cause, rfl, reason.isOrdinary⟩)
    exact ⟨record, rfl, reason.shown shows⟩

theorem looksFirst (services : Array (Service τ Moment)) (number : Nat) (category : String)
    (d : Definition) (detailsFor : String → Probe τ) :
    LooksFirst services r limit (definitionEntry number category · d) d.id detailsFor := by
  have nests := Job.nestsOn_settingOf services
  have down := Job.handsDown_made r
  constructor
  · intro caller v w marks result settled isTime made goes
    exact asksIfLive deadline stamps settled isTime made goes
  · intro size entries caller v steps c k result settled isTime made runs at' done start
    have begins : start.UnderWay r (fun t s => s < t.forest.size) (fun t s => s < t.forest.size)
        entries caller [] := .start_made settled isTime made
    have goes := Crew.run_goesAmid down nests deadline stamps at' begins runs
    have underWay := Crew.run_underWay down nests deadline stamps begins runs
    rw [Crew.jobOf_eq (underWay.results done)] at goes
    exact asksIfLive deadline stamps begins.settled begins.isTime begins.root goes
  · intro caller v settled isTime made live
    refine ⟨asksOnce_of_error live, ?_⟩
    intro ordinary
    obtain ⟨stamp, stamped⟩ := stamps _
    obtain ⟨record, returned, tells⟩ := Runner.executeIn_tells deadline ordinary stamped
    obtain ⟨record', own, outcome, returned', goes, -, -⟩ :=
      Job.executeIn_calls_once deadline stamps ordinary
    obtain rfl : record = record' := Outcome.returned.inj (returned.symm.trans returned')
    exact ⟨record, _, returned, tells, goes.goesAmid down (nests _) settled isTime made trivial⟩
  · intro caller v cause told reason
    exact failsUnasked_of_error deadline stamps reason told
  · intro caller v settled asked
    obtain ⟨cause, told⟩ := Timeline.exists_told settled asked
    have born := Job.told_child settled (some limit) told
    exact ⟨cause, told, Timeline.fst_error_of_cause? born⟩

end Looks

/-- A component's definitions are registered without a fault. New are those whose identifier is not
taken in the category, of several the first; they are counted, and their entries follow what the
category had, in their order. Other categories and other registries stay as they are, and so does
the rest of the world but for its log. Registering the definitions again, be it for another
component, counts none and changes the log alone. The entry of a new definition has its identifier
and its description and is found under the identifier; its check asks the component for that if
its own scope is live when it looks, and fails unasked otherwise (`LooksFirst`). -/
theorem definitions_are_offered [Clock.Ordered τ] {s : Service τ σ}
    (there : s.store < w.stores.size) (number : Nat) (category : String)
    (definitions : List Definition) (detailsFor : String → Probe τ) :
    let before := w.store s.store
    let new := newcomers (before.contains category) definitions
    new.Sublist definitions ∧ (new.map Definition.id).Nodup ∧
    (∀ d, d ∈ new ↔ before.contains category d.id = false ∧
      definitions.find? (fun e => e.id == d.id) = some d) ∧
    new.length = ((definitions.map Definition.id).toFinset.filter fun id =>
      before.contains category id = false).card ∧
    ∃ w', s.registerDefinitions number category detailsFor definitions w =
        (.returned new.length, w') ∧
      before.Continues category (definitionEntries number category detailsFor new)
        (w'.store s.store) ∧
      (∀ other, other ≠ s.store → w'.store other = w.store other) ∧
      (∃ notes, w' = { w with stores := w'.stores, log := w.log ++ notes }) ∧
      (∀ again, ∃ notes, s.registerDefinitions number category again definitions w' =
        (.returned 0, { w' with log := w'.log ++ notes })) ∧
      ∀ d ∈ new,
        (definitionEntry number category detailsFor d).check =
          ⟨d.id, d.description, category⟩ ∧
        (w'.store s.store).get? category d.id =
          some (definitionEntry number category detailsFor d) ∧
        ∀ (services : Array (Service τ Moment)) (r : Runner τ Moment) (limit : τ),
          r.timeout.seconds? = .ok limit → (∀ now, ∃ stamp, r.stamp now = .ok stamp) →
            LooksFirst services r limit (definitionEntry number category · d) d.id
              detailsFor := by
  intro before new
  obtain ⟨w', runs, extended⟩ :=
    extended_registerDefinitions number category detailsFor there definitions
  have there' : s.store < w'.stores.size := by rwa [extended.size_eq]
  have continues : before.Continues category (definitionEntries number category detailsFor new)
      (w'.store s.store) := by
    rw [extended.store_eq]
    exact Registry.continues_extend ..
  refine ⟨Definition.newcomers_sublist .., Definition.nodup_newcomers ..,
    fun d => Definition.mem_newcomers_iff, Definition.length_newcomers .., w', runs, continues,
    extended.others, extended.rest, ?_, ?_⟩
  · intro again
    apply registerDefinitions_of_taken number category again there'
    intro d mem
    exact contains_of_extended extended mem
  · intro d isNew
    refine ⟨rfl, get?_of_extended extended isNew, ?_⟩
    intro services r limit deadline stamps
    exact looksFirst deadline stamps services number category d detailsFor

/-! ### A component of a cache -/

/-- A component that knows how deep its queue is, and nothing else. -/
def cacheDetails (id : String) : Probe Float :=
  if id = "depth" then .done (.mapping [(.str "depth", .int 4)])
  else .fail (.because .lookupError "no details")

/-- What it offers. One identifier comes twice. -/
def cacheDefinitions : List Definition :=
  [⟨"hits", "cache hits"⟩, ⟨"depth", "queue depth"⟩, ⟨"depth", "queue depth, once more"⟩]

/-- A world in which one of its identifiers is taken, and the other in another category. -/
def stocked : World Float where
  line := ({ now := 100.0 } : Timeline Float).background.2
  stores :=
    #[{ buckets :=
          [("queue", [("depth", definitionEntry 0 "queue" cacheDetails ⟨"depth", ""⟩)]),
            ("cache", [("hits", definitionEntry 0 "cache" cacheDetails ⟨"hits", ""⟩)])]
        count := 2 }]

def closing : World Float :=
  { stocked with line := stocked.line.cancel 0 (.cancellation .scopeCancelled (.str "closing")) }

def runnerFor (seconds : Float) : Runner Float Moment where
  timeout := .exact seconds
  stamp _ := .ok { date := ⟨2025, 1, 1⟩, offset := some 0 }

theorem settled_stocked : stocked.line.forest.Settled :=
  (Forest.grown_background Forest.Formed.empty).settled

theorem cause?_closing :
    closing.line.forest.cause? 0 = some (.cancellation .scopeCancelled (.str "closing")) :=
  Forest.cause?_cancel_of_above settled_stocked Nat.one_pos .self rfl _

theorem queue_depth_is_offered :
    let s : Service Float Moment := { runner := runnerFor 5.0 }
    let entry := definitionEntry 0 "cache" cacheDetails ⟨"depth", "queue depth"⟩
    (∃ w', s.registerDefinitions 0 "cache" cacheDetails cacheDefinitions stocked =
        (.returned 1, w') ∧ (w'.store 0).get? "cache" "depth" = some entry) ∧
      (∃ record marks frame u,
        ((runnerFor 5.0).runOne #[s] entry 0 stocked).1 = .returned record ∧
        record.details = some (.mapping [(.str "depth", .int 4)]) ∧
        AsksIfLive #[s] (runnerFor 5.0) (definitionEntry 0 "cache" · ⟨"depth", "queue depth"⟩)
          "depth" cacheDetails 0 stocked marks (.ok record)
          ((runnerFor 5.0).runOne #[s] entry 0 stocked).2 frame u) ∧
      ∃ record, ((runnerFor 5.0).runOne #[s] entry 0 closing).1 = .returned record ∧
        record.error = "closing" := by
  intro s entry
  have new : newcomers ((stocked.store s.store).contains "cache") cacheDefinitions =
      [⟨"depth", "queue depth"⟩] := by decide
  obtain ⟨-, -, -, -, w', runs, -, -, -, -, each⟩ :=
    definitions_are_offered (s := s) (w := stocked) Nat.one_pos 0 "cache" cacheDefinitions
      cacheDetails
  rw [new] at runs
  obtain ⟨-, found, goes⟩ := each ⟨"depth", "queue depth"⟩ (new ▸ List.mem_singleton_self _)
  have stamps (seconds now : Float) : ∃ stamp, (runnerFor seconds).stamp now = .ok stamp :=
    ⟨_, rfl⟩
  have looks : LooksFirst #[s] (runnerFor 5.0) 5.0
      (definitionEntry 0 "cache" · ⟨"depth", "queue depth"⟩) "depth" cacheDetails :=
    goes #[s] (runnerFor 5.0) 5.0 rfl (stamps 5.0)
  refine ⟨⟨w', runs, found⟩, ?_, ?_⟩
  · obtain ⟨⟨setting, own, start, asks⟩, comes⟩ :=
      looks.asks settled_stocked (by rfl) Nat.one_pos (by rfl)
    have came : (probeRun (settingOf #[s] entry) (runnerFor 5.0) 5.0 entry 0 stocked).1 =
        .returned (.mapping [(.str "depth", .int 4)]) := congrArg Prod.fst (asks cacheDetails)
    obtain ⟨record, marks, returned, tells, goes⟩ := comes (.inl ⟨_, came⟩)
    obtain ⟨frame, u, asked⟩ := looks.amid settled_stocked (by rfl) Nat.one_pos goes
    exact ⟨record, marks, frame, u, returned, tells.details came (by rfl), asked⟩
  · have settled : closing.line.forest.Settled := Forest.formed_cancel settled_stocked 0 _
    have asked : (closing.line.isCancelled 0).1 = true :=
      (Forest.fst_isCancelled ..).mpr (.inl (Option.isSome_iff_exists.mpr ⟨_, cause?_closing⟩))
    obtain ⟨cause, known, told⟩ := looks.told settled asked
    obtain rfl := Option.some.inj (known.symm.trans (Timeline.fst_error_of_cause? cause?_closing))
    obtain ⟨record, w'', returned, error, -⟩ :=
      looks.fails told ⟨.scopeCancelled, "closing", .inl rfl, rfl⟩
    exact ⟨record, congrArg Prod.fst (returned cacheDetails), error⟩

/-- A time can be too short to move the clock: below a live scope the check of a definition that was
registered, given a time above zero, has expired before it asks. -/
theorem tiny_timeout_asks_nobody :
    let s : Service Float Moment := { runner := runnerFor 1e-20 }
    let entry (detailsFor : String → Probe Float) : Entry Float :=
      definitionEntry 0 "cache" detailsFor ⟨"depth", "queue depth"⟩
    ∃ w', s.registerDefinitions 0 "cache" cacheDetails cacheDefinitions stocked =
        (.returned 1, w') ∧
      (w'.store 0).get? "cache" "depth" = some (entry cacheDetails) ∧
      (w'.line.isCancelled 0).1 = false ∧ s.runner.timeout.seconds? = .ok 1e-20 ∧
      Clock.lt (0.0 : Float) 1e-20 = true ∧ (1e-20 : Float).isFinite = true ∧
      (¬ AsksOnce "depth" fun detailsFor =>
        probeRun (settingOf #[s] (entry detailsFor)) s.runner 1e-20 (entry detailsFor) 0 w') ∧
      FailsUnasked #[s] s.runner entry 0 w' .deadlineExceeded := by
  intro s entry
  have new : newcomers ((stocked.store s.store).contains "cache") cacheDefinitions =
      [⟨"depth", "queue depth"⟩] := by decide
  obtain ⟨w', runs, extended⟩ := extended_registerDefinitions (s := s) (w := stocked) 0 "cache"
    cacheDetails Nat.one_pos cacheDefinitions
  have found := get?_of_extended extended (new ▸ List.mem_singleton_self _)
  rw [new] at runs
  have line : w'.line = stocked.line := by
    obtain ⟨notes, rest⟩ := extended.rest
    rw [rest]
  have told : ((w'.line.child 0 (some 1e-20)).2.error w'.line.forest.size).1 =
      some .deadlineExceeded := by
    rw [line]
    exact Timeline.fst_error_child_of_absorbed settled_stocked Nat.one_pos (by rfl) (by rfl)
      (by rfl) nofun (by rfl)
  refine ⟨w', runs, found, by rw [line]; rfl, rfl, by rfl, by rfl, ?_, ?_⟩
  · obtain ⟨w'', raises⟩ := probeRun_of_error told
    apply not_asksOnce_of_eq
    intro detailsFor other
    exact (raises other).trans (raises detailsFor).symm
  · exact failsUnasked_of_error rfl (fun _ => ⟨_, rfl⟩) Fault.isReason_deadlineExceeded told

end Service

end Checkup
