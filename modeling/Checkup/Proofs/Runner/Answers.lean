import Checkup.Proofs.Runner.Blind
import Checkup.Proofs.Runner.Registrars
import Checkup.Proofs.Runner.Tasks

/-!
What a probe comes to that never looks at a scope, whatever goes on around it.

Such a probe goes its way by what it is told of the world apart from scopes, and by nothing else.
So what it comes to in a batch is read off its tree with the answers that it was given
(`Probe.comesTo`), and two batches that have given a probe the same answers have seen it end alike,
under whatever scopes it ran and whatever the other tasks did.

Main statements: `blind_comesTo` (what such a probe has come to is told by its answers) and
`ComesTo.eq` (the same answers, the same records).
-/

namespace Checkup

open Clock (IsTime)

variable {τ σ : Type}

/-- What a probe comes to that is told so. -/
def Probe.comesTo : Probe τ → List (Answer τ) → Option (Outcome Value)
  | .done value, _ => some (.returned value)
  | .fail fault, _ => some (.raised fault)
  | .derive _ _ next, told => next.comesTo told
  | .close _ next, told => next.comesTo told
  | .cancel _ _ next, told => next.comesTo told
  | .cancelNamed _ _ next, told => next.comesTo told
  | .pass _ next, told => next.comesTo told
  | .clear next, told => next.comesTo told
  | .knows _ next, .known known :: told => (next known).comesTo told
  | .clock next, .now now :: told => (next now).comesTo told
  | .total next, .total n :: told => (next n).comesTo told
  | .register _ _ next, .registered fault :: told => (next fault).comesTo told
  | .unregister _ _ next, .removed removed :: told => (next removed).comesTo told
  | .runCheck _ _ _ next, .ran answer :: told => (next answer).comesTo told
  | .host next, .host machine :: told => (next machine).comesTo told
  | _, _ => none

variable [Clock τ] {setting : World.Setting τ} {r : Runner τ σ} {limit : τ} {entry : Entry τ}
  {scope : ScopeId} {frame : Frame τ} {probe : Probe τ} {job job' : Job τ σ} {w w' : World τ}
  {marks : List Mark} {told : List (Answer τ)}

namespace Job

/-- How far a job is with a probe that never looks at a scope, given what that was told. -/
def Hears (probe : Probe τ) (marks : List Mark) (told : List (Answer τ)) : Job τ σ → Prop
  | .fresh | .entering .. => told = []
  | .acting _ next => next.IsBlind ∧ ∀ more, probe.comesTo (told ++ more) = next.comesTo more
  | .waiting .. => False
  | .judged .. | .stamped .. | .ended _ =>
    ∃ outcome, .came outcome ∈ marks ∧ probe.comesTo told = some outcome

omit [Clock τ] in
theorem comesTo_of_outcome {outcome : Outcome Value} (ends : probe.outcome? = some outcome)
    (told : List (Answer τ)) : probe.comesTo told = some outcome := by
  cases probe with
  | done | fail =>
      cases ends
      simp only [Probe.comesTo]
  | _ => cases ends

/-- A probe that never looks goes on as it is told. -/
theorem act_blind (blind : probe.IsBlind) (goesOn : probe.outcome? = none)
    (acts : act setting entry.check frame probe w = some ((job', w') : Job τ σ × World τ)) :
    ∃ frame' next, job' = .acting frame' next ∧ next.IsBlind ∧
      ∀ more, probe.comesTo ((probe.answer? setting frame.scopeOf w).toList ++ more) =
        next.comesTo more := by
  cases blind with
  | done | fail => cases goesOn
  | derive blind | close blind | cancel blind | cancelNamed blind | pass blind | clear blind =>
      cases acts
      exact ⟨_, _, rfl, blind, fun _ => rfl⟩
  | knows blind | clock blind | total blind | unregister blind | host blind =>
      cases acts
      exact ⟨_, _, rfl, blind _, fun _ => rfl⟩
  | register blind =>
      simp only [act] at acts
      split at acts
      · rename_i registers
        cases acts
        refine ⟨_, _, rfl, blind _, fun more => ?_⟩
        simp only [Probe.answer?, registers]
        rfl
      · rename_i refuses
        cases acts
        refine ⟨_, _, rfl, blind _, fun more => ?_⟩
        simp only [Probe.answer?, refuses]
        rfl
  | runCheck blind =>
      simp only [act] at acts
      split at acts
      · rename_i ran
        cases acts
        refine ⟨_, _, rfl, blind _, fun more => ?_⟩
        simp only [Probe.answer?, ran]
        rfl
      · rename_i ran
        cases acts
        refine ⟨_, _, rfl, blind _, fun more => ?_⟩
        simp only [Probe.answer?, ran]
        rfl
      · cases acts

/-- A step of a job takes its probe on by what that is told. -/
theorem hears_step (deadline : r.timeout.seconds? = .ok limit) (blind : entry.probe.IsBlind)
    (hears : job.Hears entry.probe marks told)
    (makes : job.step setting r entry scope w = some (job', w')) :
    job'.Hears entry.probe (marks ++ (job.mark? w).toList)
      (told ++ (job.answer? setting w).toList) := by
  have acted {frame : Frame τ} {probe : Probe τ} (here : job = .acting frame probe)
      (goesOn : probe.outcome? = none) : job'.Hears entry.probe
        (marks ++ (job.mark? w).toList) (told ++ (job.answer? setting w).toList) := by
    subst here
    obtain ⟨blind, before⟩ := hears
    obtain ⟨_, next, rfl, blind', after⟩ := act_blind blind goesOn makes
    refine ⟨blind', fun more => ?_⟩
    rw [List.append_assoc, before, answer?, after]
  have ended {frame : Frame τ} {probe : Probe τ} {outcome : Outcome Value}
      (here : job = .acting frame probe) (ends : probe.outcome? = some outcome) :
      ∃ outcome, .came outcome ∈ marks ++ (job.mark? w).toList ∧
        entry.probe.comesTo (told ++ (job.answer? setting w).toList) = some outcome := by
    subst here
    refine ⟨outcome, List.mem_append_right _ ?_, ?_⟩
    · rw [mark?, ends]
      exact List.mem_singleton_self _
    · rw [hears.2, comesTo_of_outcome ends]
  have still (before : ∃ outcome, .came outcome ∈ marks ∧ entry.probe.comesTo told = some outcome) :
      ∃ outcome, .came outcome ∈ marks ++ [] ∧ entry.probe.comesTo (told ++ []) = some outcome := by
    rwa [List.append_nil, List.append_nil]
  cases move_of_step makes with
  | begin => exact (List.append_nil told).trans hears
  | unfit unfit =>
      rw [deadline] at unfit
      cases unfit
  | enter =>
      refine ⟨blind, fun more => ?_⟩
      obtain rfl : told = [] := hears
      rfl
  | use goesOn => exact acted rfl goesOn.outcome?_eq_none
  | derive | nest => exact acted rfl rfl
  | wait => cases hears.1
  | wake => exact hears.elim
  | judge ends => exact ended rfl ends
  | escape => exact ended rfl rfl
  | stamp | unstamped | finish => exact still hears

end Job

namespace Crew

variable [Clock.Ordered τ] {setting : Entry τ → World.Setting τ} {r : Runner τ σ} {limit : τ}
  {entries : List (Entry τ)} {caller : ScopeId} {size : Nat} {w : World τ} {steps : List (Step τ)}
  {c : Crew τ σ} {entry : Entry τ} {k : Nat} {own : ScopeId} {outcome : Outcome Value}

/-- What a probe has come to in a batch that never looks at a scope is told by its answers. -/
theorem blind_comesTo (nests : ∀ entry, Job.NestsOn (setting entry))
    (deadline : r.timeout.seconds? = .ok limit) (stamps : ∀ now, ∃ stamp, r.stamp now = .ok stamp)
    (settled : w.line.forest.Settled) (isTime : IsTime w.line.now)
    (made : caller < w.line.forest.size)
    (runs : (Crew.start size entries caller w).run setting r steps = some c)
    (final : c.pool.IsFinal) (at' : entries[k]? = some entry) (blind : entry.probe.IsBlind)
    (called : CalledOnce ((Crew.start size entries caller w : Crew τ σ).told setting r steps) k own
      outcome) :
    entry.probe.comesTo ((Crew.start size entries caller w : Crew τ σ).answers setting r k steps) =
      some outcome := by
  let Made (t : Timeline τ) (s : ScopeId) : Prop := s < t.forest.size
  have begins : (Crew.start size entries caller w : Crew τ σ).UnderWay r Made Made entries caller
      [] := .start_made settled isTime made
  have down := Job.handsDown_made r
  have underWay := run_underWay down nests deadline stamps begins runs
  have hears := run_job (J := fun marks told job => job.Hears entry.probe marks told) [] down nests
    deadline stamps at' (fun _ _ _ _ hears makes => Job.hears_step deadline blind hears makes)
    begins rfl runs
  obtain ⟨poolSteps, poolRuns, -⟩ := pool_run runs
  have all := Pool.allReleased_of_isFinal poolRuns final
  obtain ⟨result, ended⟩ := underWay.jobOf_of_isFinal final all at'
  rw [ended] at hears
  obtain ⟨outcome', came, comes⟩ := hears
  obtain rfl : outcome' = outcome := called.outcome_of_mem came
  exact comes

/-- Some batch, below whatever caller and in whatever world, has given the probe of an entry these
answers and has come to this record of it. -/
def ComesTo (setting : Entry τ → World.Setting τ) (r : Runner τ σ) (entry : Entry τ)
    (answers : List (Answer τ)) (record : Record σ) : Prop :=
  ∃ (size : Nat) (entries : List (Entry τ)) (caller : ScopeId) (w : World τ)
    (steps : List (Step τ)) (c : Crew τ σ) (k : Nat),
    (w.line.forest.Settled ∧ IsTime w.line.now ∧ caller < w.line.forest.size) ∧
    ((Crew.start size entries caller w).run setting r steps = some c ∧ c.pool.IsFinal) ∧
    (entries[k]? = some entry ∧ c.pool.result? k = some (.ok record)) ∧
    (Crew.start size entries caller w : Crew τ σ).answers setting r k steps = answers

/-- Where a probe that never looks at a scope was given the same answers, its records show the
same, under whatever scopes it ran and whatever other tasks did. -/
theorem ComesTo.eq {answers : List (Answer τ)} {record record' : Record σ}
    (nests : ∀ entry, Job.NestsOn (setting entry)) (deadline : r.timeout.seconds? = .ok limit)
    (stamps : ∀ now, ∃ stamp, r.stamp now = .ok stamp) (blind : entry.probe.IsBlind)
    (comes : ComesTo setting r entry answers record)
    (comes' : ComesTo setting r entry answers record') :
    record'.error = record.error ∧ record'.details = record.details := by
  have told {record : Record σ} (comes : ComesTo setting r entry answers record) :
      ∃ outcome, entry.probe.comesTo answers = some outcome ∧
        Shows entry.check outcome (.ok record) := by
    obtain ⟨size, entries, caller, w, steps, c, k, ⟨settled, isTime, made⟩, ⟨runs, final⟩,
      ⟨at', done⟩, rfl⟩ := comes
    have underWay := UnderWay.of_made nests deadline stamps settled isTime made runs
    obtain ⟨entry', own, outcome, there, called, shows⟩ := underWay.shows_of_result final done
    obtain rfl := Option.some.inj (at'.symm.trans there)
    exact ⟨outcome, blind_comesTo nests deadline stamps settled isTime made runs final at' blind
      called, shows⟩
  obtain ⟨outcome, here, shows⟩ := told comes
  obtain ⟨outcome', here', shows'⟩ := told comes'
  obtain rfl := Option.some.inj (here.symm.trans here')
  exact shows.eq shows'

end Crew

end Checkup
