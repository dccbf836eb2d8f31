import Checkup.Proofs.Runner.Released
import Checkup.Proofs.Scope.Onward

/-!
What a job can do, whatever its probe.

A step of a job goes on to what comes next in its probe, makes a scope, blocks, wakes, or brings the
job nearer to its end (`Move`). As probes are trees, every job that goes on ends. And wherever a
probe is, all scopes that it can name were made below that of its run, so that whatever holds of
this one, and is handed down, holds of them (`Placed`).

Main statements: `move_of_step` (all that a step needs and does), `acc_onward` (jobs end),
`exists_step` (what can keep a job from going on), `step_placed` (what a step leaves of scopes) and
`follows_execute` (so does a check that is run from inside a probe).
-/

namespace Checkup

open Clock (IsTime)
open Timeline (Touch Touches Follows)

variable {τ σ : Type}

/-! ### Probes -/

namespace Probe

/-- What may come next in a probe. -/
inductive Next : Probe τ → Probe τ → Prop
  | isCancelled {h : Handle} {next : Bool → Probe τ} (cancelled : Bool) :
      Next (.isCancelled h next) (next cancelled)
  | error {h : Handle} {next : Option Fault → Probe τ} (cause : Option Fault) :
      Next (.error h next) (next cause)
  | remaining {h : Handle} {next : Option τ → Probe τ} (left : Option τ) :
      Next (.remaining h next) (next left)
  | wait {h : Handle} {timeout : Option τ} {next : Bool → Probe τ} (cancelled : Bool) :
      Next (.wait h timeout next) (next cancelled)
  | derive {h : Handle} {timeout : Option τ} {next : Probe τ} : Next (.derive h timeout next) next
  | close {h : Handle} {next : Probe τ} : Next (.close h next) next
  | cancel {h : Handle} {cause : Fault} {next : Probe τ} : Next (.cancel h cause next) next
  | knows {scope : String} {next : Bool → Probe τ} (known : Bool) :
      Next (.knows scope next) (next known)
  | cancelNamed {scope : String} {cause : Fault} {next : Probe τ} :
      Next (.cancelNamed scope cause next) next
  | clock {next : τ → Probe τ} (now : τ) : Next (.clock next) (next now)
  | pass {span : τ} {next : Probe τ} : Next (.pass span next) next
  | total {next : Nat → Probe τ} (total : Nat) : Next (.total next) (next total)
  | register {check : Check} {probe : Probe τ} {next : Option Fault → Probe τ}
      (fault : Option Fault) : Next (.register check probe next) (next fault)
  | unregister {category name : String} {next : Bool → Probe τ} (removed : Bool) :
      Next (.unregister category name next) (next removed)
  | clear {next : Probe τ} : Next (.clear next) next
  | runCheck {category name : String} {scope : Option Handle}
      {next : Except Fault (Option String) → Probe τ} (answer : Except Fault (Option String)) :
      Next (.runCheck category name scope next) (next answer)
  | host {next : Host → Probe τ} (host : Host) : Next (.host next) (next host)

/-- A probe is a tree, so whatever comes next, it comes to an end. -/
theorem acc_next (probe : Probe τ) : Acc (fun next probe : Probe τ => probe.Next next) probe := by
  induction probe with
  | done | fail => exact .intro _ nofun
  | isCancelled h next ih | error h next ih | remaining h next ih | wait h timeout next ih
  | knows name next ih | clock next ih | total next ih | unregister category name next ih
  | runCheck category name under next ih | host next ih =>
      constructor
      intro q goesOn
      cases goesOn
      exact ih _
  | register check probe next _ ih =>
      constructor
      intro q goesOn
      cases goesOn
      exact ih _
  | derive h timeout next ih | close h next ih | cancel h cause next ih
  | cancelNamed name cause next ih | pass span next ih | clear next ih =>
      constructor
      intro q goesOn
      cases goesOn
      exact ih

/-- How a probe ends that has come to its end. -/
def outcome? : Probe τ → Option (Outcome Value)
  | .done value => some (.returned value)
  | .fail fault => some (.raised fault)
  | _ => none

end Probe

namespace Job

variable [Clock τ] {setting : World.Setting τ} {r : Runner τ σ} {entry : Entry τ} {scope : ScopeId}
  {job job' : Job τ σ} {w w' : World τ} {frame : Frame τ}

/-! ### Steps -/

/-- All that a step of a job needs and does. -/
inductive Move (setting : World.Setting τ) (r : Runner τ σ) (entry : Entry τ) (scope : ScopeId) :
    Job τ σ → World τ → Job τ σ → World τ → Prop
  | begin {w w' : World τ} (id : String) {limit : τ} : r.timeout.seconds? = .ok limit →
      w'.line = w.line → Move setting r entry scope .fresh w (.entering id w.line.now limit) w'
  | unfit {w w' : World τ} {fault : Fault} : r.timeout.seconds? = .error fault →
      w'.line = w.line → Move setting r entry scope .fresh w (.ended (.error fault)) w'
  | enter {w : World τ} (id : String) (start limit : τ) :
      Move setting r entry scope (.entering id start limit) w
        (.acting { id, start, limit, own := w.line.forest.size } entry.probe)
        { w with line := (w.line.child scope (some limit)).2 }
  /-- The probe does something to scopes, or to nothing of them. -/
  | use {w w' : World τ} {frame : Frame τ} {probe next : Probe τ} : probe.Next next →
      Touches 0 w.line w'.line →
      Move setting r entry scope (.acting frame probe) w (.acting frame next) w'
  | derive {w : World τ} {frame : Frame τ} (h : Handle) (timeout : Option τ) (next : Probe τ) :
      Move setting r entry scope (.acting frame (.derive h timeout next)) w
        (.acting { frame with derived := frame.derived ++ [w.line.forest.size] } next)
        { w with line := (w.line.child (frame.scopeOf h) timeout).2 }
  /-- The probe has run a check. -/
  | nest {w : World τ} {frame : Frame τ} (category name : String) (under : Option Handle)
      (next : Except Fault (Option String) → Probe τ) (answer : Except Fault (Option String)) :
      (setting.runCheck category name (under.map frame.scopeOf) w).1 ≠ .stalled →
      Move setting r entry scope (.acting frame (.runCheck category name under next)) w
        (.acting frame (next answer))
        (setting.runCheck category name (under.map frame.scopeOf) w).2
  | wait {w : World τ} {frame : Frame τ} (h : Handle) (timeout : Option τ) (next : Bool → Probe τ) :
      Move setting r entry scope (.acting frame (.wait h timeout next)) w
        (.waiting frame (frame.scopeOf h) (timeout.map (Clock.add w.line.now)) next) w
  | wake {w : World τ} {frame : Frame τ} (s : ScopeId) (limit : Option τ) (next : Bool → Probe τ) :
      Move setting r entry scope (.waiting frame s limit next) w
        (.acting frame (next (w.line.isCancelled s).1))
        { w with line := (w.line.isCancelled s).2 }
  /-- The probe has returned or has raised what is caught. -/
  | judge {w w' : World τ} {frame : Frame τ} {probe : Probe τ} {outcome : Outcome Value}
      {error : String} {details : Option Value} : probe.outcome? = some outcome →
      (Runner.Verdict.ofOutcome outcome).shown? = some (error, details) → w'.line = w.line →
      Move setting r entry scope (.acting frame probe) w (.judged frame error details) w'
  | escape {w : World τ} {frame : Frame τ} {fault : Fault} : fault.isOrdinary = false →
      Move setting r entry scope (.acting frame (.fail fault)) w (.ended (.error fault))
        { w with line := w.line.close frame.own }
  | stamp {w : World τ} {frame : Frame τ} {timestamp : σ} (error : String)
      (details : Option Value) : r.stamp w.line.now = .ok timestamp →
      Move setting r entry scope (.judged frame error details) w
        (.stamped frame timestamp error details) w
  | unstamped {w : World τ} {frame : Frame τ} {fault : Fault} (error : String)
      (details : Option Value) : r.stamp w.line.now = .error fault →
      Move setting r entry scope (.judged frame error details) w (.ended (.error fault))
        { w with line := w.line.close frame.own }
  | finish {w w' : World τ} {frame : Frame τ} (timestamp : σ) (error : String)
      (details : Option Value) {record : Record σ} : record.check = entry.check →
      record.error = error → record.details = details → w'.line = w.line.close frame.own →
      Move setting r entry scope (.stamped frame timestamp error details) w (.ended (.ok record)) w'

theorem move_of_judge {probe : Probe τ} {outcome : Outcome Value}
    (ends : probe.outcome? = some outcome)
    (judges : (judge entry.check frame outcome w : Option (Job τ σ × World τ)) = some (job', w')) :
    Move setting r entry scope (.acting frame probe) w job' w' := by
  unfold judge at judges
  split at judges
  · rename_i value verdict
    cases judges
    exact .judge ends (by rw [verdict]; rfl) rfl
  · rename_i fault verdict
    cases judges
    exact .judge ends (by rw [verdict]; rfl) rfl
  · rename_i fault verdict
    cases judges
    obtain ⟨rfl, escapes⟩ := Runner.Verdict.eq_escape_iff.mp verdict
    cases probe with
    | fail fault =>
        cases ends
        exact .escape escapes
    | _ => cases ends
  · cases judges

/-- What a probe does next is a move of its job. -/
theorem move_of_act {probe : Probe τ}
    (acts : (act setting entry.check frame probe w : Option (Job τ σ × World τ)) =
      some (job', w')) : Move setting r entry scope (.acting frame probe) w job' w' := by
  have new (s : ScopeId) (timeout : Option τ) : (w.line.child s timeout).1 = w.line.forest.size :=
    Forest.fst_child ..
  cases probe with
  | done value => exact move_of_judge rfl acts
  | fail fault => exact move_of_judge rfl acts
  | isCancelled h next =>
      cases acts
      exact .use (.isCancelled _) (.single (.isCancelled (Nat.zero_le _)))
  | error h next =>
      have does : act setting entry.check frame (.error h next) w = some
          ((.acting frame (next (w.line.error (frame.scopeOf h)).1) : Job τ σ),
            { w with line := (w.line.error (frame.scopeOf h)).2 }) := rfl
      rw [does, Timeline.error_snd] at acts
      cases acts
      exact .use (.error _) (.single (.isCancelled (Nat.zero_le _)))
  | remaining h next =>
      cases acts
      exact .use (.remaining _) .refl
  | wait h timeout next =>
      cases acts
      exact .wait h timeout next
  | derive h timeout next =>
      have does : act setting entry.check frame (.derive h timeout next) w = some
          ((.acting { frame with derived := frame.derived ++ [w.line.forest.size] } next : Job τ σ),
            { w with line := (w.line.child (frame.scopeOf h) timeout).2 }) := by
        rw [← new (frame.scopeOf h) timeout]
        rfl
      rw [does] at acts
      cases acts
      exact .derive h timeout next
  | close h next =>
      cases acts
      exact .use .close (.single (.close (Nat.zero_le _)))
  | cancel h cause next =>
      cases acts
      exact .use .cancel (.single (.cancel cause (Nat.zero_le _)))
  | knows name next =>
      cases acts
      exact .use (.knows _) .refl
  | cancelNamed name cause next =>
      cases acts
      refine .use .cancelNamed ?_
      split
      · exact .single (.cancel cause (Nat.zero_le _))
      · exact .refl
  | clock next =>
      cases acts
      exact .use (.clock _) .refl
  | pass span next =>
      cases acts
      exact .use .pass .refl
  | total next =>
      cases acts
      exact .use (.total _) .refl
  | register check probe next =>
      rw [act] at acts
      split at acts
      · rename_i registers
        cases acts
        refine .use (.register _) ?_
        rw [World.line_register registers]
      · cases acts
        exact .use (.register _) .refl
  | unregister category name next =>
      have does : act setting entry.check frame (.unregister category name next) w = some
          ((.acting frame (next (w.unregister setting.store category name).1) : Job τ σ),
            (w.unregister setting.store category name).2) := rfl
      rw [does] at acts
      cases acts
      refine .use (.unregister _) ?_
      rw [World.line_unregister]
  | clear next =>
      cases acts
      exact .use .clear .refl
  | runCheck category name under next =>
      simp only [act] at acts
      split at acts
      · rename_i summary ran answer
        cases acts
        obtain rfl : (setting.runCheck category name (under.map frame.scopeOf) w).2 = w' := by
          rw [answer]
        exact .nest category name under next (.ok summary) (by rw [answer]; rintro ⟨⟩)
      · rename_i fault ran answer
        cases acts
        obtain rfl : (setting.runCheck category name (under.map frame.scopeOf) w).2 = w' := by
          rw [answer]
        exact .nest category name under next (.error fault) (by rw [answer]; rintro ⟨⟩)
      · cases acts
  | host next =>
      cases acts
      exact .use (.host _) .refl

/-- A job about to make the scope of its probe makes it, and goes on to the probe. -/
theorem step_entering (setting : World.Setting τ) (r : Runner τ σ) (entry : Entry τ)
    (scope : ScopeId) (id : String) (start limit : τ) (w : World τ) :
    (entering id start limit : Job τ σ).step setting r entry scope w = some
      (.acting { id, start, limit, own := w.line.forest.size } entry.probe,
        { w with line := (w.line.child scope (some limit)).2 }) := by
  have new : (w.line.child scope (some limit)).1 = w.line.forest.size := Forest.fst_child ..
  rw [← new]
  rfl

/-- Every step of a job is one of those that `Move` names. -/
theorem move_of_step (makes : job.step setting r entry scope w = some (job', w')) :
    Move setting r entry scope job w job' w' := by
  cases job with
  | fresh =>
      have line : ((w.issueId r.ids).2.note (.running entry.check.key)).line = w.line :=
        World.line_issueId ..
      simp only [step] at makes
      split at makes
      · rename_i unfit
        cases makes
        exact .unfit unfit line
      · rename_i limit deadline
        rw [line] at makes
        cases makes
        exact .begin _ deadline line
  | entering id start limit =>
      rw [step_entering] at makes
      cases makes
      exact .enter id start limit
  | acting frame probe => exact move_of_act makes
  | waiting frame s limit next =>
      simp only [step] at makes
      split at makes
      · rename_i line answer
        have asked : (w.line.isCancelled s).1 = true := by rw [answer]
        obtain rfl : (w.line.isCancelled s).2 = line := by rw [answer]
        cases makes
        rw [← asked]
        exact .wake s limit next
      · rename_i line answer
        have asked : (w.line.isCancelled s).1 = false := by rw [answer]
        split at makes
        · cases makes
          have wakes : Move setting r entry scope (.waiting frame s limit next) w
              (.acting frame (next (w.line.isCancelled s).1) : Job τ σ)
              { w with line := (w.line.isCancelled s).2 } := .wake s limit next
          rwa [Timeline.isCancelled_of_live asked] at wakes
        · cases makes
  | judged frame error details =>
      simp only [step] at makes
      split at makes
      · rename_i fault unstamped
        cases makes
        exact .unstamped error details unstamped
      · rename_i timestamp stamped
        cases makes
        exact .stamp error details stamped
  | stamped frame timestamp error details =>
      cases makes
      have closes : ∀ check, (if r.timeout.exceededBy
          (Clock.sub (w.line.close frame.own).now frame.start) then
            ({ w with line := w.line.close frame.own } : World τ).note check
          else { w with line := w.line.close frame.own }).line = w.line.close frame.own := by
        intro check
        split <;> rfl
      exact .finish timestamp error details rfl rfl rfl (closes _)
  | ended result => cases makes

/-! ### Jobs end -/

/-- A job has made a step, whatever the entry and the world. -/
def Onward (r : Runner τ σ) (job' job : Job τ σ) : Prop :=
  ∃ (setting : World.Setting τ) (entry : Entry τ) (scope : ScopeId) (w w' : World τ),
    job.step setting r entry scope w = some (job', w')

/-- A job ends if it does so from wherever a step leads. -/
theorem acc_of_move (ends : ∀ {setting entry scope w job' w'},
      Move setting r entry scope job w job' w' → Acc (Onward r) job') : Acc (Onward r) job := by
  constructor
  intro job' onward
  obtain ⟨_, _, _, _, _, makes⟩ := onward
  exact ends (move_of_step makes)

/-- A job that has ended cannot go on. -/
theorem acc_onward_ended (result : Except Fault (Record σ)) :
    Acc (Onward r) (.ended result : Job τ σ) := by
  apply acc_of_move
  intro _ _ _ _ _ _ move
  cases move

/-- A judged job can only stamp its record and end, and that is not for ever. -/
theorem acc_onward_judged (frame : Frame τ) (error : String) (details : Option Value) :
    Acc (Onward r) (.judged frame error details : Job τ σ) := by
  apply acc_of_move
  intro _ _ _ _ _ _ move
  cases move with
  | unstamped => exact acc_onward_ended _
  | stamp =>
      apply acc_of_move
      intro _ _ _ _ _ _ move
      cases move
      exact acc_onward_ended _

/-- By induction on what may come next in its probe, a job that acts ends. -/
theorem acc_onward_acting (probe : Probe τ) (frame : Frame τ) :
    Acc (Onward r) (.acting frame probe : Job τ σ) := by
  induction probe.acc_next generalizing frame with
  | intro probe _ ih =>
      apply acc_of_move
      intro _ _ _ _ _ _ move
      cases move with
      | use next => exact ih _ next frame
      | derive => exact ih _ .derive _
      | nest _ _ _ _ answer => exact ih _ (.runCheck answer) frame
      | wait =>
          apply acc_of_move
          intro _ _ _ _ _ _ move
          cases move
          exact ih _ (.wait _) frame
      | judge => exact acc_onward_judged ..
      | escape => exact acc_onward_ended _

/-- Every job ends, whatever others do between its steps. -/
theorem acc_onward (job : Job τ σ) : Acc (Onward r) job := by
  cases job with
  | fresh =>
      apply acc_of_move
      intro _ _ _ _ _ _ move
      cases move with
      | unfit => exact acc_onward_ended _
      | begin =>
          apply acc_of_move
          intro _ _ _ _ _ _ move
          cases move
          exact acc_onward_acting ..
  | entering id start limit =>
      apply acc_of_move
      intro _ _ _ _ _ _ move
      cases move
      exact acc_onward_acting ..
  | acting frame probe => exact acc_onward_acting probe frame
  | waiting frame s limit next =>
      apply acc_of_move
      intro _ _ _ _ _ _ move
      cases move
      exact acc_onward_acting ..
  | judged frame error details => exact acc_onward_judged ..
  | stamped frame timestamp error details =>
      apply acc_of_move
      intro _ _ _ _ _ _ move
      cases move
      exact acc_onward_ended _
  | ended result => exact acc_onward_ended result

/-! ### Jobs go on -/

/-- The probe of a job runs a check that does not come back. -/
def IsStuck (setting : World.Setting τ) (w : World τ) : Job τ σ → Prop
  | .acting frame (.runCheck category name under _) =>
    (setting.runCheck category name (under.map frame.scopeOf) w).1 = .stalled
  | _ => False

omit [Clock τ] in
/-- An outcome, unless the probe does not come back, can be judged. -/
theorem exists_judge {outcome : Outcome Value} (ends : outcome ≠ .stalled) (check : Check)
    (frame : Frame τ) (w : World τ) :
    ∃ (job' : Job τ σ) (w' : World τ), judge check frame outcome w = some (job', w') := by
  cases verdict : Runner.Verdict.ofOutcome outcome with
  | details value => exact ⟨_, _, by simp only [judge, verdict]; rfl⟩
  | failure fault => exact ⟨_, _, by simp only [judge, verdict]; rfl⟩
  | escape fault => exact ⟨_, _, by simp only [judge, verdict]; rfl⟩
  | stalled => exact absurd (Runner.Verdict.eq_stalled_iff.mp verdict) ends

/-- A job that acts goes on, unless its probe runs a check that does not come back. -/
theorem exists_act (check : Check) (probe : Probe τ) (frame : Frame τ)
    (moves : ¬ (acting frame probe : Job τ σ).IsStuck setting w) :
    ∃ (job' : Job τ σ) (w' : World τ), act setting check frame probe w = some (job', w') := by
  cases probe with
  | done value => exact exists_judge (by rintro ⟨⟩) check frame w
  | fail fault => exact exists_judge (by rintro ⟨⟩) check frame w
  | register check probe next =>
      cases answer : w.register setting.store ⟨check, probe, setting.service⟩ with
      | ok w' => exact ⟨_, _, by simp only [act, answer]; rfl⟩
      | error fault => exact ⟨_, _, by simp only [act, answer]; rfl⟩
  | runCheck category name under next =>
      cases answer : setting.runCheck category name (under.map frame.scopeOf) w with
      | mk outcome w' =>
          cases outcome with
          | returned summary => exact ⟨_, _, by simp only [act, answer]; rfl⟩
          | raised fault => exact ⟨_, _, by simp only [act, answer]; rfl⟩
          | stalled => exact absurd (congrArg Prod.fst answer) moves
  | _ => exact ⟨_, _, rfl⟩

/-- What keeps a job from going on: it has ended, its probe waits, or that runs a check that does
not come back. -/
theorem exists_step (setting : World.Setting τ) (r : Runner τ σ) (entry : Entry τ)
    (scope : ScopeId) (job : Job τ σ) (w : World τ) :
    (∃ result, job = .ended result) ∨
      (∃ job' w', job.step setting r entry scope w = some (job', w')) ∨
      (∃ frame s limit next, job = .waiting frame s limit next) ∨ job.IsStuck setting w := by
  cases job with
  | fresh =>
      refine .inr (.inl ?_)
      cases deadline : r.timeout.seconds? with
      | ok limit => exact ⟨_, _, by simp only [step, deadline]; rfl⟩
      | error fault => exact ⟨_, _, by simp only [step, deadline]; rfl⟩
  | acting frame probe =>
      by_cases stuck : (acting frame probe : Job τ σ).IsStuck setting w
      · exact .inr (.inr (.inr stuck))
      · exact .inr (.inl (exists_act entry.check probe frame stuck))
  | waiting frame s limit next => exact .inr (.inr (.inl ⟨frame, s, limit, next, rfl⟩))
  | judged frame error details =>
      refine .inr (.inl ?_)
      cases stamped : r.stamp w.line.now with
      | ok timestamp => exact ⟨_, _, by simp only [step, stamped]; rfl⟩
      | error fault => exact ⟨_, _, by simp only [step, stamped]; rfl⟩
  | entering | stamped => exact .inr (.inl ⟨_, _, rfl⟩)
  | ended result => exact .inl ⟨result, rfl⟩

/-- A probe that waits for a scope goes on once that is found to be cancelled. -/
theorem exists_step_of_asked {s : ScopeId} {limit : Option τ} {next : Bool → Probe τ}
    (asked : (w.line.isCancelled s).1 = true) : ∃ w', (waiting frame s limit next : Job τ σ).step
      setting r entry scope w = some (.acting frame (next true), w') := by
  obtain ⟨line, answer⟩ : ∃ line, w.line.isCancelled s = (true, line) := ⟨_, Prod.ext asked rfl⟩
  exact ⟨{ w with line }, by simp only [step, answer]⟩

/-! ### Where jobs are -/

section Places

variable [Clock.Ordered τ] {R P : Timeline τ → ScopeId → Prop}

/-- What holds of the scope of a run, `R`, is handed down as `P` to the scopes that are made below
it, and both stay. -/
structure HandsDown (r : Runner τ σ) (R P : Timeline τ → ScopeId → Prop) : Prop where
  made {t : Timeline τ} {s : ScopeId} : P t s → s < t.forest.size
  root_made {t : Timeline τ} {s : ScopeId} : R t s → s < t.forest.size
  stays {t t' : Timeline τ} {s : ScopeId} : t.Follows t' → P t s → P t' s
  root_stays {t t' : Timeline τ} {s : ScopeId} : t.Follows t' → R t s → R t' s
  enters {t : Timeline τ} {s : ScopeId} {limit : τ} : r.timeout.seconds? = .ok limit →
    t.forest.Settled → IsTime t.now → R t s → P (t.child s (some limit)).2 t.forest.size
  derives {t : Timeline τ} {s : ScopeId} (timeout : Option τ) : t.forest.Settled → IsTime t.now →
    P t s → P (t.child s timeout).2 t.forest.size

/-- What is handed down holds of every scope that the probe of a job can name. -/
def Placed (r : Runner τ σ) (P : Timeline τ → ScopeId → Prop) (t : Timeline τ) : Job τ σ → Prop
  | .entering _ _ limit => r.timeout.seconds? = .ok limit
  | .acting frame _ => ∀ h, P t (frame.scopeOf h)
  | .waiting frame s .. => (∀ h, P t (frame.scopeOf h)) ∧ P t s
  | .fresh | .judged .. | .stamped .. | .ended _ => True

theorem HandsDown.placed (down : HandsDown r R P) {t t' : Timeline τ} (follows : t.Follows t')
    (placed : job.Placed r P t) : job.Placed r P t' := by
  cases job with
  | acting frame probe => exact fun h => down.stays follows (placed h)
  | waiting frame s limit next =>
      exact ⟨fun h => down.stays follows (placed.1 h), down.stays follows placed.2⟩
  | entering => exact placed
  | fresh | judged | stamped | ended => trivial

/-- A check that is run from inside a probe leaves the scopes that there are as any action does. -/
def NestsOn (setting : World.Setting τ) : Prop :=
  ∀ category name s w, w.line.forest.Settled → IsTime w.line.now →
    (∀ i, s = some i → i < w.line.forest.size) →
    (setting.runCheck category name s w).1 ≠ .stalled →
    w.line.Follows (setting.runCheck category name s w).2.line

/-- A step of a job leaves the scopes that there are as any action does, and the job is placed. -/
theorem step_placed (down : HandsDown r R P) (nests : NestsOn setting)
    (settled : w.line.forest.Settled) (isTime : IsTime w.line.now) (root : R w.line scope)
    (placed : job.Placed r P w.line)
    (makes : job.step setting r entry scope w = some (job', w')) :
    w.line.Follows w'.line ∧ job'.Placed r P w'.line := by
  have still {v : World τ} (line : v.line = w.line) : w.line.Follows v.line := by
    rw [line]
    exact .refl settled isTime
  cases move_of_step makes with
  | begin id deadline line => exact ⟨still line, deadline⟩
  | unfit _ line => exact ⟨still line, trivial⟩
  | enter id start limit =>
      refine ⟨.child settled isTime (down.root_made root) _, fun h => ?_⟩
      rw [Frame.scopeOf, World.scopeOf_nil]
      exact down.enters placed settled isTime root
  | @use _ _ frame _ next _ touches =>
      have follows := Timeline.follows_of_touches touches settled isTime
      exact ⟨follows, fun h => down.stays follows (placed h)⟩
  | derive h timeout next =>
      have follows := Follows.child settled isTime (down.made (placed h)) timeout
      refine ⟨follows, fun h' => ?_⟩
      simp only [Frame.scopeOf, World.scopeOf_concat]
      split
      · exact down.derives timeout settled isTime (placed h)
      · exact down.stays follows (placed h')
  | nest category name under next answer ends =>
      have follows := nests category name _ w settled isTime (fun i there => by
        obtain ⟨h, -, rfl⟩ := Option.map_eq_some_iff.mp there
        exact down.made (placed h)) ends
      exact ⟨follows, fun h => down.stays follows (placed h)⟩
  | wait h timeout next => exact ⟨.refl settled isTime, placed, placed h⟩
  | wake s limit next =>
      have follows := Follows.isCancelled settled isTime s
      exact ⟨follows, fun h => down.stays follows (placed.1 h)⟩
  | judge _ _ line => exact ⟨still line, trivial⟩
  | stamp => exact ⟨.refl settled isTime, trivial⟩
  | escape | unstamped => exact ⟨.close settled isTime _, trivial⟩
  | finish _ _ _ _ _ _ line =>
      rw [line]
      exact ⟨.close settled isTime _, trivial⟩

/-- So does a job while no other job does anything. -/
theorem goesAlone_placed (down : HandsDown r R P) (nests : NestsOn setting)
    (settled : w.line.forest.Settled) (isTime : IsTime w.line.now) (root : R w.line scope)
    (placed : job.Placed r P w.line) (goes : GoesAlone setting r entry scope job w job' w') :
    w.line.Follows w'.line := by
  induction goes with
  | refl => exact .refl settled isTime
  | step makes _ ih =>
      obtain ⟨follows, placed⟩ := step_placed down nests settled isTime root placed makes
      exact follows.trans
        (ih follows.settled follows.isTime (down.root_stays follows root) placed)
  | elapse passes _ ih =>
      have follows := Timeline.follows_of_touches
        (Timeline.touches_of_elapses (n := 0) passes) settled isTime
      exact follows.trans (ih follows.settled follows.isTime (down.root_stays follows root)
        (down.placed follows placed))

/-! ### Checks that run each other -/

/-- That a scope was made is handed down. -/
theorem handsDown_made (r : Runner τ σ) :
    HandsDown r (fun t s => s < t.forest.size) (fun t s => s < t.forest.size) where
  made := id
  root_made := id
  stays follows made := Nat.lt_of_lt_of_le made follows.size_le
  root_stays follows made := Nat.lt_of_lt_of_le made follows.size_le
  enters _ _ _ _ := Nat.lt_of_lt_of_eq (Nat.lt_succ_self _) (Forest.size_child ..).symm
  derives _ _ _ _ := Nat.lt_of_lt_of_eq (Nat.lt_succ_self _) (Forest.size_child ..).symm

theorem nestsOn_nested
    {run : Runner τ σ → Entry τ → ScopeId → World τ → Outcome (Record σ) × World τ}
    (follows : ∀ r entry s w, w.line.forest.Settled → IsTime w.line.now → s < w.line.forest.size →
      (run r entry s w).1 ≠ .stalled → w.line.Follows (run r entry s w).2.line)
    (number store : Nat) (service : Option (Service τ σ)) :
    NestsOn { service := number, store := store, runCheck := Runner.nested run service } := by
  intro category name s w settled isTime made ends
  cases service with
  | none => exact .refl settled isTime
  | some service =>
      dsimp only [Runner.nested] at ends ⊢
      cases found : (w.store service.store).get? category name with
      | none => exact .refl settled isTime
      | some entry =>
          rw [found] at ends
          have comes {s : ScopeId} {w : World τ}
              (ends : ((run service.runner entry s w).1.map fun record => some record.summary) ≠
                .stalled) : (run service.runner entry s w).1 ≠ .stalled := by
            intro stalled
            rw [stalled] at ends
            exact ends rfl
          cases s with
          | some s => exact follows _ entry s w settled isTime (made s rfl) (comes ends)
          | none =>
              have opens := Follows.background settled isTime
              have new : w.line.background.1 < w.line.background.2.forest.size := by
                show w.line.forest.size < (w.line.forest.push {}).size
                rw [Forest.size_push]
                exact Nat.lt_succ_self _
              exact opens.trans (follows _ entry _ { w with line := w.line.background.2 }
                opens.settled opens.isTime new (comes ends))

/-- However deep checks run each other, they leave the scopes that there are as any action does. -/
theorem follows_execute (services : Array (Service τ σ)) (depth : Nat) (r : Runner τ σ)
    (entry : Entry τ) (s : ScopeId) (w : World τ) (settled : w.line.forest.Settled)
    (isTime : IsTime w.line.now) (made : s < w.line.forest.size)
    (ends : (Runner.execute services depth r entry s w).1 ≠ .stalled) :
    w.line.Follows (Runner.execute services depth r entry s w).2.line := by
  induction depth generalizing r entry s w with
  | zero => exact .refl settled isTime
  | succ depth ih =>
      obtain ⟨result, -, goes⟩ := executeIn_goesAlone _ r entry s w ends
      have placed : (fresh : Job τ σ).Placed r (fun t s => s < t.forest.size) w.line := trivial
      exact goesAlone_placed (handsDown_made r) (nestsOn_nested ih _ _ _) settled isTime made placed
        goes

theorem nestsOn_settingOf (services : Array (Service τ σ)) (entry : Entry τ) :
    NestsOn (Runner.settingOf services entry) :=
  nestsOn_nested (follows_execute services _) _ _ _

end Places

end Job

end Checkup
