import Checkup.Proofs.Registry.Buckets
import Checkup.Proofs.Runner.Crew
import Checkup.Proofs.Scope.Spared
import Mathlib

/-!
What runs leave of scopes.

A run makes a scope below the caller's, and jobs make theirs below that one. A confined probe acts
on these alone, so every step of a run touches only scopes that the run has made, whatever other
jobs do in between; and the run closes its scope on every way out.

Main statements: `Job.step_goes` (a step of a confined job), `Job.executeIn_releases` (the execution
of one entry), `Crew.step_tends` (a step of a batch) and `runs_release`.
-/

namespace Checkup

open Clock (IsTime)
open Timeline (Touch Touches)

variable {τ σ : Type} {nests : Prop} {n : ScopeId}

/-- A probe that touches no scope but its own and those derived from it. Where checks may run each
other, it runs them under these, and what it registers is confined as well. -/
inductive Probe.IsConfined (nests : Prop) : Probe τ → Prop
  | done (value : Value) : IsConfined nests (.done value)
  | fail (fault : Fault) : IsConfined nests (.fail fault)
  | isCancelled {h : Handle} {next : Bool → Probe τ} :
      (∀ cancelled, IsConfined nests (next cancelled)) → IsConfined nests (.isCancelled h next)
  | error {h : Handle} {next : Option Fault → Probe τ} :
      (∀ cause, IsConfined nests (next cause)) → IsConfined nests (.error h next)
  | remaining {h : Handle} {next : Option τ → Probe τ} :
      (∀ left, IsConfined nests (next left)) → IsConfined nests (.remaining h next)
  | wait {h : Handle} {timeout : Option τ} {next : Bool → Probe τ} :
      (∀ cancelled, IsConfined nests (next cancelled)) → IsConfined nests (.wait h timeout next)
  | derive {h : Handle} {timeout : Option τ} {next : Probe τ} :
      IsConfined nests next → IsConfined nests (.derive h timeout next)
  | close {h : Handle} {next : Probe τ} :
      IsConfined nests next → IsConfined nests (.close h next)
  | cancel {h : Handle} {cause : Fault} {next : Probe τ} :
      IsConfined nests next → IsConfined nests (.cancel h cause next)
  | knows {scope : String} {next : Bool → Probe τ} :
      (∀ known, IsConfined nests (next known)) → IsConfined nests (.knows scope next)
  | clock {next : τ → Probe τ} :
      (∀ now, IsConfined nests (next now)) → IsConfined nests (.clock next)
  | pass {span : τ} {next : Probe τ} :
      IsConfined nests next → IsConfined nests (.pass span next)
  | total {next : Nat → Probe τ} :
      (∀ total, IsConfined nests (next total)) → IsConfined nests (.total next)
  | register {check : Check} {probe : Probe τ} {next : Option Fault → Probe τ} :
      (nests → IsConfined nests probe) → (∀ fault, IsConfined nests (next fault)) →
      IsConfined nests (.register check probe next)
  | unregister {category name : String} {next : Bool → Probe τ} :
      (∀ removed, IsConfined nests (next removed)) →
      IsConfined nests (.unregister category name next)
  | clear {next : Probe τ} : IsConfined nests next → IsConfined nests (.clear next)
  | runCheck {category name : String} {h : Handle}
      {next : Except Fault (Option String) → Probe τ} :
      nests → (∀ answer, IsConfined nests (next answer)) →
      IsConfined nests (.runCheck category name (some h) next)
  | host {next : Host → Probe τ} :
      (∀ host, IsConfined nests (next host)) → IsConfined nests (.host next)

/-! ### Registered checks -/

namespace World

variable {w w' : World τ}

/-- Where checks may run each other, every registered one is confined. -/
def Confined (nests : Prop) (w : World τ) : Prop :=
  nests → ∀ store, ∀ entry ∈ (w.store store).all, entry.probe.IsConfined nests

theorem Confined.of_stores_eq (confined : w.Confined nests) (same : w'.stores = w.stores) :
    w'.Confined nests := by
  intro nested store entry mem
  rw [World.store, same] at mem
  exact confined nested store entry mem

theorem Confined.setStore (confined : w.Confined nests) (store : Nat) {r : Registry (Entry τ)}
    (all : nests → ∀ entry ∈ r.all, entry.probe.IsConfined nests) :
    (w.setStore store r).Confined nests := by
  intro nested other entry mem
  by_cases same : other = store
  · subst same
    rw [store_setStore] at mem
    split at mem
    · exact all nested entry mem
    · cases mem
  · rw [store_setStore_of_ne same] at mem
    exact confined nested other entry mem

/-- To register a confined check keeps the registered ones confined. -/
theorem Confined.register (confined : w.Confined nests) {store : Nat} {entry : Entry τ}
    (new : nests → entry.probe.IsConfined nests) (registers : w.register store entry = .ok w') :
    w'.Confined nests := by
  obtain ⟨r, added, rfl⟩ := exists_of_register registers
  have kept : (w.setStore store r).Confined nests := by
    refine confined.setStore store fun nested other mem => ?_
    rcases Registry.mem_all_of_register added mem with rfl | old
    · exact new nested
    · exact confined nested store other old
  exact kept

theorem Confined.unregister (confined : w.Confined nests) (store : Nat) (category name : String) :
    (w.unregister store category name).2.Confined nests := by
  unfold World.unregister
  split
  · rename_i r removes
    have kept : (w.setStore store r).Confined nests := by
      refine confined.setStore store fun nested other mem => ?_
      have left : ((w.store store).unregister category name).2 = r := congrArg Prod.snd removes
      exact confined nested store other (Registry.mem_all_of_unregister (left ▸ mem))
    exact kept
  · exact confined

end World

theorem Timeline.touches_of_elapses [Clock τ] {t t' : Timeline τ} (passes : t.Elapses t') :
    Touches n t t' := by
  induction passes with
  | refl => exact .refl
  | later now _ ih => exact .head (.later now) ih
  | fire found _ ih => exact .head (.fire (perm_takeDue? found)) ih

/-! ### Jobs -/

variable [Clock τ]

/-- Every handle of a probe stands for a scope from `n` on. -/
def Frame.Fits (n : ScopeId) (t : Timeline τ) (frame : Frame τ) : Prop :=
  ∀ h, n ≤ frame.scopeOf h ∧ frame.scopeOf h < t.forest.size

namespace Job

/-- A job that acts on scopes from `n` on. -/
def Fits (nests : Prop) (n scope : ScopeId) (t : Timeline τ) : Job τ σ → Prop
  | .fresh | .entering .. => n ≤ scope ∧ scope < t.forest.size
  | .acting frame probe => frame.Fits n t ∧ probe.IsConfined nests
  | .waiting frame s _ next =>
    frame.Fits n t ∧ n ≤ s ∧ ∀ cancelled, (next cancelled).IsConfined nests
  | .judged frame .. | .stamped frame .. => frame.Fits n t
  | .ended _ => True

variable {setting : World.Setting τ} {r : Runner τ σ} {entry : Entry τ} {scope own : ScopeId}
  {job job' : Job τ σ} {w w' : World τ} {frame : Frame τ} {t t' : Timeline τ}

omit [Clock τ] in
theorem Fits.of_size_le (fits : job.Fits nests n scope t)
    (grows : t.forest.size ≤ t'.forest.size) : job.Fits nests n scope t' := by
  have stays {frame : Frame τ} (fits : frame.Fits n t) : frame.Fits n t' :=
    fun h => ⟨(fits h).1, Nat.lt_of_lt_of_le (fits h).2 grows⟩
  cases job with
  | fresh => exact ⟨fits.1, Nat.lt_of_lt_of_le fits.2 grows⟩
  | entering => exact ⟨fits.1, Nat.lt_of_lt_of_le fits.2 grows⟩
  | acting frame probe => exact ⟨stays fits.1, fits.2⟩
  | waiting frame s limit next => exact ⟨stays fits.1, fits.2⟩
  | judged | stamped => exact stays fits
  | ended => trivial

/-- What becomes of a job that acts on scopes from `n` on: it has touched no others, it still acts
on no others, and what is registered is still confined. -/
structure Goes (nests : Prop) (n scope : ScopeId) (w : World τ) (job' : Job τ σ) (w' : World τ) :
    Prop where
  touches : Touches n w.line w'.line
  confined : w'.Confined nests
  fits : job'.Fits nests n scope w'.line

/-- The checks that are run from inside a probe touch only scopes from `n` on. -/
def NestsFrom (nests : Prop) (n : ScopeId) (setting : World.Setting τ) : Prop :=
  nests → ∀ category name s w, w.Confined nests → n ≤ s → s < w.line.forest.size →
    (setting.runCheck category name (some s) w).1 ≠ .stalled →
      Touches n w.line (setting.runCheck category name (some s) w).2.line ∧
        (setting.runCheck category name (some s) w).2.Confined nests

/-- A step that leaves time and scopes as they are. -/
theorem Goes.of_line (line : w'.line = w.line) (confined : w'.Confined nests)
    (fits : job'.Fits nests n scope w.line) : Goes nests n scope w job' w' where
  touches := by rw [line]
  confined := confined
  fits := by rwa [line]

/-- A step that touches a scope, and changes nothing else of the world. -/
theorem Goes.of_touch (touch : Touch n w.line t) (confined : w.Confined nests)
    (fits : job'.Fits nests n scope w.line) :
    Goes nests n scope w job' { w with line := t } where
  touches := .single touch
  confined := confined
  fits := fits.of_size_le touch.size_le

/-- A probe that ends leaves scopes as they are, or has its scope closed. -/
theorem judge_goes {check : Check} {outcome : Outcome Value} (confined : w.Confined nests)
    (fits : frame.Fits n w.line)
    (makes : (judge check frame outcome w : Option (Job τ σ × World τ)) = some (job', w')) :
    Goes nests n scope w job' w' := by
  unfold judge at makes
  split at makes
  · cases makes
    exact .of_line rfl confined fits
  · cases makes
    exact .of_line rfl confined fits
  · cases makes
    exact .of_touch (.close (fits 0).1) confined trivial
  · cases makes

/-- What a confined probe does next. -/
theorem act_goes (nested : NestsFrom nests n setting) {probe : Probe τ}
    (acts : probe.IsConfined nests) (confined : w.Confined nests) (fits : frame.Fits n w.line)
    (makes : (act setting entry.check frame probe w : Option (Job τ σ × World τ)) =
      some (job', w')) : Goes nests n scope w job' w' := by
  cases acts with
  | done value => exact judge_goes confined fits makes
  | fail fault => exact judge_goes confined fits makes
  | isCancelled next =>
      cases makes
      exact .of_touch (.isCancelled (fits _).1) confined ⟨fits, next _⟩
  | @error h next goesOn =>
      have touch : Touch n w.line (w.line.error (frame.scopeOf h)).2 := by
        rw [Timeline.error_snd]
        exact .isCancelled (fits h).1
      have does : act setting entry.check frame (.error h next) w = some
          ((.acting frame (next (w.line.error (frame.scopeOf h)).1) : Job τ σ),
            { w with line := (w.line.error (frame.scopeOf h)).2 }) := rfl
      rw [does] at makes
      cases makes
      exact .of_touch touch confined ⟨fits, goesOn _⟩
  | remaining next =>
      cases makes
      exact .of_line rfl confined ⟨fits, next _⟩
  | wait next =>
      cases makes
      exact .of_line rfl confined ⟨fits, (fits _).1, next⟩
  | @derive h timeout next goesOn =>
      have touch : Touch n w.line (w.line.child (frame.scopeOf h) timeout).2 :=
        .child timeout (fits h).1 (fits h).2
      have new : (w.line.child (frame.scopeOf h) timeout).1 = w.line.forest.size :=
        Forest.fst_child ..
      have size : (w.line.child (frame.scopeOf h) timeout).2.forest.size =
          w.line.forest.size + 1 := Forest.size_child ..
      have does : act setting entry.check frame (.derive h timeout next) w = some
          ((.acting { frame with derived := frame.derived ++ [w.line.forest.size] } next : Job τ σ),
            { w with line := (w.line.child (frame.scopeOf h) timeout).2 }) := by
        rw [← new]
        rfl
      rw [does] at makes
      cases makes
      refine ⟨.single touch, confined, fun h' => ?_, goesOn⟩
      rw [size, Frame.scopeOf, World.scopeOf_concat]
      split
      · exact ⟨Nat.le_of_lt (Nat.lt_of_le_of_lt (fits 0).1 (fits 0).2), Nat.lt_succ_self _⟩
      · exact ⟨(fits h').1, Nat.lt_succ_of_lt (fits h').2⟩
  | close next =>
      cases makes
      exact .of_touch (.close (fits _).1) confined ⟨fits, next⟩
  | cancel next =>
      cases makes
      exact .of_touch (.cancel _ (fits _).1) confined ⟨fits, next⟩
  | knows next | clock next | total next | host next =>
      cases makes
      exact .of_line rfl confined ⟨fits, next _⟩
  | pass next =>
      cases makes
      exact .of_line rfl confined ⟨fits, next⟩
  | @register check probe next inner goesOn =>
      rw [act] at makes
      split at makes
      · rename_i registers
        cases makes
        exact .of_line (World.line_register registers) (confined.register inner registers)
          ⟨fits, goesOn _⟩
      · cases makes
        exact .of_line rfl confined ⟨fits, goesOn _⟩
  | @unregister category name next goesOn =>
      have does : act setting entry.check frame (.unregister category name next) w = some
          ((.acting frame (next (w.unregister setting.store category name).1) : Job τ σ),
            (w.unregister setting.store category name).2) := rfl
      rw [does] at makes
      cases makes
      exact .of_line (World.line_unregister _ _ _ w) (confined.unregister _ _ _)
        ⟨fits, goesOn _⟩
  | clear next =>
      cases makes
      refine .of_line rfl (confined.setStore _ fun _ _ mem => ?_) ⟨fits, next⟩
      cases mem
  | @runCheck category name h next may goesOn =>
      have runs := nested may category name (frame.scopeOf h) w confined (fits h).1 (fits h).2
      -- Whether the check returns or raises, the probe goes on with what it is told.
      have told {ran : World τ} (answer : Except Fault (Option String))
          (left : Touches n w.line ran.line ∧ ran.Confined nests) :
          Goes nests n scope w (.acting frame (next answer) : Job τ σ) ran :=
        ⟨left.1, left.2, fun h => ⟨(fits h).1, Nat.lt_of_lt_of_le (fits h).2
          (Timeline.size_le_of_touches left.1)⟩, goesOn answer⟩
      simp only [act, Option.map_some] at makes
      split at makes
      · rename_i answer
        cases makes
        rw [answer] at runs
        exact told _ (runs (by simp))
      · rename_i answer
        cases makes
        rw [answer] at runs
        exact told _ (runs (by simp))
      · cases makes

/-- A step of a confined job touches only scopes from `n` on. -/
theorem step_goes (nested : NestsFrom nests n setting) (acts : entry.probe.IsConfined nests)
    (confined : w.Confined nests) (fits : job.Fits nests n scope w.line)
    (makes : job.step setting r entry scope w = some (job', w')) :
    Goes nests n scope w job' w' := by
  cases job with
  | fresh =>
      have line : ((w.issueId r.ids).2.note (.running entry.check.key)).line = w.line :=
        World.line_issueId ..
      have confined : ((w.issueId r.ids).2.note (.running entry.check.key)).Confined nests :=
        confined.of_stores_eq (World.stores_issueId ..)
      simp only [step] at makes
      split at makes
      · cases makes
        exact .of_line line confined trivial
      · cases makes
        exact .of_line line confined fits
  | entering id start limit =>
      have touch : Touch n w.line (w.line.child scope (some limit)).2 := .child _ fits.1 fits.2
      have new : (w.line.child scope (some limit)).1 = w.line.forest.size := Forest.fst_child ..
      have size : (w.line.child scope (some limit)).2.forest.size = w.line.forest.size + 1 :=
        Forest.size_child ..
      have does : (entering id start limit : Job τ σ).step setting r entry scope w = some
          (.acting { id, start, limit, own := w.line.forest.size } entry.probe,
            { w with line := (w.line.child scope (some limit)).2 }) := by
        rw [← new]
        rfl
      rw [does] at makes
      cases makes
      refine ⟨.single touch, confined, fun h => ?_, acts⟩
      rw [size, Frame.scopeOf, World.scopeOf_nil]
      exact ⟨Nat.le_of_lt (Nat.lt_of_le_of_lt fits.1 fits.2), Nat.lt_succ_self _⟩
  | acting frame probe => exact act_goes nested fits.2 confined fits.1 makes
  | waiting frame s limit next =>
      obtain ⟨fits, younger, goesOn⟩ := fits
      simp only [step] at makes
      split at makes
      · rename_i t answer
        have touch : Touch n w.line t := by
          have asked : Touch n w.line (w.line.isCancelled s).2 := .isCancelled younger
          rwa [answer] at asked
        cases makes
        exact .of_touch touch confined ⟨fits, goesOn _⟩
      · split at makes
        · cases makes
          exact .of_line rfl confined ⟨fits, goesOn _⟩
        · cases makes
  | judged frame error details =>
      simp only [step] at makes
      split at makes
      · cases makes
        exact .of_touch (.close (fits 0).1) confined trivial
      · cases makes
        exact .of_line rfl confined fits
  | stamped frame timestamp error details =>
      have closes : Touches n w.line (w.line.close frame.own) := .single (.close (fits 0).1)
      cases makes
      refine ⟨?_, ?_, trivial⟩
      · split <;> exact closes
      · split <;> exact confined
  | ended result => cases makes

/-! ### Jobs close their scopes -/

/-- The scope of the probe of a job, while the job holds it open. -/
def own? : Job τ σ → Option ScopeId
  | .acting frame _ | .waiting frame .. | .judged frame .. | .stamped frame .. => some frame.own
  | _ => none

def KeepsOrCloses (own : ScopeId) (w : World τ) (job' : Job τ σ) (w' : World τ) : Prop :=
  job'.own? = some own ∨ job'.own? = none ∧ w'.line = w.line.close own

omit [Clock τ] in
theorem judge_own {check : Check} {outcome : Outcome Value}
    (makes : (judge check frame outcome w : Option (Job τ σ × World τ)) = some (job', w')) :
    KeepsOrCloses frame.own w job' w' := by
  unfold judge at makes
  split at makes
  · cases makes
    exact .inl rfl
  · cases makes
    exact .inl rfl
  · cases makes
    exact .inr ⟨rfl, rfl⟩
  · cases makes

theorem act_own {probe : Probe τ}
    (makes : (act setting entry.check frame probe w : Option (Job τ σ × World τ)) =
      some (job', w')) : KeepsOrCloses frame.own w job' w' := by
  cases probe with
  | done value => exact judge_own makes
  | fail fault => exact judge_own makes
  | register check probe next =>
      rw [act] at makes
      split at makes
      · cases makes
        exact .inl rfl
      · cases makes
        exact .inl rfl
  | runCheck category name h next =>
      rw [act] at makes
      split at makes
      · cases makes
        exact .inl rfl
      · cases makes
        exact .inl rfl
      · cases makes
  | _ =>
      obtain ⟨rfl, -⟩ := Prod.mk.inj (Option.some.inj makes)
      exact .inl rfl

/-- Every step of a job keeps the scope of its probe open, or closes it. -/
theorem step_own (holds : job.own? = some own)
    (makes : job.step setting r entry scope w = some (job', w')) :
    KeepsOrCloses own w job' w' := by
  cases job with
  | fresh | entering | ended => cases holds
  | acting frame probe =>
      cases holds
      exact act_own makes
  | waiting frame s limit next =>
      cases holds
      simp only [step] at makes
      split at makes
      · cases makes
        exact .inl rfl
      · split at makes
        · cases makes
          exact .inl rfl
        · cases makes
  | judged frame error details =>
      cases holds
      simp only [step] at makes
      split at makes
      · cases makes
        exact .inr ⟨rfl, rfl⟩
      · cases makes
        exact .inl rfl
  | stamped frame timestamp error details =>
      cases holds
      cases makes
      refine .inr ⟨rfl, ?_⟩
      split <;> rfl

/-! ### Jobs alone -/

variable {w'' : World τ}

theorem Goes.trans {job'' : Job τ σ} (first : Goes nests n scope w job' w')
    (second : Goes nests n scope w' job'' w'') : Goes nests n scope w job'' w'' :=
  { second with touches := first.touches.trans second.touches }

/-- What becomes of a confined job while no other job does anything. -/
theorem goesAlone_goes (nested : NestsFrom nests n setting)
    (acts : entry.probe.IsConfined nests) (confined : w.Confined nests)
    (fits : job.Fits nests n scope w.line)
    (goes : GoesAlone setting r entry scope job w job' w') : Goes nests n scope w job' w' := by
  induction goes with
  | refl => exact ⟨.refl, confined, fits⟩
  | step makes _ ih =>
      have goes := step_goes nested acts confined fits makes
      exact goes.trans (ih goes.confined goes.fits)
  | @elapse job job' w w' t passes _ ih =>
      have touches := Timeline.touches_of_elapses (n := n) passes
      have rest := ih confined (fits.of_size_le (Timeline.size_le_of_touches touches))
      exact { rest with touches := touches.trans rest.touches }

/-! ### Checks that run each other -/

/-- Running entries touches only scopes from `n` on, if they are confined and are run there. -/
def RunsFrom (nests : Prop) (n : ScopeId)
    (run : Runner τ σ → Entry τ → ScopeId → World τ → Outcome (Record σ) × World τ) : Prop :=
  nests → ∀ r entry s w, entry.probe.IsConfined nests → w.Confined nests → n ≤ s →
    s < w.line.forest.size → (run r entry s w).1 ≠ .stalled →
      Touches n w.line (run r entry s w).2.line ∧ (run r entry s w).2.Confined nests

theorem nestsFrom_nested
    {run : Runner τ σ → Entry τ → ScopeId → World τ → Outcome (Record σ) × World τ}
    (runs : RunsFrom nests n run) (number store : Nat) (service : Option (Service τ σ)) :
    NestsFrom nests n
      { service := number, store := store, runCheck := Runner.nested run service } := by
  intro may category name s w confined younger made ends
  cases service with
  | none => exact ⟨.refl, confined⟩
  | some service =>
      dsimp only [Runner.nested] at ends ⊢
      cases found : (w.store service.store).get? category name with
      | none => exact ⟨.refl, confined⟩
      | some entry =>
          rw [found] at ends
          have acts := confined may service.store entry (Registry.mem_all_of_get? found)
          refine runs may service.runner entry s w acts confined younger made fun stalled => ?_
          simp only [stalled, Outcome.map] at ends
          exact ends rfl

/-- However deep checks run each other, they touch only scopes from `n` on. -/
theorem runsFrom_execute (services : Array (Service τ σ)) (depth : Nat) :
    RunsFrom nests n (Runner.execute services depth) := by
  induction depth with
  | zero => exact fun _ _ _ _ _ _ confined _ _ _ => ⟨.refl, confined⟩
  | succ depth ih =>
      intro may r entry s w acts confined younger made ends
      obtain ⟨result, -, goes⟩ := executeIn_goesAlone _ r entry s w ends
      have fits : (fresh : Job τ σ).Fits nests n s w.line := ⟨younger, made⟩
      have gone := goesAlone_goes (nestsFrom_nested ih _ _ _) acts confined fits goes
      exact ⟨gone.touches, gone.confined⟩

theorem nestsFrom_settingOf (services : Array (Service τ σ)) (entry : Entry τ) :
    NestsFrom nests n (Runner.settingOf services entry) :=
  nestsFrom_nested (runsFrom_execute services _) _ _ _

/-! ### One entry -/

variable [Clock.Ordered τ] {c : ScopeId} {start : Timeline τ} {services : Array (Service τ σ)}

/-- A job that holds scope `n` open closes it before it ends. -/
theorem goesAlone_closes (nested : NestsFrom nests n setting)
    (acts : entry.probe.IsConfined nests) (rooted : start.forest.Rooted n)
    (isTime : IsTime start.now) (hangs : start.forest.parent? n = some c)
    (touches : Touches n start w.line) (confined : w.Confined nests)
    (fits : job.Fits nests n scope w.line) (held : job.own? = some n ∨ w.line.Closed c n)
    (goes : GoesAlone setting r entry scope job w job' w') :
    job'.own? = some n ∨ w'.line.Closed c n := by
  have older : c < n := rooted.settled.parent_lt hangs
  induction goes with
  | refl => exact held
  | @step job job' job'' w w' w'' makes _ ih =>
      have gone := step_goes nested acts confined fits makes
      have here := (Timeline.spares_of_touches rooted isTime touches)
      refine ih (touches.trans gone.touches) gone.confined gone.fits ?_
      rcases held with holds | closed
      · rcases step_own holds makes with still | ⟨-, closes⟩
        · exact .inl still
        · rw [closes]
          refine .inr (Timeline.closed_close here.forest.rooted ?_)
          rw [here.forest.parent?_eq rooted.made]
          exact hangs
      · exact .inr (Timeline.closed_of_touches here.forest.rooted here.isTime older closed
          gone.touches)
  | @elapse job job' w w' t passes _ ih =>
      have passing := Timeline.touches_of_elapses (n := n) passes
      have here := (Timeline.spares_of_touches rooted isTime touches)
      refine ih (touches.trans passing) confined
        (fits.of_size_le (Timeline.size_le_of_touches passing)) (held.imp_right fun closed => ?_)
      exact Timeline.closed_of_touches here.forest.rooted here.isTime older closed passing

/-- The run of an entry under a scope leaves nothing of it behind. -/
theorem executeIn_releases (nested : ∀ n, NestsFrom nests n setting)
    (acts : entry.probe.IsConfined nests) (confined : w.Confined nests)
    (settled : w.line.forest.Settled) (isTime : IsTime w.line.now) (made : c < w.line.forest.size)
    (ends : (r.executeIn setting entry c w).1 ≠ .stalled) :
    w.line.Releases c (r.executeIn setting entry c w).2.line := by
  cases deadline : r.timeout.seconds? with
  | error fault =>
      have line : (r.executeIn setting entry c w).2.line = w.line := by
        simp only [Runner.executeIn, deadline]
        exact World.line_issueId ..
      rw [line]
      exact .refl settled
  | ok limit =>
      let start := (w.line.child c (some limit)).2
      have own : (begun r limit c w).own = w.line.forest.size := Forest.fst_child ..
      have size : start.forest.size = w.line.forest.size + 1 := Forest.size_child ..
      have opens := Forest.Spares.opens settled w.line.now (some limit) made
      have hangs : start.forest.parent? w.line.forest.size = some c :=
        Forest.parent?_child_new settled made
      have probing : (r.probeStart limit entry c w).Confined nests :=
        confined.of_stores_eq (World.stores_issueId ..)
      have fits : (acting (begun r limit c w) entry.probe : Job τ σ).Fits nests
          w.line.forest.size c start := by
        refine ⟨fun h => ?_, acts⟩
        rw [Frame.scopeOf, begun, World.scopeOf_nil, size]
        exact ⟨Nat.le_of_eq own.symm, Nat.lt_succ_of_le (Nat.le_of_eq own)⟩
      obtain ⟨result, -, leads⟩ := executeIn_of_begun deadline setting entry c w ends
      have goes := leads.goesAlone
      have gone := goesAlone_goes (nested _) acts probing fits goes
      have holds : (acting (begun r limit c w) entry.probe : Job τ σ).own? =
          some w.line.forest.size := congrArg some own
      have began : IsTime start.now := isTime
      have closes := goesAlone_closes (nested _) acts opens.rooted began hangs .refl probing fits
        (.inl holds) goes
      have closed : (r.executeIn setting entry c w).2.line.Closed c w.line.forest.size := by
        rcases closes with ⟨⟨⟩⟩ | closed
        exact closed
      exact Timeline.releases_of_touches settled isTime made gone.touches closed

end Job

/-! ### Batches -/

namespace Crew

variable [Clock.Ordered τ] {setting : Entry τ → World.Setting τ} {r : Runner τ σ}
  {c c' : Crew τ σ} {s : Step τ} {steps : List (Step τ)} {entries : List (Entry τ)}
  {caller : ScopeId} {start : Timeline τ}

/-- A batch whose scope is `n`, and which has touched no older ones since that was made. -/
structure Tends (nests : Prop) (entries : List (Entry τ)) (caller n : ScopeId)
    (start : Timeline τ) (c : Crew τ σ) : Prop where
  scope_eq : c.scope = n
  touches : Touches n start c.world.line
  confined : c.world.Confined nests
  fits : ∀ job ∈ c.jobs, job.Fits nests n n c.world.line
  itemized : c.pool.Itemized entries
  closed : c.pool.IsFinal → c.world.line.Closed caller n

omit [Clock.Ordered τ] in
/-- The jobs of a batch still fit after something else has touched scopes. -/
theorem fits_of_touches {t t' : Timeline τ} {jobs : List (Job τ σ)}
    (fits : ∀ job ∈ jobs, job.Fits nests n n t) (touches : Touches n t t') :
    ∀ job ∈ jobs, job.Fits nests n n t' :=
  fun job mem => (fits job mem).of_size_le (Timeline.size_le_of_touches touches)

/-- A step of a batch touches only scopes from its own on, and closes that one as the caller
leaves. -/
theorem step_tends (nested : ∀ entry, Job.NestsFrom nests n (setting entry))
    (acts : ∀ entry ∈ entries, entry.probe.IsConfined nests) (rooted : start.forest.Rooted n)
    (isTime : IsTime start.now) (hangs : start.forest.parent? n = some caller)
    (tends : Tends nests entries caller n start c) (makes : c.step setting r s = some c') :
    Tends nests entries caller n start c' := by
  have older : caller < n := rooted.settled.parent_lt hangs
  have here := Timeline.spares_of_touches rooted isTime tends.touches
  have stays {t : Timeline τ} (touches : Touches n c.world.line t) (final : c.pool.IsFinal) :
      t.Closed caller n :=
    Timeline.closed_of_touches here.forest.rooted here.isTime older (tends.closed final) touches
  -- what the environment does between two steps of the batch
  have passes {t : Timeline τ} (touch : Touch n c.world.line t) :
      Tends nests entries caller n start (c.withLine t) :=
    { tends with
      touches := tends.touches.tail touch
      fits := fits_of_touches tends.fits (.single touch)
      closed := stays (.single touch) }
  cases move_of_step makes with
  | later now => exact passes (.later now)
  | fire limit timer others found => exact passes (.fire (Timeline.perm_takeDue? found))
  | pool pool isStep steps =>
      refine { tends with itemized := Pool.itemized_step tends.itemized steps, closed := ?_ }
      intro final
      rcases Pool.isFinal_of_step steps final with rfl | before
      · cases isStep
      · exact tends.closed before
  | submit pool steps =>
      refine { tends with
        fits := ?_, itemized := Pool.itemized_step tends.itemized steps, closed := ?_ }
      · intro job mem
        rcases List.mem_append.mp mem with old | new
        · exact tends.fits job old
        · rw [List.mem_singleton.mp new]
          exact ⟨Nat.le_refl n, here.forest.rooted.made⟩
      · intro final
        rcases Pool.isFinal_of_step steps final with ⟨⟨⟩⟩ | before
        exact tends.closed before
  | work k entry job job' world running at_ works =>
      have mem : entry ∈ entries := List.mem_of_getElem? (tends.itemized.item_eq running)
      rw [tends.scope_eq] at works
      have goes := Job.step_goes (nested entry) (acts entry mem) tends.confined
        (tends.fits job (List.mem_of_getElem? at_)) works
      refine { tends with
        touches := tends.touches.trans goes.touches, confined := goes.confined, fits := ?_
        closed := stays goes.touches }
      intro other mem
      rcases List.mem_or_eq_of_mem_set mem with old | rfl
      · exact fits_of_touches tends.fits goes.touches other old
      · exact goes.fits
  | leave pool steps =>
      obtain ⟨rfl⟩ := tends.scope_eq
      have touch : Touch c.scope c.world.line (c.world.line.close c.scope) :=
        .close (Nat.le_refl _)
      have above : c.world.line.forest.parent? c.scope = some caller := by
        rw [here.forest.parent?_eq rooted.made]
        exact hangs
      exact { tends with
        touches := tends.touches.tail touch
        fits := fits_of_touches tends.fits (.single touch)
        itemized := Pool.itemized_step tends.itemized steps
        closed := fun _ => Timeline.closed_close here.forest.rooted above }

/-- However the steps of a batch follow each other, once the caller has left nothing of the batch is
left behind. -/
theorem run_releases {size : Nat} {w : World τ}
    (nested : ∀ n entry, Job.NestsFrom nests n (setting entry))
    (acts : ∀ entry ∈ entries, entry.probe.IsConfined nests) (confined : w.Confined nests)
    (settled : w.line.forest.Settled) (isTime : IsTime w.line.now)
    (made : caller < w.line.forest.size)
    (runs : (Crew.start size entries caller w).run setting r steps = some c)
    (final : c.pool.IsFinal) : w.line.Releases caller c.world.line := by
  let start := (w.line.child caller none).2
  have opens := Forest.Spares.opens settled w.line.now none made
  have hangs : start.forest.parent? w.line.forest.size = some caller :=
    Forest.parent?_child_new settled made
  have began : IsTime start.now := isTime
  have own : (w.line.child caller none).1 = w.line.forest.size := Forest.fst_child ..
  have begins : Tends nests entries caller w.line.forest.size start
      (Crew.start size entries caller w : Crew τ σ) :=
    { scope_eq := own
      touches := .refl
      confined := confined
      fits := nofun
      itemized := Pool.itemized_start size entries
      closed := by
        rintro ⟨fault, ⟨⟩⟩ }
  have tends : Tends nests entries caller w.line.forest.size start c :=
    isRun.invariant
      (fun tends makes => step_tends (nested _) acts opens.rooted began hangs tends makes)
      runs begins
  exact Timeline.releases_of_touches settled isTime made tends.touches (tends.closed final)

omit [Clock τ] [Clock.Ordered τ] in
/-- A batch that has an outcome is at its end. -/
theorem isFinal_of_outcome? {outcome : Outcome (List (Record σ))}
    (left : c.outcome? = some outcome) : c.pool.IsFinal := by
  unfold outcome? at left
  split at left
  · exact ⟨none, ‹_›⟩
  · exact ⟨some _, ‹_›⟩
  · cases left

end Crew

/-! ### Runs -/

namespace Runner

open Timeline (Becomes)

variable [Clock.Ordered τ] {services : Array (Service τ σ)} {r : Runner τ σ}
  {entries : List (Entry τ)} {caller : ScopeId} {w : World τ}

/-- A run leaves nothing behind, be it of a batch or of one entry, once it has returned or raised:
no scope that it has made is linked below the caller's, all of them are cancelled with what hangs
below them then and later, what was linked below the caller's scope still is and tells the same
cause, and the caller's scope is cancelled only by others or by its deadline. For a batch that holds
at once and in every order in which the jobs of its entries can make their steps. -/
theorem runs_release (acts : ∀ entry ∈ entries, entry.probe.IsConfined nests)
    (confined : w.Confined nests) (settled : w.line.forest.Settled) (isTime : IsTime w.line.now)
    (made : caller < w.line.forest.size) :
    ((r.runAll services entries caller w).1 ≠ .stalled →
      w.line.Releases caller (r.runAll services entries caller w).2.line) ∧
    (∀ entry ∈ entries, (r.runOne services entry caller w).1 ≠ .stalled →
      w.line.Releases caller (r.runOne services entry caller w).2.line) ∧
    ∀ (size : Nat) (steps : List (Crew.Step τ)) (c : Crew τ σ),
      (Crew.start size entries caller w).run (settingOf services) r steps = some c →
      c.pool.IsFinal → w.line.Releases caller c.world.line := by
  have nested (n : ScopeId) (entry : Entry τ) :
      Job.NestsFrom nests n (settingOf services entry) :=
    Job.nestsFrom_settingOf services entry
  have scheduled (size : Nat) (steps : List (Crew.Step τ)) (c : Crew τ σ)
      (runs : (Crew.start size entries caller w).run (settingOf services) r steps = some c)
      (final : c.pool.IsFinal) : w.line.Releases caller c.world.line :=
    Crew.run_releases nested acts confined settled isTime made runs final
  refine ⟨fun ends => ?_, fun entry mem ends => ?_, scheduled⟩
  · obtain ⟨steps, c, runs, outcome, world⟩ := Crew.runAll_is_scheduled Nat.one_pos ends
    rw [← world]
    exact scheduled 1 steps c runs (Crew.isFinal_of_outcome? outcome)
  · exact Job.executeIn_releases (nested · entry) (acts entry mem) confined settled isTime made ends

/-- Two checks that leave scopes behind: one derives a scope and another from that, closes neither
and asks the program to stop; the other closes its own scope and goes on to use it. -/
def careless : List (Entry Rat) :=
  [{ check := { name := "leaver", description := "", category := "careless" }
     probe := .derive 0 none (.derive 1 (some 5) (.fail { kind := .systemExit })) },
    { check := { name := "closer", description := "", category := "careless" }
      probe := .close 0 (.derive 0 none (.done .none)) }]

def parent : World Rat where
  line := (({ now := 0 } : Timeline Rat).background.2.child 0 none).2

theorem settled_parent : parent.line.forest.Settled := by
  have root : ({ now := 0 } : Timeline Rat).background.2.forest.Settled :=
    (Forest.grown_background Forest.Formed.empty).settled
  exact Forest.formed_child root 0 none Nat.one_pos

def patient : Runner Rat Rat where
  timeout := .whole 5
  stamp := .ok

theorem careless_checks_release :
    (patient.runAll #[] careless 0 parent).1 = .raised { kind := .systemExit } ∧
      parent.line.Releases 0 (patient.runAll #[] careless 0 parent).2.line ∧
      parent.line.forest.children 0 = [1] ∧
      (patient.runAll #[] careless 0 parent).2.line.forest.children 0 = [1] := by
  have root : ({ now := 0 } : Timeline Rat).background.2.forest.Settled :=
    (Forest.grown_background Forest.Formed.empty).settled
  have settled : parent.line.forest.Settled := Forest.formed_child root 0 none Nat.one_pos
  have made : 0 < parent.line.forest.size := by cbv
  have acts : ∀ entry ∈ careless, entry.probe.IsConfined False := by
    intro entry mem
    rcases List.mem_cons.mp mem with rfl | mem
    · exact .derive (.derive (.fail _))
    · rw [List.mem_singleton.mp mem]
      exact .close (.derive (.done _))
  have raised : (patient.runAll #[] careless 0 parent).1 = .raised { kind := .systemExit } := by
    cbv
  have ends : (patient.runAll #[] careless 0 parent).1 ≠ .stalled := by
    intro stalled
    rw [raised] at stalled
    cases stalled
  exact ⟨raised, (runs_release acts False.elim settled trivial made).1 ends, by cbv, by cbv⟩

end Runner

end Checkup
