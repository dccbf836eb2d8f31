import Checkup.Proofs.Runner.Records
import Checkup.Proofs.Runner.Scoped

/-!
Checks one by one, under the scope of a batch and under the caller's.

A batch hands on a scope of its own, below the caller's, where a single run hands on the caller's
scope itself. A probe that acts only through the scope that it is given cannot tell: it is under a
twin of the scope that it would be under by itself.

Main statements: `executeIn_between` (a check comes to the same under a scope and under its twin),
`runEach_returns` (checks one by one return their records) and `runEach_child`.
-/

namespace Checkup.Runner

open Forest (Twin)
open World (Agree Between Tied)
open Clock (IsTime IsSpan)

variable {τ σ : Type} {w w' : World τ} {c n s s' : ScopeId} {r : Runner τ σ} {entry : Entry τ}
  {entries : List (Entry τ)} {limit : τ}

/-! ### Closing up -/

section Tied

variable [Clock τ] {B : Timeline τ → Timeline τ → Prop}

/-- Scopes whose closing keeps worlds tied are closed alike, and the same record is made. -/
theorem conclude_tied (lockstep : Timeline.Lockstep B) (tied : Tied B w w')
    (closes : B (w.line.close s) (w'.line.close s')) (check : Check) (id : String)
    (start limit : τ) (error : String) (details : Option Value) :
    Agree B (r.conclude check id start limit s error details w)
      (r.conclude check id start limit s' error details w') := by
  have closed := tied.of_line closes
  have now : (w'.line.close s').now = (w.line.close s).now := lockstep.now_eq closes
  simp only [conclude, lockstep.now_eq tied.line]
  cases r.stamp w.line.now with
  | error fault => exact ⟨rfl, closed⟩
  | ok stamp =>
      simp only [now]
      refine ⟨rfl, Tied.note ?_ _⟩
      split
      · exact closed.note _
      · exact closed

/-- The run of an entry keeps worlds tied, and comes to the same, where the run of its probe does
under the scope that it is given. -/
theorem executeIn_tied {C : Timeline τ → Timeline τ → Prop} (setting : World.Setting τ)
    (r : Runner τ σ) (entry : Entry τ) (lockstep : Timeline.Lockstep B)
    (weaken : ∀ {t u : Timeline τ}, B t u → C t u) (tied : Tied C w w')
    (now_eq : w'.line.now = w.line.now)
    (child : ∀ limit, B (w.line.child s (some limit)).2 (w'.line.child s' (some limit)).2)
    (runs : ∀ {v v' : World τ}, v.line.forest.size = w.line.forest.size + 1 → Tied B v v' →
      Agree B (World.runProbe setting w.line.forest.size entry.probe [] v)
        (World.runProbe setting w'.line.forest.size entry.probe [] v'))
    (closes : ∀ {t u : Timeline τ}, B t u →
      B (t.close w.line.forest.size) (u.close w'.line.forest.size)) :
    Agree C (executeIn setting r entry s w) (executeIn setting r entry s' w') := by
  obtain ⟨sameId, issued⟩ := tied.issueId r.ids
  have noted := issued.note (.running entry.check.key)
  have line (w : World τ) : ((w.issueId r.ids).2.note (.running entry.check.key)).line = w.line :=
    World.line_issueId ..
  have new (w : World τ) (s : ScopeId) (limit : τ) :
      (w.line.child s (some limit)).1 = w.line.forest.size := Forest.fst_child ..
  simp only [executeIn, sameId, line, now_eq]
  cases r.timeout.seconds? with
  | error fault => exact ⟨rfl, noted⟩
  | ok limit =>
      have size : (w.line.child s (some limit)).2.forest.size = w.line.forest.size + 1 :=
        Forest.size_child ..
      obtain ⟨same, ran⟩ := runs size (noted.of_line (child limit))
      simp only [new, same]
      cases Verdict.ofOutcome (World.runProbe setting w.line.forest.size entry.probe []
          { (w.issueId r.ids).2.note (.running entry.check.key) with
            line := (w.line.child s (some limit)).2 }).1 with
      | details value => exact (conclude_tied lockstep ran (closes ran.line) ..).mono weaken
      | failure fault =>
          exact (conclude_tied lockstep (ran.note _) (closes ran.line) ..).mono weaken
      | escape fault => exact ⟨rfl, (ran.of_line (closes ran.line)).mono weaken⟩
      | stalled => exact ⟨rfl, ran.mono weaken⟩

end Tied

/-! ### Under a twin -/

variable [Clock τ]

/-- A check whose probe acts only through its scope comes to the same under a scope and under its
twin. -/
theorem executeIn_between (acts : entry.probe.IsScoped {}) (setting : World.Setting τ)
    (b : Between c n w w') :
    (executeIn setting r entry n w').1 = (executeIn setting r entry c w).1 ∧
      Between c n (executeIn setting r entry c w).2 (executeIn setting r entry n w').2 := by
  have made : c < w.line.forest.size :=
    Nat.lt_of_lt_of_le b.line.forest.lt b.line.forest.le_size
  have own : Twin c n w.line.forest.size w'.line.forest.size := b.line.forest.twin_new
  have twins (h : Handle) : Twin c n (World.scopeOf w.line.forest.size [] h)
      (World.scopeOf w'.line.forest.size [] h) := by
    rw [World.scopeOf_nil, World.scopeOf_nil]
    exact own
  have runs {v v' : World τ} (size : v.line.forest.size = w.line.forest.size + 1)
      (tied : Tied (Timeline.Between c n) v v') : Agree (Timeline.Between c n)
        (World.runProbe setting w.line.forest.size entry.probe [] v)
        (World.runProbe setting w'.line.forest.size entry.probe [] v') := by
    have there (h : Handle) : World.scopeOf w.line.forest.size [] h < v.line.forest.size := by
      rw [World.scopeOf_nil, size]
      exact Nat.lt_succ_self _
    obtain ⟨same, ran⟩ := World.runProbe_between acts setting w.line.forest.size
      w'.line.forest.size tied.between rfl twins there
    exact ⟨same, ran.tied⟩
  obtain ⟨same, tied⟩ := executeIn_tied setting r entry Timeline.Between.lockstep id b.tied
    b.line.now_eq (fun limit => b.line.child .between made (some limit)) runs
    (fun b => b.close own)
  exact ⟨same, tied.between⟩

/-- A check does under the scope in between what it does under the one above. -/
theorem runOne_between (acts : entry.probe.IsScoped {}) (services : Array (Service τ σ))
    (b : Between c n w w') :
    (r.runOne services entry n w').1 = (r.runOne services entry c w).1 ∧
      Between c n (r.runOne services entry c w).2 (r.runOne services entry n w').2 :=
  executeIn_between acts _ b

/-- So do checks one after the other. -/
theorem runEach_between (acts : ∀ e ∈ entries, e.probe.IsScoped {})
    (services : Array (Service τ σ)) (b : Between c n w w') :
    (r.runEach services n entries w').1 = (r.runEach services c entries w).1 ∧
      Between c n (r.runEach services c entries w).2 (r.runEach services n entries w').2 := by
  induction entries generalizing w w' with
  | nil => exact ⟨rfl, b⟩
  | cons entry rest ih =>
      obtain ⟨same, ran⟩ :=
        runOne_between (r := r) (acts entry List.mem_cons_self) services b
      obtain ⟨sameRest, ranRest⟩ := ih (fun e mem => acts e (List.mem_cons_of_mem entry mem)) ran
      exact ⟨by simp only [runEach, same, sameRest], ranRest⟩

/-! ### A caller that has been looked at

The batch looks at the caller before its first check begins, which that check would do itself. -/

theorem executeIn_asked (deadline : r.timeout.seconds? = .ok limit) (setting : World.Setting τ)
    (w : World τ) : executeIn setting r entry c { w with line := (w.line.isCancelled c).2 } =
      executeIn setting r entry c w := by
  have issued : ({ w with line := (w.line.isCancelled c).2 } : World τ).issueId r.ids =
      ((w.issueId r.ids).1, { (w.issueId r.ids).2 with line := (w.line.isCancelled c).2 }) := by
    cases r.ids <;> rfl
  simp only [executeIn, issued, deadline, World.note, World.line_issueId,
    Timeline.child_isCancelled]
  rfl

theorem runEach_asked (deadline : r.timeout.seconds? = .ok limit) (services : Array (Service τ σ))
    (rest : List (Entry τ)) (w : World τ) :
    r.runEach services c (entry :: rest) { w with line := (w.line.isCancelled c).2 } =
      r.runEach services c (entry :: rest) w := by
  have first : r.runOne services entry c { w with line := (w.line.isCancelled c).2 } =
      r.runOne services entry c w := executeIn_asked deadline _ w
  simp only [runEach, first]

/-! ### The scope of a batch -/

/-- Whatever timers may cancel scopes while they run: where probes act only through the scopes that
they are given, checks one by one come to the same under a scope that is made for them as under the
scope above it, from the same start, and the clock ends at the same time. -/
theorem runEach_child (deadline : r.timeout.seconds? = .ok limit)
    (settled : w.line.forest.Settled) (made : c < w.line.forest.size)
    (targets : ∀ timer ∈ w.line.timers, timer.target < w.line.forest.size)
    (acts : ∀ e ∈ entries, e.probe.IsScoped {}) (services : Array (Service τ σ)) :
    let under := r.runEach services (w.line.child c none).1 entries
      { w with line := (w.line.child c none).2 }
    under.1 = (r.runEach services c entries w).1 ∧
      under.2.line.now = (r.runEach services c entries w).2.line.now := by
  let looked : World τ := { w with line := (w.line.isCancelled c).2 }
  let under : World τ := { w with line := (w.line.child c none).2 }
  have new : (w.line.child c none).1 = w.line.forest.size := Forest.fst_child ..
  have between : Between c w.line.forest.size looked under :=
    ⟨⟨rfl, rfl, fun mem => targets _ mem, Forest.between_child settled made⟩, rfl⟩
  obtain ⟨same, ran⟩ := runEach_between (r := r) acts services between
  have asked : (r.runEach services c entries looked).1 = (r.runEach services c entries w).1 ∧
      (r.runEach services c entries looked).2.line.now =
        (r.runEach services c entries w).2.line.now := by
    cases entries with
    | nil => exact ⟨rfl, rfl⟩
    | cons entry rest =>
        have all : r.runEach services c (entry :: rest) looked =
          r.runEach services c (entry :: rest) w := runEach_asked deadline services rest w
        rw [all]
        exact ⟨rfl, rfl⟩
  rw [new]
  exact ⟨same.trans asked.1, ran.line.now_eq.trans asked.2⟩

/-! ### Checks that return -/

section Returns

variable [Clock.Ordered τ] [Clock.Arrives τ]

/-- Where stamps can be made, a check that is concluded has a record. -/
theorem conclude_returns (stamps : ∀ now, ∃ stamp, r.stamp now = .ok stamp) (ready : w.line.Ready)
    (check : Check) (id : String) (start limit : τ) (s : ScopeId) (error : String)
    (details : Option Value) :
    let run := r.conclude check id start limit s error details w
    (∃ record, run.1 = .returned record) ∧ run.2.line.Ready ∧ w.line.Extends run.2.line := by
  obtain ⟨stamp, stamped⟩ := stamps w.line.now
  have line := line_conclude (r := r) check id start limit s error details w
  refine ⟨?_, ?_, ?_⟩
  · simp only [conclude, stamped]
    exact ⟨_, rfl⟩
  · rw [line]
    exact ready.close s
  · rw [line]
    exact .close w.line s

/-- The deadline of the caller, if it has one, is a time. -/
def Timed (t : Timeline τ) (c : ScopeId) : Prop :=
  c < t.forest.size ∧ ∀ deadline, t.forest.deadline? c = some deadline → IsTime deadline

omit [Clock.Arrives τ] in
theorem Timed.extends {t t' : Timeline τ} (timed : Timed t c) (grows : t.Extends t') :
    Timed t' c := by
  refine ⟨Nat.lt_of_lt_of_le timed.1 grows.size_le, fun deadline known => timed.2 deadline ?_⟩
  rwa [grows.deadline_eq timed.1] at known

/-- A check that ends returns its record. -/
theorem executeIn_returns (stamps : ∀ now, ∃ stamp, r.stamp now = .ok stamp)
    (deadline : r.timeout.seconds? = .ok limit) (span : IsSpan limit) (setting : World.Setting τ)
    (acts : entry.probe.IsScoped .orderly) (ready : w.line.Ready) (timed : Timed w.line c) :
    let run := executeIn setting r entry c w
    (∃ record, run.1 = .returned record) ∧ run.2.line.Ready ∧ w.line.Extends run.2.line := by
  have line : ((w.issueId r.ids).2.note (.running entry.check.key)).line = w.line :=
    World.line_issueId ..
  have grows := Timeline.Extends.child ready.settled timed.1 (some limit)
  have new : (w.line.child c (some limit)).1 = w.line.forest.size := Forest.fst_child ..
  have held : World.Held (w.line.child c (some limit)).2 w.line.forest.size [] := by
    intro h
    have own : World.scopeOf w.line.forest.size [] h = w.line.forest.size := by cases h <;> rfl
    have isTime : IsTime (Clock.add w.line.now limit) := Clock.Ordered.isTime_add ready.isTime span
    rw [own, Timeline.Extends.deadline?_child ready.settled timed.1, if_pos rfl]
    cases known : w.line.forest.deadline? c with
    | none => exact ⟨_, rfl, isTime⟩
    | some above => exact ⟨_, rfl, Clock.isTime_earlier_left (timed.2 above known) _⟩
  simp only [executeIn, deadline, line, new]
  generalize (w.issueId r.ids).2.note (.running entry.check.key) = w₁
  obtain ⟨ends, ready', grows'⟩ := World.runProbe_ends (s := w.line.forest.size)
    (w := { w₁ with line := (w.line.child c (some limit)).2 }) acts setting
    (ready.child timed.1 (some limit)) held
  generalize World.runProbe setting w.line.forest.size entry.probe [] _ = run at ends ready' grows'
  obtain ⟨outcome, w₂⟩ := run
  obtain ⟨_, shows⟩ := Verdict.isOrdinary_iff.mp ends
  cases verdict : Verdict.ofOutcome outcome with
  | details value =>
      obtain ⟨returns, ready'', grows''⟩ := conclude_returns stamps ready' entry.check
        (w.issueId r.ids).1 w.line.now limit w.line.forest.size "" (some value)
      exact ⟨returns, ready'', grows.trans (grows'.trans grows'')⟩
  | failure fault =>
      obtain ⟨returns, ready'', grows''⟩ := conclude_returns
        (w := w₂.note (.failed entry.check.key fault.failureText)) stamps ready' entry.check
        (w.issueId r.ids).1 w.line.now limit w.line.forest.size fault.failureText none
      exact ⟨returns, ready'', grows.trans (grows'.trans grows'')⟩
  | escape fault =>
      rw [verdict] at shows
      cases shows
  | stalled =>
      rw [verdict] at shows
      cases shows

/-- Checks one after the other return a record each. -/
theorem runEach_returns (stamps : ∀ now, ∃ stamp, r.stamp now = .ok stamp)
    (deadline : r.timeout.seconds? = .ok limit) (span : IsSpan limit)
    (services : Array (Service τ σ)) (acts : ∀ e ∈ entries, e.probe.IsScoped .orderly)
    (ready : w.line.Ready) (timed : Timed w.line c) :
    ∃ records : List (Record σ), records.length = entries.length ∧
      (r.runEach services c entries w).1 = records.map Outcome.returned := by
  induction entries generalizing w with
  | nil => exact ⟨[], rfl, rfl⟩
  | cons entry rest ih =>
      obtain ⟨⟨record, returns⟩, ready', grows⟩ := executeIn_returns (c := c) stamps deadline span _
        (acts entry List.mem_cons_self) ready timed
      obtain ⟨records, length, returned⟩ := ih
        (fun e mem => acts e (List.mem_cons_of_mem entry mem)) ready' (timed.extends grows)
      refine ⟨record :: records, by rw [List.length_cons, List.length_cons, length], ?_⟩
      rw [List.map_cons, ← returned, ← returns]
      rfl

/-! ### Gathered outcomes -/

section

variable {α : Type} {outcomes : List (Outcome α)}

/-- Values are gathered in order. -/
theorem gather_returned (values : List α) :
    gather (values.map Outcome.returned) = .returned values := by
  induction values with
  | nil => rfl
  | cons value values ih => simp only [List.map_cons, gather, ih]

/-- A batch returns values only if all of its checks did. -/
theorem gather_returned_iff {values : List α} :
    gather outcomes = .returned values ↔ outcomes = values.map .returned := by
  constructor
  · intro gathered
    induction outcomes generalizing values with
    | nil =>
        cases gathered
        rfl
    | cons outcome rest ih =>
        simp only [gather] at gathered
        split at gathered <;> cases gathered
        rename_i rests
        rw [ih rests]
        rfl
  · rintro rfl
    exact gather_returned values

/-- The fault that a batch raises was raised by one of its checks. -/
theorem mem_of_gather_raised {fault : Fault} (gathered : gather outcomes = .raised fault) :
    .raised fault ∈ outcomes := by
  induction outcomes with
  | nil => cases gathered
  | cons outcome rest ih =>
      simp only [gather] at gathered
      split at gathered <;> cases gathered
      · exact List.mem_cons_self
      · rename_i rests
        exact List.mem_cons_of_mem _ (ih rests)

theorem mem_of_gather_stalled (gathered : gather outcomes = .stalled) : .stalled ∈ outcomes := by
  induction outcomes with
  | nil => cases gathered
  | cons outcome rest ih =>
      simp only [gather] at gathered
      split at gathered <;> cases gathered
      · exact List.mem_cons_self
      · rename_i rests
        exact List.mem_cons_of_mem _ (ih rests)

/-- A batch in which a check does not come back does not come back. -/
theorem gather_of_mem_stalled (blocked : .stalled ∈ outcomes) : gather outcomes = .stalled := by
  induction outcomes with
  | nil => cases blocked
  | cons outcome rest ih =>
      rcases List.mem_cons.mp blocked with here | later
      · simp only [← here, gather]
      · cases outcome <;> simp only [gather, ih later]

end

end Returns

end Checkup.Runner
