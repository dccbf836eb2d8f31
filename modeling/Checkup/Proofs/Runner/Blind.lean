import Checkup.Proofs.Runner.Batch
import Checkup.Proofs.Scope.Apart

/-!
Probes that never look at a scope.

What such a probe comes to cannot depend on the scope it is given: it may derive scopes, close and
cancel them, and never asks one. So it runs alike under any two scopes, and leaves worlds that have
nothing but the number of their scopes to tell them apart. A check that it runs under a fresh scope
is another matter, as the probe of that one may look at its scopes as it likes; but all of these
hang apart from what differs.

Main statements: `runProbe_alike` and `execute_alike` (under scopes that are the same, whatever the
others are, everything comes to the same), `runProbe_level` and `runOne_blind` (under any two scopes
a probe that never looks comes to the same).
-/

namespace Checkup

open Forest (Alike)
open Timeline (Abreast)

variable {τ σ : Type}

/-- A probe that never looks at a scope, nor runs a check under one that it was given. -/
inductive Probe.IsBlind : Probe τ → Prop
  | done (value : Value) : IsBlind (.done value)
  | fail (fault : Fault) : IsBlind (.fail fault)
  | derive {h : Handle} {timeout : Option τ} {next : Probe τ} : IsBlind next →
      IsBlind (.derive h timeout next)
  | close {h : Handle} {next : Probe τ} : IsBlind next → IsBlind (.close h next)
  | cancel {h : Handle} {cause : Fault} {next : Probe τ} : IsBlind next →
      IsBlind (.cancel h cause next)
  | knows {scope : String} {next : Bool → Probe τ} : (∀ known, IsBlind (next known)) →
      IsBlind (.knows scope next)
  | cancelNamed {scope : String} {cause : Fault} {next : Probe τ} : IsBlind next →
      IsBlind (.cancelNamed scope cause next)
  | clock {next : τ → Probe τ} : (∀ now, IsBlind (next now)) → IsBlind (.clock next)
  | pass {span : τ} {next : Probe τ} : IsBlind next → IsBlind (.pass span next)
  | total {next : Nat → Probe τ} : (∀ total, IsBlind (next total)) → IsBlind (.total next)
  | register {check : Check} {probe : Probe τ} {next : Option Fault → Probe τ} :
      (∀ fault, IsBlind (next fault)) → IsBlind (.register check probe next)
  | unregister {category name : String} {next : Bool → Probe τ} :
      (∀ removed, IsBlind (next removed)) → IsBlind (.unregister category name next)
  | clear {next : Probe τ} : IsBlind next → IsBlind (.clear next)
  | runCheck {category name : String} {next : Except Fault (Option String) → Probe τ} :
      (∀ answer, IsBlind (next answer)) → IsBlind (.runCheck category name none next)
  | host {next : Host → Probe τ} : (∀ host, IsBlind (next host)) → IsBlind (.host next)

namespace World

variable {w w' : World τ} {n m : ScopeId} {derived derived' : List ScopeId}

/-- Both worlds are the one, with timelines that are abreast. -/
theorem Tied.exists_line {B : Timeline τ → Timeline τ → Prop} (tied : Tied B w w') :
    ∃ u, B w.line u ∧ w' = { w with line := u } :=
  ⟨w'.line, tied.line, tied.rest⟩

theorem Tied.intro {B : Timeline τ → Timeline τ → Prop} {u : Timeline τ} (line : B w.line u) :
    Tied B w { w with line := u } :=
  ⟨line, rfl⟩

variable [Clock τ]

/-! ### Under the same scope -/

/-- Checks that are run from inside a probe, under a scope that was made from `n` on or under a
fresh one, come to the same. -/
def NestsAlike (setting : Setting τ) : Prop :=
  ∀ ⦃n m : ScopeId⦄ ⦃w w' : World τ⦄ (category name : String) (scope : Option ScopeId),
    Tied (Abreast (Alike n m)) w w' → n ≤ m → (∀ s, scope = some s → n ≤ s ∧ s < m) →
    Agree (Abreast (Alike n m)) (setting.runCheck category name scope w)
      (setting.runCheck category name scope w')

/-- A probe comes to the same in worlds that agree in all scopes that it can name. -/
theorem runProbe_alike {setting : Setting τ} (nests : NestsAlike setting) (own : ScopeId)
    (p : Probe τ) {u : Timeline τ} (b : w.line.Abreast (Alike n m) u)
    (young : ∀ h, n ≤ scopeOf own derived h) (made : ∀ h, scopeOf own derived h < m) :
    Agree (Abreast (Alike n m)) (runProbe setting own p derived w)
      (runProbe setting own p derived { w with line := u }) := by
  induction p generalizing derived w u m with
  | done value => exact ⟨rfl, b, rfl⟩
  | fail fault => exact ⟨rfl, b, rfl⟩
  | isCancelled h next ih =>
      have same := Abreast.alike.fst_isCancelled (Abreast.twins (young h)) b
      have looked := (Abreast.twins (young h)).isCancelled b
      simp only [runProbe, same]
      exact ih _ looked young made
  | error h next ih =>
      obtain ⟨same, looked⟩ := Abreast.alike.error (Abreast.twins (young h)) b
      simp only [runProbe, same]
      exact ih _ looked young made
  | remaining h next ih =>
      simp only [runProbe, Abreast.alike.remaining (Abreast.twins (young h)) b]
      exact ih _ b young made
  | wait h timeout next ih =>
      obtain ⟨same, waited⟩ := Abreast.alike.wait (Abreast.twins (young h)) timeout b
      simp only [runProbe]
      cases waits : w.line.wait (scopeOf own derived h) timeout with
      | mk woken t =>
          cases waits' : u.wait (scopeOf own derived h) timeout with
          | mk woken' u' =>
              rw [waits, waits'] at same waited
              obtain rfl : woken' = woken := same
              cases woken' with
              | cancelled => exact ih true waited young made
              | elapsed => exact ih false waited young made
              | never => exact ⟨rfl, waited, rfl⟩
  | derive h timeout next ih =>
      have grown := b.child (young h) (made h) timeout
      have le : m ≤ w.line.forest.size := b.forest.le_size
      have new (t : Timeline τ) : (t.child (scopeOf own derived h) timeout).1 = t.forest.size :=
        Forest.fst_child ..
      simp only [runProbe, new, b.forest.size_eq]
      refine (ih grown (fun h => ?_) fun h => ?_).mono fun b => { b with
        forest := b.forest.mono (Nat.le_succ_of_le le) }
      · rw [scopeOf_concat]
        split
        · exact Nat.le_trans (young 0) (Nat.le_trans (Nat.le_of_lt (made 0)) le)
        · exact young h
      · rw [scopeOf_concat]
        split
        · exact Nat.lt_succ_self _
        · exact Nat.lt_succ_of_lt (Nat.lt_of_lt_of_le (made h) le)
  | close h next ih =>
      simp only [runProbe]
      exact ih { b with forest := b.forest.close _ } young made
  | cancel h cause next ih =>
      simp only [runProbe]
      exact ih { b with forest := b.forest.cancel _ cause } young made
  | knows scope next ih => exact ih _ b young made
  | cancelNamed scope cause next ih =>
      simp only [runProbe]
      cases Ordered.get? scope w.names with
      | none => exact ih b young made
      | some s => exact ih { b with forest := b.forest.cancel s cause } young made
  | clock next ih =>
      simp only [runProbe, b.now_eq]
      exact ih _ b young made
  | pass span next ih => exact ih (Abreast.alike.pass span b) young made
  | total next ih => exact ih _ b young made
  | register check probe next _ ih =>
      simp only [runProbe, register_line]
      cases registers : w.register setting.store ⟨check, probe, setting.service⟩ with
      | error fault => exact ih _ b young made
      | ok v =>
          rw [← line_register registers] at b
          exact ih _ b young made
  | unregister category name next ih =>
      rw [← line_unregister setting.store category name w] at b
      simp only [runProbe, unregister_line]
      exact ih _ b young made
  | clear next ih => exact ih b young made
  | runCheck category name scope next ih =>
      have known (s : ScopeId) (there : scope.map (scopeOf own derived) = some s) :
          n ≤ s ∧ s < m := by
        obtain ⟨h, -, rfl⟩ := Option.map_eq_some_iff.mp there
        exact ⟨young h, made h⟩
      obtain ⟨same, tied⟩ := nests category name _ (.intro b)
        (Nat.le_of_lt (Nat.lt_of_le_of_lt (young 0) (made 0))) known
      simp only [runProbe]
      cases runs : setting.runCheck category name (scope.map (scopeOf own derived)) w with
      | mk answer v =>
          cases runs' : setting.runCheck category name (scope.map (scopeOf own derived))
              { w with line := u } with
          | mk answer' v' =>
              rw [runs, runs'] at same tied
              obtain rfl : answer' = answer := same
              obtain ⟨_, ran, rfl⟩ := tied.exists_line
              cases answer' with
              | returned summary => exact ih _ ran young made
              | raised fault => exact ih _ ran young made
              | stalled => exact ⟨rfl, ran, rfl⟩
  | host next ih => exact ih _ b young made

/-! ### Under any two scopes -/

/-- A probe that never looks at a scope comes to the same under any two. -/
theorem runProbe_level {setting : Setting τ} (nests : NestsAlike setting) {p : Probe τ}
    (blind : p.IsBlind) (own own' : ScopeId) {u : Timeline τ} (b : w.line.Abreast (Forest.Level m) u)
    (made : ∀ h, scopeOf own derived h < m) (made' : ∀ h, scopeOf own' derived' h < m) :
    Agree (Abreast (Forest.Level m)) (runProbe setting own p derived w)
      (runProbe setting own' p derived' { w with line := u }) := by
  induction blind generalizing derived derived' w u m with
  | done value => exact ⟨rfl, b, rfl⟩
  | fail fault => exact ⟨rfl, b, rfl⟩
  | @derive h timeout next _ ih =>
      have grown := b.child_level (made h) (made' h) timeout
      have le : m ≤ w.line.forest.size := b.forest.le_size
      have new (t : Timeline τ) (s : ScopeId) : (t.child s timeout).1 = t.forest.size :=
        Forest.fst_child ..
      have named {own : ScopeId} {derived : List ScopeId} (made : ∀ h, scopeOf own derived h < m)
          (h : Handle) :
          scopeOf own (derived ++ [w.line.forest.size]) h < w.line.forest.size + 1 := by
        rw [scopeOf_concat]
        split
        · exact Nat.lt_succ_self _
        · exact Nat.lt_succ_of_lt (Nat.lt_of_lt_of_le (made h) le)
      simp only [runProbe, new, b.forest.size_eq]
      exact (ih grown (named made) (named made')).mono fun b => { b with
        forest := b.forest.mono (Nat.le_succ_of_le le) }
  | close _ ih =>
      simp only [runProbe]
      exact ih { b with forest := b.forest.close _ _ } made made'
  | cancel _ ih =>
      simp only [runProbe]
      exact ih { b with forest := b.forest.cancel _ _ _ _ } made made'
  | knows _ ih => exact ih _ b made made'
  | @cancelNamed scope cause _ _ ih =>
      simp only [runProbe]
      cases Ordered.get? scope w.names with
      | none => exact ih b made made'
      | some s => exact ih { b with forest := b.forest.cancel s s cause cause } made made'
  | clock _ ih =>
      simp only [runProbe, b.now_eq]
      exact ih _ b made made'
  | pass _ ih => exact ih (Abreast.level.pass _ b) made made'
  | total _ ih => exact ih _ b made made'
  | @register check probe next _ ih =>
      simp only [runProbe, register_line]
      cases registers : w.register setting.store ⟨check, probe, setting.service⟩ with
      | error fault => exact ih _ b made made'
      | ok v =>
          rw [← line_register registers] at b
          exact ih _ b made made'
  | @unregister category name _ _ ih =>
      rw [← line_unregister setting.store category name w] at b
      simp only [runProbe, unregister_line]
      exact ih _ b made made'
  | clear _ ih => exact ih b made made'
  | @runCheck category name _ _ ih =>
      -- what the check does begins with a fresh scope, from which on both worlds agree
      have begins : w.line.Abreast (Alike w.line.forest.size w.line.forest.size) u :=
        { b with forest := b.forest.alike }
      have unnamed (s : ScopeId) (there : none = some s) :
          w.line.forest.size ≤ s ∧ s < w.line.forest.size := by cases there
      obtain ⟨same, tied⟩ := (nests category name none (.intro begins) (Nat.le_refl _)
        unnamed).mono fun after => { after with
          forest := after.forest.toLevel.mono b.forest.le_size }
      simp only [runProbe, Option.map_none]
      cases runs : setting.runCheck category name none w with
      | mk answer v =>
          cases runs' : setting.runCheck category name none { w with line := u } with
          | mk answer' v' =>
              rw [runs, runs'] at same tied
              obtain rfl : answer' = answer := same
              obtain ⟨_, ran, rfl⟩ := tied.exists_line
              cases answer' with
              | returned summary => exact ih _ ran made made'
              | raised fault => exact ih _ ran made made'
              | stalled => exact ⟨rfl, ran, rfl⟩
  | host _ ih => exact ih _ b made made'

end World

namespace Runner

open World (Agree Tied NestsAlike)

variable [Clock τ] {n m s s' : ScopeId} {w w' : World τ}

/-! ### Checks that run each other -/

/-- Runs under a scope come to the same in worlds that agree in it and in what is made later. -/
def RunsAlike (run : Runner τ σ → Entry τ → ScopeId → World τ → Outcome (Record σ) × World τ) :
    Prop :=
  ∀ (r : Runner τ σ) (entry : Entry τ) ⦃n m s : ScopeId⦄ ⦃w w' : World τ⦄,
    Tied (Abreast (Alike n m)) w w' → n ≤ s → s < m →
    Agree (Abreast (Alike n m)) (run r entry s w) (run r entry s w')

theorem nestsAlike_nested
    {run : Runner τ σ → Entry τ → ScopeId → World τ → Outcome (Record σ) × World τ}
    (alike : RunsAlike run) (number store : Nat) (service : Option (Service τ σ)) :
    NestsAlike { service := number, store := store, runCheck := nested run service } := by
  intro n m w w' category name scope tied le known
  obtain ⟨u, b, rfl⟩ := tied.exists_line
  cases service with
  | none => exact ⟨rfl, b, rfl⟩
  | some service =>
      have same : ({ w with line := u } : World τ).store service.store = w.store service.store :=
        rfl
      dsimp only [nested]
      rw [same]
      cases (w.store service.store).get? category name with
      | none => exact ⟨rfl, b, rfl⟩
      | some entry =>
          cases scope with
          | some s =>
              obtain ⟨young, made⟩ := known s rfl
              obtain ⟨same, ran⟩ := alike service.runner entry tied young made
              exact ⟨congrArg (Outcome.map _) same, ran⟩
          | none =>
              have fresh : Tied (Abreast (Alike n (w.line.forest.size + 1)))
                  { w with line := w.line.background.2 } { w with line := u.background.2 } :=
                ⟨⟨b.now_eq, b.timers_eq, b.forest.background⟩, rfl⟩
              have new : u.background.1 = w.line.background.1 := b.forest.size_eq
              obtain ⟨same, ran⟩ := (alike service.runner entry fresh
                (Nat.le_trans le b.forest.le_size) (Nat.lt_succ_self _)).mono fun after =>
                  { after with forest := after.forest.mono (Nat.le_succ_of_le b.forest.le_size) }
              simp only [new]
              exact ⟨congrArg (Outcome.map _) same, ran⟩

/-- However deep checks run each other, all that they come to is the same in worlds that agree in
the scopes that they are run under. -/
theorem execute_alike (services : Array (Service τ σ)) (depth : Nat) :
    RunsAlike (execute services depth) := by
  induction depth with
  | zero => exact fun _ _ _ _ _ _ _ tied _ _ => ⟨rfl, tied⟩
  | succ depth ih =>
      intro r entry n m s w w' tied young made
      have le : n ≤ w.line.forest.size :=
        Nat.le_trans (Nat.le_of_lt (Nat.lt_of_le_of_lt young made)) tied.line.forest.le_size
      have size := tied.line.forest.size_eq
      have nests := nestsAlike_nested ih entry.service
        ((services[entry.service]?.map Service.store).getD 0) services[entry.service]?
      refine executeIn_tied _ r entry Abreast.alike (fun b => { b with
        forest := b.forest.mono (Nat.le_succ_of_le tied.line.forest.le_size) }) tied
        tied.line.now_eq (fun limit => tied.line.child young made (some limit)) ?_ ?_
      · intro v v' _ tied'
        obtain ⟨u, b, rfl⟩ := tied'.exists_line
        rw [size]
        refine World.runProbe_alike nests _ _ b (fun h => ?_) fun h => ?_
        · rw [World.scopeOf_nil]
          exact le
        · rw [World.scopeOf_nil]
          exact Nat.lt_succ_self _
      · intro t u b
        rw [size]
        exact { b with forest := b.forest.close _ }

theorem nestsAlike_settingOf (services : Array (Service τ σ)) (entry : Entry τ) :
    NestsAlike (settingOf services entry) :=
  nestsAlike_nested (execute_alike services _) _ _ _

/-- A check whose probe never looks at a scope comes to the same under any two. -/
theorem runOne_blind (services : Array (Service τ σ)) (r : Runner τ σ) {entry : Entry τ}
    (blind : entry.probe.IsBlind) (settled : w.line.forest.Settled) (made : s < w.line.forest.size)
    (made' : s' < w.line.forest.size) :
    (r.runOne services entry s' w).1 = (r.runOne services entry s w).1 := by
  have tied : Tied (Abreast (Forest.Level w.line.forest.size)) w w :=
    ⟨⟨rfl, rfl, settled, settled, rfl, Nat.le_refl _⟩, rfl⟩
  refine (executeIn_tied _ r entry Abreast.level (fun b => { b with
    forest := b.forest.mono (Nat.le_succ _) }) tied rfl
    (fun limit => tied.line.child_level made made' (some limit)) ?_ ?_).same
  · intro v v' _ tied'
    obtain ⟨u, b, rfl⟩ := tied'.exists_line
    have named (h : Handle) : World.scopeOf w.line.forest.size [] h < w.line.forest.size + 1 := by
      rw [World.scopeOf_nil]
      exact Nat.lt_succ_self _
    exact World.runProbe_level (nestsAlike_settingOf services entry) blind _ _ b named named
  · intro t u b
    exact { b with forest := b.forest.close _ _ }

end Runner

end Checkup
