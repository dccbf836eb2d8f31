import Checkup.Proofs.Scope.Waits

/-!
The first cause stays.

A cancel goes through what hangs below the scope it is called on. Whatever is live there gets the
cause that was given and loses its links; whatever was cancelled before, and every scope elsewhere,
is left as it is, with its cause, its deadline and its links. A cause that a scope once has is never
replaced, by whatever is done later and however much time passes.

Main statements: `get?_cancel_of_above` and `get?_cancel_of_apart` (all that a cancel does to each
scope of a forest), `Remembers.act` (what each action keeps of the causes), `first_cause_stays`.
-/

namespace Checkup

def Scope.cancelled {τ : Type} (scope : Scope τ) (cause : Fault) : Scope τ :=
  { scope with cause := some cause, children := [] }

namespace Forest

variable {τ : Type} {f : Forest τ} {s p i : ScopeId} {cause known : Fault} {todo : List ScopeId}

/-! ### What a cancel does to each scope -/

theorem get?_claim_self (live : f.IsLive s) (cause : Fault) :
    (f.claim s cause).2.get? s = (f.get? s).map (·.cancelled cause) := by
  rw [claim_of_live live, get?_modify, if_pos rfl]
  rfl

theorem get?_claim_of_ne (other : i ≠ s) (cause : Fault) :
    (f.claim s cause).2.get? i = f.get? i := by
  by_cases live : f.IsLive s
  · rw [claim_of_live live, get?_modify, if_neg other.symm]
  · rw [claim_of_not_live live]

/-- A claim changes nothing about a scope that is cancelled. -/
theorem get?_claim_of_some (cancelled : f.cause? i = some known) (s : ScopeId) (cause : Fault) :
    (f.claim s cause).2.get? i = f.get? i := by
  by_cases same : i = s
  · subst same
    rw [claim_of_cancelled cancelled]
  · exact get?_claim_of_ne same cause

/-- A spread leaves a scope alone that was cancelled before. -/
theorem get?_spread_of_some (cancelled : f.cause? i = some known) :
    (spread cause todo f).2.get? i = f.get? i := by
  induction todo, f using spread_induction cause with
  | nil f => simp
  | cons s rest f ih =>
      rw [spread_cons, ih (cause?_claim_of_some cancelled s cause)]
      exact get?_claim_of_some cancelled s cause

/-- A spread leaves a scope alone, or cancels it if it was live. -/
theorem get?_spread_cases (cause : Fault) (todo : List ScopeId) (f : Forest τ) (i : ScopeId) :
    (spread cause todo f).2.get? i = f.get? i ∨
      (spread cause todo f).2.get? i = (f.get? i).map (·.cancelled cause) := by
  induction todo, f using spread_induction cause with
  | nil f => exact .inl (by simp)
  | cons s rest f ih =>
      rw [spread_cons]
      by_cases claimed : i = s ∧ f.IsLive s
      · obtain ⟨rfl, live⟩ := claimed
        right
        rw [get?_spread_of_some (cause?_claim_self live cause)]
        exact get?_claim_self live cause
      · have same : (f.claim s cause).2.get? i = f.get? i := by
          by_cases here : i = s
          · rw [claim_of_not_live fun live => claimed ⟨here, live⟩]
          · exact get?_claim_of_ne here cause
        rwa [same] at ih

/-- What is live at or below the scope that a cancel is called on is cancelled for its cause. -/
theorem get?_cancel_of_above (settled : f.Settled) (made : s < f.size) (above : f.Above s i)
    (live : f.cause? i = none) (cause : Fault) :
    (f.cancel s cause).get? i = (f.get? i).map (·.cancelled cause) := by
  have given := cause?_cancel_of_above settled made above live cause
  rcases get?_spread_cases cause [s] f i with same | cancelled
  · have still : (f.cancel s cause).cause? i = f.cause? i := congrArg (Option.bind · _) same
    rw [given, live] at still
    cases still
  · exact cancelled

/-- A cancel leaves every other scope as it was. -/
theorem get?_cancel_of_apart (settled : f.Settled) (apart : f.Above s i → f.cause? i ≠ none)
    (cause : Fault) : (f.cancel s cause).get? i = f.get? i := by
  cases before : f.cause? i with
  | some known => exact get?_spread_of_some before
  | none =>
      have outside : ¬ f.Above s i := fun above => apart above before
      have still := cause?_cancel_of_not_above settled outside cause
      rcases get?_spread_cases cause [s] f i with same | cancelled
      · exact same
      · -- A scope that is cancelled has a cause, unless it was never made.
        cases found : f.get? i with
        | none => exact cancelled.trans (by rw [found]; rfl)
        | some scope =>
            have given : (f.cancel s cause).cause? i = some cause := by
              rw [cause?, cancel, cancelled, found]
              rfl
            rw [given, before] at still
            cases still

theorem exists_of_above (made : s < f.size) (above : f.Above s i) :
    ∃ scope, f.get? i = some scope := by
  refine Option.ne_none_iff_exists'.mp fun unmade => ?_
  have beyond := get?_eq_none_iff.mp unmade
  cases above with
  | self => exact absurd made (Nat.not_lt_of_le beyond)
  | ofParent hangs above => exact absurd (lt_size_of_parent? hangs) (Nat.not_lt_of_le beyond)

/-- A cancel of a scope that is cancelled changes nothing. -/
theorem cancel_of_cancelled (cancelled : f.cause? s = some known) (cause : Fault) :
    f.cancel s cause = f := by
  rw [cancel, spread_cons, claim_of_cancelled cancelled]
  simp

/-! ### Causes that stay -/

section Clocked

variable [Clock τ]

/-- To ask a scope keeps the causes that are there. -/
theorem cause?_isCancelled_of_some (cancelled : f.cause? i = some known) (now : τ) (s : ScopeId) :
    (f.isCancelled now s).2.cause? i = some known := by
  rcases f.isCancelled_cases now s with same | ⟨-, -, cancels⟩
  · rwa [same]
  · rw [cancels]
    exact cause?_cancel_of_some cancelled s _

theorem cause?_child_of_some (cancelled : f.cause? i = some known) (now : τ) (p : ScopeId)
    (timeout : Option τ) : (f.child now p timeout).2.cause? i = some known := by
  have old : i ≠ (f.isCancelled now p).2.size := by
    rw [size_isCancelled]
    exact Nat.ne_of_lt (lt_size_of_cause? cancelled)
  have kept : (f.withChild now p timeout).cause? i = some known := by
    rw [withChild, cause?_push, if_neg old]
    exact cause?_isCancelled_of_some cancelled now p
  cases above : (f.isCancelled now p).2.cause? p with
  | none => rwa [child_of_live above, cause?_link]
  | some cause =>
      rw [child_of_cancelled above]
      exact cause?_cancel_of_some kept f.size cause

end Clocked

end Forest

namespace Timeline

variable {τ : Type} {t t' t'' : Timeline τ} {s i : ScopeId} {known : Fault}

/-- Every scope that was cancelled still is, for the same cause. -/
def Remembers (t t' : Timeline τ) : Prop :=
  ∀ i known, t.forest.cause? i = some known → t'.forest.cause? i = some known

namespace Remembers

theorem refl (t : Timeline τ) : t.Remembers t := fun _ _ => id

theorem trans (first : t.Remembers t') (second : t'.Remembers t'') : t.Remembers t'' :=
  fun i known before => second i known (first i known before)

theorem cancel (t : Timeline τ) (s : ScopeId) (cause : Fault) : t.Remembers (t.cancel s cause) :=
  fun _ _ before => Forest.cause?_cancel_of_some before s cause

theorem close (t : Timeline τ) (s : ScopeId) : t.Remembers (t.close s) := by
  intro i known before
  exact (Forest.cause?_close ..).trans (Forest.cause?_cancel_of_some before s _)

theorem background (t : Timeline τ) : t.Remembers t.background.2 := by
  intro i known before
  exact (Forest.cause?_push ..).trans
    ((if_neg (Nat.ne_of_lt (Forest.lt_size_of_cause? before))).trans before)

variable [Clock τ]

theorem child (t : Timeline τ) (p : ScopeId) (timeout : Option τ) :
    t.Remembers (t.child p timeout).2 :=
  fun _ _ before => Forest.cause?_child_of_some before t.now p timeout

theorem isCancelled (t : Timeline τ) (s : ScopeId) : t.Remembers (t.isCancelled s).2 :=
  fun _ _ before => Forest.cause?_isCancelled_of_some before t.now s

theorem fire (timer : Timer τ) (others : List (Timer τ)) : t.Remembers (t.fire timer others) :=
  fun _ _ before => Forest.cause?_cancel_of_some before timer.target timer.cause

/-- Whatever is done to the scopes and the clock, causes stay. -/
theorem act (t : Timeline τ) (action : Action τ) : t.Remembers (t.act action) := by
  have look {u : Timeline τ} (s : ScopeId) (before : t.Remembers u) :
      t.Remembers (u.isCancelled s).2 :=
    before.trans (isCancelled u s)
  have fires {u : Timeline τ} {timer : Timer τ} {others : List (Timer τ)}
      (_ : u.timers.Perm (timer :: others)) (before : t.Remembers u) :
      t.Remembers (u.fire timer others) :=
    before.trans (fire timer others)
  have later {u : Timeline τ} (now : τ) (before : t.Remembers u) :
      t.Remembers { u with now := Clock.later u.now now } :=
    before
  cases action with
  | background => exact background t
  | child parent timeout => exact child t parent timeout
  | cancel s cause => exact cancel t s cause
  | close s => exact close t s
  | isCancelled s => exact isCancelled t s
  | error s =>
      show t.Remembers (t.error s).2
      rw [error_snd]
      exact isCancelled t s
  | check s =>
      show t.Remembers (t.check s).2
      rw [check_snd]
      exact isCancelled t s
  | wait s timeout => exact keeps_wait look fires later s timeout (refl t)
  | sleep s timeout => exact keeps_sleep look fires later s timeout (refl t)
  | advance span => exact keeps_advance fires later span none (refl t)
  | setTimer after target cause => exact refl t

/-- What a history has cancelled stays cancelled for the same cause, whatever comes later. -/
theorem play (start : τ) (past later : List (Action τ)) :
    (play start past).Remembers (Timeline.play start (later ++ past)) := by
  induction later with
  | nil => exact refl _
  | cons action later ih => exact ih.trans (act _ action)

end Remembers

variable [Clock τ]

/-- A scope that is cancelled is told the cause it is cancelled for. -/
theorem fst_error_of_cause? (cancelled : t.forest.cause? s = some known) :
    (t.error s).1 = some known := by
  simp [error, Forest.error, Forest.isCancelled, cancelled]

/-- A scope that has expired is told so, and cancelled for it. -/
theorem fst_error_of_expired (settled : t.forest.Settled) (uncancelled : t.forest.cause? s = none)
    (expired : t.forest.isExpired t.now s = true) : (t.error s).1 = some .deadlineExceeded := by
  obtain ⟨deadline, known, -⟩ := (Forest.isExpired_iff ..).mp expired
  simp only [error, Forest.error, Forest.isCancelled, uncancelled, Option.isSome_none,
    Bool.false_eq_true, if_false, expired, if_true]
  exact Forest.cause?_cancel_of_above settled (Forest.lt_size_of_deadline? known) .self
    uncancelled _

/-- A scope is found to be live if it has no cause and has not expired. -/
theorem isCancelled_eq_false_iff : (t.isCancelled s).1 = false ↔
    t.forest.cause? s = none ∧ t.forest.isExpired t.now s = false := by
  have asked : (t.isCancelled s).1 = true ↔
      (t.forest.cause? s).isSome ∨ t.forest.isExpired t.now s = true := Forest.fst_isCancelled ..
  rw [← Bool.not_eq_true, asked, not_or, Bool.not_eq_true, Bool.not_eq_true,
    Option.isSome_eq_false_iff, Option.isNone_iff_eq_none]

/-- A live scope is told nothing. -/
theorem fst_error_of_live (live : (t.isCancelled s).1 = false) : (t.error s).1 = none := by
  rw [error_fst, live]
  rfl

/-- The cause that is told is kept. -/
theorem cause?_of_fst_error (told : (t.error s).1 = some known) :
    (t.error s).2.forest.cause? s = some known := by
  rw [error_fst] at told
  rw [error_snd]
  split at told
  · exact told
  · cases told

/-- A scope that is found cancelled tells why. -/
theorem exists_told (settled : t.forest.Settled) (asked : (t.isCancelled s).1 = true) :
    ∃ cause, (t.error s).1 = some cause := by
  cases before : t.forest.cause? s with
  | some cause => exact ⟨cause, fst_error_of_cause? before⟩
  | none =>
      rcases (Forest.fst_isCancelled ..).mp asked with cancelled | expired
      · rw [before] at cancelled
        cases cancelled
      · exact ⟨.deadlineExceeded, fst_error_of_expired settled before expired⟩

/-! ### Histories -/

section Histories

variable [Clock.Ordered τ] {start : τ} {past : List (Action τ)}

/-- At any moment of a history, a cancel of a scope cancels it and what is live below it for the
cause that is given, leaves every other scope with its cause, its deadline and its links, and
changes nothing at all where the scope was cancelled before. A cause that a scope has by then it has
for ever after, and once a cause was told, the same is told ever after. -/
theorem first_cause_stays (possible : Possible start past)
    (made : s < (play start past).forest.size) (cause : Fault) :
    let t := play start past
    (∀ i, t.forest.Above s i → t.forest.cause? i = none → ∃ scope,
      t.forest.get? i = some scope ∧
        (t.cancel s cause).forest.get? i = some (scope.cancelled cause)) ∧
    (∀ i, (t.forest.Above s i → t.forest.cause? i ≠ none) →
      (t.cancel s cause).forest.get? i = t.forest.get? i) ∧
    (t.forest.cause? s ≠ none → t.cancel s cause = t) ∧
    (∀ later i known, t.forest.cause? i = some known →
      (play start (later ++ past)).forest.cause? i = some known) ∧
    ∀ later i known, (t.error i).1 = some known →
      ((play start (later ++ .error i :: past)).error i).1 = some known := by
  intro t
  have settled : t.forest.Settled := (agrees_play possible).settled
  refine ⟨?_, ?_, ?_, ?_, ?_⟩
  · intro i above live
    obtain ⟨scope, found⟩ := Forest.exists_of_above made above
    have cancelled := Forest.get?_cancel_of_above settled made above live cause
    rw [found] at cancelled
    exact ⟨scope, found, cancelled⟩
  · intro i apart
    exact Forest.get?_cancel_of_apart settled apart cause
  · intro cancelled
    obtain ⟨known, before⟩ := Option.ne_none_iff_exists'.mp cancelled
    show ({ t with forest := t.forest.cancel s cause } : Timeline τ) = t
    rw [Forest.cancel_of_cancelled before]
  · intro later i known before
    exact Remembers.play start past later i known before
  · intro later i known told
    have kept := Remembers.play start (.error i :: past) later i known (cause?_of_fst_error told)
    exact fst_error_of_cause? kept

end Histories

/-- Of a line of scopes that expire together, one in the middle has been asked: it and the one below
are cancelled for the deadline, and those above are live. -/
def askedInTheMiddle : List (Action Rat) :=
  [.isCancelled 2, .advance 6, .child 2 none, .child 1 none, .child 0 (some 5), .background]

def byHand : Fault := .because .scopeCancelled "shutdown"

theorem askedInTheMiddle_keeps_deadline : Possible 0 askedInTheMiddle ∧
    let t := play 0 askedInTheMiddle
    1 < t.forest.size ∧ t.forest.cause? 1 = none ∧ t.forest.Above 1 3 ∧
    t.forest.cause? 3 = some .deadlineExceeded ∧
    (∃ scope, t.forest.get? 1 = some scope ∧
      (t.cancel 1 byHand).forest.get? 1 = some (scope.cancelled byHand)) ∧
    (t.cancel 1 byHand).forest.get? 3 = t.forest.get? 3 ∧
    t.cancel 3 byHand = t ∧
    ((play 0 (.advance 1 :: .cancel 0 byHand :: .error 3 :: askedInTheMiddle)).error 3).1 =
      some .deadlineExceeded := by
  have possible : Possible 0 askedInTheMiddle := by
    simp only [askedInTheMiddle, Possible, Action.scope?, Action.childTimeout?, Clock.IsTime,
      Clock.IsSpan, Option.some.injEq, forall_eq', reduceCtorEq, false_implies, implies_true,
      and_true, true_and]
    refine ⟨?_, ?_, ?_, ?_⟩ <;> cbv
  have made : 1 < (play 0 askedInTheMiddle).forest.size := by cbv
  have made' : 3 < (play 0 askedInTheMiddle).forest.size := by cbv
  have live : (play 0 askedInTheMiddle).forest.cause? 1 = none := by cbv
  have below : (play 0 askedInTheMiddle).forest.Above 1 3 :=
    .ofParent (p := 2) (by cbv) (.ofParent (p := 1) (by cbv) .self)
  have expired : (play 0 askedInTheMiddle).forest.cause? 3 = some .deadlineExceeded := by cbv
  have told : ((play 0 askedInTheMiddle).error 3).1 = some .deadlineExceeded := by cbv
  obtain ⟨given, apart, -, -, -⟩ := first_cause_stays possible made byHand
  obtain ⟨-, -, same, -, forEver⟩ := first_cause_stays possible made' byHand
  refine ⟨possible, made, live, below, expired, given 1 .self live, apart 3 fun _ => ?_,
    same ?_, forEver [.advance 1, .cancel 0 byHand] 3 _ told⟩
  · rw [expired]
    exact Option.some_ne_none _
  · rw [expired]
    exact Option.some_ne_none _

end Timeline

end Checkup
