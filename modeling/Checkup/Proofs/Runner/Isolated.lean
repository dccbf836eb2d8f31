import Checkup.Proofs.Runner.Batch
import Mathlib.Data.List.TakeDrop

/-!
Checks that cannot tell how long others took.

A check is measured from its own start: below a caller without a deadline its scope expires some
time after it was made, and nothing that happened to another check is seen in it. So in exact time
a check that looks at no more than its own scope comes to the same whenever it is run, only later:
`Shifted` ties two runs of it that begin at different times. What a batch hands on from one check to
the next is a caller that is as it was and a clock that shows a later time (`Calm`).

Main statements: `Timeline.Shifted.wait` and `runProbe_shifted` (a probe comes to the same at
another time), `executeIn_alike` (so does a check), `runAll_isolates`.
-/

namespace Checkup

/-- A probe that looks at its own scope, waits on it and lets time pass, and then returns or raises
something ordinary. -/
inductive Probe.IsSolitary {τ : Type} : Probe τ → Prop
  | done (value : Value) : IsSolitary (.done value)
  | fail {fault : Fault} : fault.isOrdinary = true → IsSolitary (.fail fault)
  | isCancelled {h : Handle} {next : Bool → Probe τ} :
      (∀ cancelled, IsSolitary (next cancelled)) → IsSolitary (.isCancelled h next)
  | error {h : Handle} {next : Option Fault → Probe τ} :
      (∀ cause, (∀ fault, cause = some fault → fault.IsCancellation) → IsSolitary (next cause)) →
      IsSolitary (.error h next)
  | remaining {h : Handle} {next : Option τ → Probe τ} : (∀ left, IsSolitary (next left)) →
      IsSolitary (.remaining h next)
  | wait {h : Handle} {timeout : Option τ} {next : Bool → Probe τ} :
      (∀ cancelled, IsSolitary (next cancelled)) → IsSolitary (.wait h timeout next)
  | pass {span : τ} {next : Probe τ} : IsSolitary next → IsSolitary (.pass span next)

namespace Probe

variable {τ : Type} {h : Handle} {next : Probe τ}

theorem isSolitary_check (goesOn : next.IsSolitary) : (check h next).IsSolitary := by
  refine .error fun cause told => ?_
  cases cause with
  | none => exact goesOn
  | some fault => exact .fail (Fault.isOrdinary_fresh (told fault rfl))

theorem isSolitary_sleep {timeout : Option τ} (goesOn : next.IsSolitary) :
    (sleep h timeout next).IsSolitary := by
  refine .wait fun cancelled => ?_
  cases cancelled with
  | true => exact isSolitary_check goesOn
  | false => exact goesOn

end Probe

/-! ### Exact time at another hour -/

namespace Clock

variable {a b d : Rat}

/-- Times are compared as they are when both are shifted. -/
theorem le_shift : le (a + d) (b + d) = le a b := by
  simp [le]

theorem later_shift (a b d : Rat) : later (a + d) (b + d) = later a b + d := by
  simp only [later, lt, add_lt_add_iff_right]
  split <;> rfl

theorem earlier_shift (a b d : Rat) : earlier (a + d) (b + d) = earlier a b + d := by
  simp only [earlier, lt, add_lt_add_iff_right]
  split <;> rfl

theorem sub_shift (a b d : Rat) : sub (a + d) (b + d) = sub a b := add_sub_add_right_eq_sub a b d

theorem add_shift (a b d : Rat) : add (a + d) b = add a b + d := add_right_comm a d b

end Clock

namespace Timeline

/-! ### A caller that stays as it is -/

section Calm

variable {τ : Type} [Clock τ] [Clock.Ordered τ] [Clock.Arrives τ] {t : Timeline τ}
  {c s : ScopeId} {known : Option Fault}

/-- Nothing is about to happen to a scope: no timer is set, and neither it nor a scope above it has
a deadline. -/
structure Calm (c : ScopeId) (known : Option Fault) (t : Timeline τ) : Prop where
  ready : t.Ready
  timers : t.timers = []
  made : c < t.forest.size
  endless {a : ScopeId} : t.forest.Above a c → t.forest.deadline? a = none
  cause : t.forest.cause? c = known

namespace Calm

/-- Causes may change elsewhere. -/
theorem of_causes (calm : t.Calm c known) {t' : Timeline τ} (ready : t'.Ready)
    (timers : t'.timers = t.timers) (size : t'.forest.size = t.forest.size)
    (parent : ∀ i, t'.forest.parent? i = t.forest.parent? i)
    (deadline : ∀ i, t'.forest.deadline? i = t.forest.deadline? i)
    (cause : t'.forest.cause? c = t.forest.cause? c) : t'.Calm c known where
  ready := ready
  timers := timers.trans calm.timers
  made := size ▸ calm.made
  endless above := by
    rw [deadline]
    exact calm.endless (above.of_parent?_eq fun i _ => (parent i).symm)
  cause := cause.trans calm.cause

/-- Whichever scope is asked: if it is found to have expired it is not above. -/
theorem isCancelled (calm : t.Calm c known) (s : ScopeId) : (t.isCancelled s).2.Calm c known := by
  refine calm.of_causes (calm.ready.isCancelled s) rfl (Forest.size_isCancelled ..)
    (fun _ => Forest.parent?_isCancelled ..) (fun _ => Forest.deadline?_isCancelled ..) ?_
  show (t.forest.isCancelled t.now s).2.cause? c = _
  rcases t.forest.isCancelled_cases t.now s with same | ⟨-, expired, cancels⟩
  · rw [same]
  · obtain ⟨deadline, here, -⟩ := (Forest.isExpired_iff ..).mp expired
    rw [cancels]
    refine Forest.cause?_cancel_of_not_above calm.ready.settled (fun above => ?_) _
    rw [calm.endless above] at here
    cases here

theorem error (calm : t.Calm c known) (s : ScopeId) : (t.error s).2.Calm c known := by
  rw [error_snd]
  exact calm.isCancelled s

theorem later (calm : t.Calm c known) (now : τ) :
    Calm c known { t with now := Clock.later t.now now } :=
  { calm with ready := calm.ready.later now }

theorem not_pending (calm : t.Calm c known) {timer : Timer τ} {others : List (Timer τ)} :
    ¬ t.timers.Perm (timer :: others) := by
  intro pending
  rw [calm.timers] at pending
  cases pending.nil_eq

theorem wait (calm : t.Calm c known) (s : ScopeId) (timeout : Option τ) :
    (t.wait s timeout).2.Calm c known :=
  keeps_wait (fun s calm => calm.isCancelled s)
    (fun pending calm => absurd pending calm.not_pending)
    (fun now calm => calm.later now) s timeout calm

theorem advance (calm : t.Calm c known) (span : τ) : (t.advance span).Calm c known :=
  keeps_advance (fun pending calm => absurd pending calm.not_pending)
    (fun now calm => calm.later now) span none calm

theorem child (calm : t.Calm c known) (timeout : Option τ) :
    (t.child c timeout).2.Calm c known := by
  have asked := calm.isCancelled c
  have settled := calm.ready.settled
  have grown := Forest.grown_child settled t.now timeout calm.made
  have size := Extends.size_child settled calm.made timeout
  have old : c ≠ (t.forest.isCancelled t.now c).2.size := by
    rw [Forest.size_isCancelled]
    exact Nat.ne_of_lt calm.made
  refine ⟨calm.ready.child calm.made timeout, calm.timers, ?_, fun above => ?_, ?_⟩
  · rw [size]
    exact Nat.lt_succ_of_lt calm.made
  · have above := (grown.above_of_lt asked.ready.settled asked.made).mp above
    have older := Nat.lt_of_le_of_lt (settled.le_of_above (above.of_parent?_eq fun i _ =>
      (Forest.parent?_isCancelled ..).symm)) calm.made
    rw [Extends.deadline?_child settled calm.made, if_neg (Nat.ne_of_lt older)]
    exact calm.endless (above.of_parent?_eq fun i _ => (Forest.parent?_isCancelled ..).symm)
  · exact (grown.cause?_eq old).trans asked.cause

/-- A scope made below is born with what is known by then. -/
theorem cause?_child (calm : t.Calm c known) (timeout : Option τ) :
    (t.child c timeout).2.forest.cause? t.forest.size = known :=
  (Forest.cause?_child_new timeout calm.ready.settled calm.made).trans (calm.isCancelled c).cause

/-- A scope that was made later is not above. -/
theorem close (calm : t.Calm c known) (later : c < s) : (t.close s).Calm c known := by
  refine calm.of_causes (calm.ready.close s) rfl (Forest.size_close ..)
    (fun _ => Forest.parent?_close ..) (fun _ => Forest.deadline?_close ..) ?_
  refine (Forest.cause?_close ..).trans
    (Forest.cause?_cancel_of_not_above calm.ready.settled (fun above => ?_) _)
  exact Nat.not_le_of_lt later (calm.ready.settled.le_of_above above)

/-- A scope without a deadline of its own, made below, has nothing to expect either. -/
theorem child_new (calm : t.Calm c known) : (t.child c none).2.Calm t.forest.size known := by
  have still := calm.child none
  have settled := calm.ready.settled
  have grown := Forest.grown_child settled t.now none calm.made
  have new : (t.forest.isCancelled t.now c).2.size = t.forest.size := Forest.size_isCancelled ..
  refine { still with made := ?_, endless := fun above => ?_, cause := calm.cause?_child none }
  · rw [Extends.size_child settled calm.made]
    exact Nat.lt_succ_self _
  · rw [← new] at above
    have settled' := (calm.isCancelled c).ready.settled
    rcases (grown.above_new settled').mp above with rfl | ⟨p, hangs, above⟩
    · rw [new, Extends.deadline?_child settled calm.made, if_pos rfl, calm.endless .self]
      rfl
    · cases hangs
      refine still.endless ((grown.above_of_lt (calm.isCancelled c).ready.settled ?_).mpr above)
      exact (calm.isCancelled c).made

/-- A fresh scope that nothing is above has nothing to expect where no timer is set. -/
theorem background (ready : t.Ready) (timers : t.timers = []) :
    t.background.2.Calm t.background.1 none := by
  have grown := Forest.grown_background ready.settled
  refine ⟨ready.background, timers, ?_, fun above => ?_, ?_⟩
  · show t.forest.size < t.forest.background.2.size
    rw [grown.size_eq]
    exact Nat.lt_succ_self _
  · rcases (grown.above_new ready.settled).mp above with rfl | ⟨p, hangs, -⟩
    · exact (grown.deadline?_eq _).trans (if_pos rfl)
    · cases hangs
  · refine Option.not_isSome_iff_eq_none.mp fun cancelled => ?_
    obtain ⟨p, hangs, -⟩ := grown.born cancelled
    cases hangs

end Calm

end Calm

/-! ### A scope and one like it at another time -/

/-- A scope, and one that stands to its time as the first one does, `d` earlier. -/
structure Shifted (d deadline : Rat) (s s' : ScopeId) (t t' : Timeline Rat) : Prop where
  now_eq : t'.now = t.now + d
  ready : t.Ready
  ready' : t'.Ready
  timers : t.timers = []
  timers' : t'.timers = []
  deadline_eq : t.forest.deadline? s = some deadline
  deadline_eq' : t'.forest.deadline? s' = some (deadline + d)
  cause_eq : t'.forest.cause? s' = t.forest.cause? s

/-- Without timers the clock goes where it is sent. -/
theorem advance_of_no_timers {τ : Type} [Clock τ] {t : Timeline τ} (timers : t.timers = [])
    (span : τ) (awaited : Option ScopeId) :
    t.advance span awaited = { t with now := Clock.later t.now (Clock.add t.now span) } := by
  have none : takeDue? (some (Clock.add t.now span)) t.timers = none := by rw [timers]; rfl
  rw [Timeline.advance, fireDue_of_none none]

namespace Shifted

variable {d deadline : Rat} {s s' : ScopeId} {t t' : Timeline Rat}

theorem made (b : Shifted d deadline s s' t t') : s < t.forest.size :=
  Forest.lt_size_of_deadline? b.deadline_eq

theorem made' (b : Shifted d deadline s s' t t') : s' < t'.forest.size :=
  Forest.lt_size_of_deadline? b.deadline_eq'

/-- What is shifted with its deadline expires with it. -/
theorem isExpired_eq (b : Shifted d deadline s s' t t') :
    t'.forest.isExpired t'.now s' = t.forest.isExpired t.now s := by
  simp only [Forest.isExpired, b.deadline_eq, b.deadline_eq', b.now_eq, Option.elim_some,
    Clock.le_shift]

/-- A scope and a shifted one answer alike. -/
theorem isCancelled (b : Shifted d deadline s s' t t') :
    (t'.isCancelled s').1 = (t.isCancelled s).1 ∧
      Shifted d deadline s s' (t.isCancelled s).2 (t'.isCancelled s').2 := by
  have still (cause : (t'.isCancelled s').2.forest.cause? s' =
      (t.isCancelled s).2.forest.cause? s) :
      Shifted d deadline s s' (t.isCancelled s).2 (t'.isCancelled s').2 :=
    ⟨b.now_eq, b.ready.isCancelled s, b.ready'.isCancelled s', b.timers, b.timers',
      (Forest.deadline?_isCancelled ..).trans b.deadline_eq,
      (Forest.deadline?_isCancelled ..).trans b.deadline_eq', cause⟩
  have answer : (t'.isCancelled s').1 = (t.isCancelled s).1 := by
    simp only [Timeline.isCancelled, Forest.isCancelled, b.cause_eq, b.isExpired_eq]
    split
    · rfl
    · split <;> rfl
  refine ⟨answer, still ?_⟩
  simp only [Timeline.isCancelled, Forest.isCancelled, b.cause_eq, b.isExpired_eq]
  split
  · exact b.cause_eq
  · rename_i live
    have live := Option.not_isSome_iff_eq_none.mp live
    split
    · rw [Forest.cause?_cancel_of_above b.ready.settled b.made .self live,
        Forest.cause?_cancel_of_above b.ready'.settled b.made' .self (b.cause_eq.trans live)]
    · exact b.cause_eq

theorem error (b : Shifted d deadline s s' t t') : (t'.error s').1 = (t.error s).1 ∧
    Shifted d deadline s s' (t.error s).2 (t'.error s').2 := by
  obtain ⟨same, asked⟩ := b.isCancelled
  rw [error_fst, error_fst, error_snd, error_snd, same, asked.cause_eq]
  exact ⟨rfl, asked⟩

theorem remaining (b : Shifted d deadline s s' t t') : t'.remaining s' = t.remaining s := by
  simp only [Timeline.remaining, Forest.remaining, b.deadline_eq, b.deadline_eq', b.now_eq,
    Option.map_some, Clock.sub_shift]

/-- The clock goes on by the same. -/
theorem advance (b : Shifted d deadline s s' t t') (span : Rat)
    (awaited awaited' : Option ScopeId) :
    Shifted d deadline s s' (t.advance span awaited) (t'.advance span awaited') := by
  rw [advance_of_no_timers b.timers, advance_of_no_timers b.timers']
  refine { b with now_eq := ?_, ready := b.ready.later _, ready' := b.ready'.later _ }
  show Clock.later t'.now (Clock.add t'.now span) = Clock.later t.now (Clock.add t.now span) + d
  rw [b.now_eq, Clock.add_shift, Clock.later_shift]

/-- Shifted waits end alike, at times that are as far apart as before. -/
theorem waitUntil (limit : Option Rat) (rounds : Nat) {t t' : Timeline Rat}
    (b : Shifted d deadline s s' t t') :
    (waitUntil s' (limit.map (· + d)) rounds t').1 = (waitUntil s limit rounds t).1 ∧
      Shifted d deadline s s' (waitUntil s limit rounds t).2
        (waitUntil s' (limit.map (· + d)) rounds t').2 := by
  induction rounds generalizing t t' with
  | zero => exact ⟨rfl, b⟩
  | succ rounds ih =>
      obtain ⟨same, looked⟩ := b.isCancelled
      rw [Timeline.waitUntil, Timeline.waitUntil]
      cases looks : t.isCancelled s with
      | mk cancelled u =>
          cases looks' : t'.isCancelled s' with
          | mk cancelled' u' =>
              rw [looks, looks'] at same looked
              obtain rfl : cancelled' = cancelled := same
              cases cancelled' with
              | true => exact ⟨rfl, looked⟩
              | false =>
                  have looked : Shifted d deadline s s' u u' := looked
                  have elapsed : (limit.map (· + d)).elim false (fun end' => Clock.le end' u'.now) =
                      limit.elim false fun end' => Clock.le end' u.now := by
                    cases limit with
                    | none => rfl
                    | some time => rw [Option.map_some, Option.elim_some, looked.now_eq,
                        Clock.le_shift, Option.elim_some]
                  have next : Clock.earliest? (limit.map (· + d)) (u'.forest.deadline? s') =
                      (Clock.earliest? limit (u.forest.deadline? s)).map (· + d) := by
                    rw [looked.deadline_eq, looked.deadline_eq']
                    cases limit with
                    | none => rfl
                    | some time => exact congrArg some (Clock.earlier_shift ..)
                  simp only [elapsed, next]
                  split
                  · exact ⟨rfl, looked⟩
                  · obtain ⟨stop, known⟩ : ∃ stop,
                        Clock.earliest? limit (u.forest.deadline? s) = some stop := by
                      rw [looked.deadline_eq]
                      cases limit <;> exact ⟨_, rfl⟩
                    simp only [known, Option.map_some, looked.now_eq, Clock.sub_shift]
                    exact ih (looked.advance ..)

/-- A wait ends alike, and takes as long. -/
theorem wait (b : Shifted d deadline s s' t t') (timeout : Option Rat) :
    (t'.wait s' timeout).1 = (t.wait s timeout).1 ∧
      Shifted d deadline s s' (t.wait s timeout).2 (t'.wait s' timeout).2 := by
  have limit : timeout.map (Clock.add t'.now) =
      (timeout.map (Clock.add t.now)).map (· + d) := by
    cases timeout with
    | none => rfl
    | some span => rw [Option.map_some, b.now_eq, Clock.add_shift, Option.map_some, Option.map_some]
  simp only [Timeline.wait, limit]
  exact b.waitUntil _ _

/-- Below callers that have no deadline scopes expire some time after they were made. -/
theorem child {c c' : ScopeId} {known : Option Fault} (calm : t.Calm c known)
    (calm' : t'.Calm c' known) (timeout : Rat) :
    Shifted (t'.now - t.now) (t.now + timeout) t.forest.size t'.forest.size
      (t.child c (some timeout)).2 (t'.child c' (some timeout)).2 where
  now_eq := (add_sub_cancel t.now t'.now).symm
  ready := (calm.child (some timeout)).ready
  ready' := (calm'.child (some timeout)).ready
  timers := calm.timers
  timers' := calm'.timers
  deadline_eq := by
    rw [Extends.deadline?_child calm.ready.settled calm.made, if_pos rfl, calm.endless .self]
    rfl
  deadline_eq' := by
    rw [Extends.deadline?_child calm'.ready.settled calm'.made, if_pos rfl, calm'.endless .self]
    show some (t'.now + timeout) = some (t.now + timeout + (t'.now - t.now))
    rw [add_right_comm, add_sub_cancel]
  cause_eq := (calm'.cause?_child (some timeout)).trans (calm.cause?_child (some timeout)).symm

end Shifted

end Timeline

/-! ### A probe at another time -/

namespace World

open Timeline (Calm Shifted)

/-- A solitary probe leaves what is above as it is. -/
theorem runProbe_calm {τ : Type} [Clock τ] [Clock.Ordered τ] [Clock.Arrives τ] {p : Probe τ}
    (acts : p.IsSolitary) (setting : Setting τ) (s : ScopeId) {c : ScopeId} {known : Option Fault}
    {w : World τ} (calm : w.line.Calm c known) :
    (runProbe setting s p [] w).2.line.Calm c known := by
  induction acts generalizing w with
  | done value => exact calm
  | fail raises => exact calm
  | @isCancelled h next _ ih => exact ih _ (calm.isCancelled _)
  | @error h next _ ih =>
      exact ih _ (fun _ told => calm.ready.isCancellation_error told) (calm.error _)
  | @remaining h next _ ih => exact ih _ calm
  | @wait h timeout next _ ih =>
      have waited := calm.wait (scopeOf s [] h) timeout
      simp only [runProbe]
      cases waits : w.line.wait (scopeOf s [] h) timeout with
      | mk woken t =>
          rw [waits] at waited
          cases woken with
          | cancelled => exact ih true waited
          | elapsed => exact ih false waited
          | never => exact waited
  | @pass span next _ ih => exact ih (calm.advance span)

variable {w w' : World Rat} {d deadline : Rat} {s s' : ScopeId}

/-- A solitary probe ends, and comes to the same at another time. -/
theorem runProbe_shifted {p : Probe Rat} (acts : p.IsSolitary) (setting : Setting Rat)
    (b : Shifted d deadline s s' w.line w'.line) :
    (runProbe setting s' p [] w').1 = (runProbe setting s p [] w).1 ∧
      (runProbe setting s p [] w).1.IsOrdinary ∧
      Shifted d deadline s s' (runProbe setting s p [] w).2.line
        (runProbe setting s' p [] w').2.line := by
  induction acts generalizing w w' with
  | done value => exact ⟨rfl, .inl ⟨value, rfl⟩, b⟩
  | fail ordinary => exact ⟨rfl, .inr ⟨_, rfl, ordinary⟩, b⟩
  | @isCancelled h next _ ih =>
      obtain ⟨same, still⟩ := b.isCancelled
      simp only [runProbe, scopeOf_nil, same]
      exact ih _ still
  | @error h next _ ih =>
      obtain ⟨same, still⟩ := b.error
      simp only [runProbe, scopeOf_nil, same]
      exact ih _ (fun _ told => b.ready.isCancellation_error told) still
  | @remaining h next _ ih =>
      simp only [runProbe, scopeOf_nil, b.remaining]
      exact ih _ b
  | @wait h timeout next _ ih =>
      obtain ⟨same, still⟩ := b.wait timeout
      have ends : (w.line.wait s timeout).1 ≠ .never :=
        Timeline.wait_ends b.ready b.deadline_eq trivial fun _ _ => trivial
      simp only [runProbe, scopeOf_nil]
      cases waits : w.line.wait s timeout with
      | mk woken t =>
          cases waits' : w'.line.wait s' timeout with
          | mk woken' t' =>
              rw [waits, waits'] at same still
              rw [waits] at ends
              obtain rfl : woken' = woken := same
              cases woken' with
              | cancelled => exact ih true still
              | elapsed => exact ih false still
              | never => exact absurd rfl ends
  | @pass span next _ ih => exact ih (b.advance span none none)

end World

/-! ### Checks at another time -/

/-- A record that tells the same as another, with a time stamp that is later by `d`. -/
structure Record.Later (d : Rat) (a b : Record Rat) : Prop where
  error_eq : b.error = a.error
  details_eq : b.details = a.details
  timestamp_eq : b.timestamp = a.timestamp + d

namespace Runner

open Timeline (Calm Shifted)

variable {r : Runner Rat Rat} {limit : Rat} {entry : Entry Rat} {entries : List (Entry Rat)}
  {w w' : World Rat} {c c' : ScopeId} {known : Option Fault}

/-- Two runs of one entry: they come to the same, the second one later by `d`, and leave the callers
as they were. -/
structure Alike (c c' : ScopeId) (known : Option Fault) (d : Rat)
    (run run' : Outcome (Record Rat) × World Rat) : Prop where
  returned : ∃ a b, run.1 = .returned a ∧ run'.1 = .returned b ∧ a.Later d b
  calm : run.2.line.Calm c known
  calm' : run'.2.line.Calm c' known
  passed : run'.2.line.now - run.2.line.now = d

theorem runEach_append (services : Array (Service Rat Rat)) (entries rest : List (Entry Rat))
    (w : World Rat) :
    (r.runEach services c (entries ++ rest) w).1 = (r.runEach services c entries w).1 ++
      (r.runEach services c rest (r.runEach services c entries w).2).1 := by
  induction entries generalizing w with
  | nil => rfl
  | cons entry entries ih => exact congrArg (_ :: ·) (ih _)

theorem length_runEach (services : Array (Service Rat Rat)) (entries : List (Entry Rat))
    (w : World Rat) : (r.runEach services c entries w).1.length = entries.length := by
  induction entries generalizing w with
  | nil => rfl
  | cons entry entries ih => exact congrArg (· + 1) (ih _)

section Execute

variable (deadline : r.timeout.seconds? = .ok limit)
include deadline

/-- What the run of an entry leaves is what its probe left, with the scope of the probe closed. -/
theorem line_executeIn {setting : World.Setting Rat}
    (ends : (probeRun setting r limit entry c w).1.IsOrdinary) :
    (executeIn setting r entry c w).2.line =
      (probeRun setting r limit entry c w).2.line.close w.line.forest.size := by
  have line : ((w.issueId r.ids).2.note (.running entry.check.key)).line = w.line :=
    World.line_issueId ..
  have new : (w.line.child c (some limit)).1 = w.line.forest.size := Forest.fst_child ..
  obtain ⟨shown, shows⟩ := Verdict.isOrdinary_iff.mp ends
  rw [probeRun_eq, new] at shows ⊢
  simp only [executeIn, deadline, line, new]
  rw [probeStart] at shows ⊢
  cases verdict : Verdict.ofOutcome (World.runProbe setting w.line.forest.size entry.probe []
      { (w.issueId r.ids).2.note (.running entry.check.key) with
        line := (w.line.child c (some limit)).2 }).1 with
  | details value => exact line_conclude ..
  | failure fault => exact line_conclude ..
  | escape fault =>
      rw [verdict] at shows
      cases shows
  | stalled =>
      rw [verdict] at shows
      cases shows

variable (stamps : ∀ now, r.stamp now = .ok now)
include stamps

/-- A solitary check returns its record, and at another time one that is later by as much. -/
theorem executeIn_alike (acts : entry.probe.IsSolitary) (setting : World.Setting Rat)
    (calm : w.line.Calm c known) (calm' : w'.line.Calm c' known) :
    Alike c c' known (w'.line.now - w.line.now) (executeIn setting r entry c w)
      (executeIn setting r entry c' w') := by
  have new (w : World Rat) (c : ScopeId) : (w.line.child c (some limit)).1 = w.line.forest.size :=
    Forest.fst_child ..
  have begun : Shifted (w'.line.now - w.line.now) (w.line.now + limit) w.line.forest.size
      w'.line.forest.size (probeStart r limit entry c w).line
      (probeStart r limit entry c' w').line :=
    .child calm calm' limit
  obtain ⟨same, ends, still⟩ := World.runProbe_shifted acts setting begun
  have ran := World.runProbe_calm acts setting w.line.forest.size
    (w := probeStart r limit entry c w) (calm.child (some limit))
  have ran' := World.runProbe_calm acts setting w'.line.forest.size
    (w := probeStart r limit entry c' w') (calm'.child (some limit))
  simp only [← new w c, ← new w' c', ← probeRun_eq] at same ends still ran ran'
  have line := line_executeIn deadline ends
  have line' := line_executeIn deadline (same ▸ ends)
  obtain ⟨⟨error, details⟩, shown⟩ := Verdict.isOrdinary_iff.mp ends
  constructor
  · refine ⟨_, _, (executeIn_returned_iff deadline).mpr ⟨_, error, details, stamps _, shown, rfl⟩,
      (executeIn_returned_iff deadline).mpr ⟨_, error, details, stamps _, same ▸ shown, rfl⟩, ?_⟩
    exact ⟨rfl, rfl, still.now_eq⟩
  · rw [line]
    exact ran.close calm.made
  · rw [line']
    exact ran'.close calm'.made
  · rw [line, line']
    exact sub_eq_of_eq_add' still.now_eq

/-- A check that keeps to itself comes to the same from worlds that are shifted. -/
theorem runOne_alike (acts : entry.probe.IsSolitary) (services : Array (Service Rat Rat))
    (calm : w.line.Calm c known) (calm' : w'.line.Calm c' known) :
    Alike c c' known (w'.line.now - w.line.now) (r.runOne services entry c w)
      (r.runOne services entry c' w') :=
  executeIn_alike deadline stamps acts _ calm calm'

/-- So do checks one after the other. -/
theorem runEach_alike (acts : ∀ e ∈ entries, e.probe.IsSolitary)
    (services : Array (Service Rat Rat)) (calm : w.line.Calm c known)
    (calm' : w'.line.Calm c' known) :
    ∃ records records', (r.runEach services c entries w).1 = records.map Outcome.returned ∧
      (r.runEach services c' entries w').1 = records'.map Outcome.returned ∧
      List.Forall₂ (Record.Later (w'.line.now - w.line.now)) records records' ∧
      (r.runEach services c entries w).2.line.Calm c known := by
  induction entries generalizing w w' with
  | nil => exact ⟨[], [], rfl, rfl, .nil, calm⟩
  | cons entry rest ih =>
      have first := runOne_alike deadline stamps (acts entry List.mem_cons_self) services calm calm'
      obtain ⟨a, b, returned, returned', later⟩ := first.returned
      obtain ⟨records, records', returneds, returneds', laters, calm⟩ := ih
        (fun e mem => acts e (List.mem_cons_of_mem entry mem)) first.calm first.calm'
      rw [first.passed] at laters
      refine ⟨a :: records, b :: records', ?_, ?_, .cons later laters, calm⟩
      · rw [List.map_cons, ← returned, ← returneds]
        rfl
      · rw [List.map_cons, ← returned', ← returneds']
        rfl

end Execute

/-! ### Batches that differ in one probe -/

/-- What two batches come to that differ in the probe at one place: the same before it, and after it
records that tell the same, all of them later by `shift`. -/
structure Isolates (place : Nat) (shift : Rat) (records records' : List (Record Rat)) : Prop where
  length_eq : records'.length = records.length
  before : ∀ i < place, records'[i]? = records[i]?
  after : ∀ i > place, ∀ a b, records[i]? = some a → records'[i]? = some b → a.Later shift b

theorem isolates_append {shift : Rat} {first rest rest' : List (Record Rat)} (a b : Record Rat)
    (laters : List.Forall₂ (Record.Later shift) rest rest') :
    Isolates first.length shift (first ++ a :: rest) (first ++ b :: rest') where
  length_eq := by simp [laters.length_eq]
  before i less := by rw [List.getElem?_append_left less, List.getElem?_append_left less]
  after i more x y here here' := by
    obtain ⟨k, rfl⟩ := Nat.exists_eq_add_of_lt more
    have beyond : first.length + k + 1 - first.length = k + 1 := by omega
    rw [List.getElem?_append_right (by omega), beyond, List.getElem?_cons_succ] at here here'
    obtain ⟨inside, rfl⟩ := List.getElem?_eq_some_iff.mp here
    obtain ⟨inside', rfl⟩ := List.getElem?_eq_some_iff.mp here'
    exact laters.get inside inside'

/-- Under a caller without a deadline, where no timer is set, and with probes that look at their own
scope alone: whatever one probe of a batch does in place of another, however long it takes, the
records of the other entries tell the same, and those of later entries are later by one and the same
time. -/
theorem runAll_isolates (stamps : ∀ now, r.stamp now = .ok now)
    (deadline : r.timeout.seconds? = .ok limit) (calm : w.line.Calm c known)
    (acts : ∀ e ∈ entries, e.probe.IsSolitary) (place : Nat) {other : Probe Rat}
    (actsToo : other.IsSolitary) (services : Array (Service Rat Rat)) :
    let changed := entries.modify place fun e => { e with probe := other }
    ∃ records records' shift, (runAll services r entries c w).1 = .returned records ∧
      (runAll services r changed c w).1 = .returned records' ∧
      records.length = entries.length ∧ Isolates place shift records records' := by
  intro changed
  let under : World Rat := { w with line := (w.line.child c none).2 }
  have all (entries : List (Entry Rat)) : (runAll services r entries c w).1 =
      gather (r.runEach services w.line.forest.size entries under).1 := by
    have new : (w.line.child c none).1 = w.line.forest.size := Forest.fst_child ..
    simp only [runAll, new]
    rfl
  have below : under.line.Calm w.line.forest.size known := calm.child_new
  rcases Nat.lt_or_ge place entries.length with inside | beyond
  · have split : entries = entries.take place ++ entries[place] :: entries.drop (place + 1) := by
      rw [List.cons_getElem_drop_succ, List.take_append_drop]
    have split' : changed = entries.take place ++
        { entries[place] with probe := other } :: entries.drop (place + 1) :=
      List.modify_eq_take_cons_drop inside
    obtain ⟨first, -, returned, -, alike, still⟩ := runEach_alike deadline stamps
      (fun e mem => acts e (List.mem_of_mem_take mem)) services below below
    have one := runOne_alike deadline stamps (acts _ (List.getElem_mem inside)) services still still
    let hog : Entry Rat := { entries[place] with probe := other }
    have two := runOne_alike deadline stamps (show hog.probe.IsSolitary from actsToo) services
      still still
    obtain ⟨a, -, returnedA, -⟩ := one.returned
    obtain ⟨b, -, returnedB, -⟩ := two.returned
    obtain ⟨rest, rest', returned', returned'', laters, -⟩ := runEach_alike deadline stamps
      (fun e mem => acts e (List.mem_of_mem_drop mem)) services one.calm two.calm
    have told : (r.runEach services w.line.forest.size entries under).1 =
        (first ++ a :: rest).map Outcome.returned := by
      rw [split, runEach_append, returned, List.map_append, List.map_cons, ← returnedA, ← returned']
      rfl
    have told' : (r.runEach services w.line.forest.size changed under).1 =
        (first ++ b :: rest').map Outcome.returned := by
      rw [split', runEach_append, returned, List.map_append, List.map_cons, ← returnedB,
        ← returned'']
      rfl
    have length : first.length = place := by
      have same := congrArg List.length returned
      rw [List.length_map, length_runEach, List.length_take_of_le (Nat.le_of_lt inside)] at same
      exact same.symm
    have isolates : Isolates first.length _ (first ++ a :: rest) (first ++ b :: rest') :=
      isolates_append a b laters
    refine ⟨first ++ a :: rest, first ++ b :: rest', _, ?_, ?_, ?_, length ▸ isolates⟩
    · rw [all, told, gather_returned]
    · rw [all, told', gather_returned]
    · rw [← List.length_map (f := Outcome.returned), ← told, length_runEach]
  · have same : changed = entries := List.modify_eq_self beyond
    obtain ⟨records, -, returned, -⟩ := runEach_alike deadline stamps acts services below below
    have length : records.length = entries.length := by
      rw [← List.length_map (f := Outcome.returned), ← returned, length_runEach]
    refine ⟨records, records, 0, ?_, ?_, length, rfl, fun _ _ => rfl, ?_⟩
    · rw [all, returned, gather_returned]
    · rw [same, all, returned, gather_returned]
    · intro i more a b here
      rw [List.getElem?_eq_none (by omega)] at here
      cases here

/-- Three checks, each of which naps for two seconds. -/
def nappers : List (Entry Rat) :=
  ["first", "second", "third"].map fun name =>
    { check := { name, description := "", category := "nap" }
      probe := .sleep 0 (some 2) (.done .none) }

def atNoon : World Rat where
  line := ({ now := 43200 } : Timeline Rat).background.2

theorem hog_delays_third_napper :
    let r : Runner Rat Rat := { timeout := .whole 5, stamp := .ok }
    let hog : Probe Rat := .pass 100 (.fail (.because .valueError "gave up"))
    ∃ records records' shift, (runAll #[] r nappers 0 atNoon).1 = .returned records ∧
      (runAll #[] r (nappers.modify 1 fun e => { e with probe := hog }) 0 atNoon).1 =
        .returned records' ∧ records.length = 3 ∧ Isolates 1 shift records records' := by
  intro r hog
  have calm : atNoon.line.Calm 0 none := .background (.start trivial) rfl
  have acts : ∀ e ∈ nappers, e.probe.IsSolitary := by
    intro e mem
    obtain ⟨name, -, rfl⟩ := List.mem_map.mp mem
    exact Probe.isSolitary_sleep (.done .none)
  exact runAll_isolates (r := r) (fun _ => rfl) rfl calm acts 1 (.pass (.fail rfl)) #[]

end Runner

end Checkup
