import Checkup.Proofs.Runner.Isolated
import Checkup.Proofs.Scope.Stops
import Mathlib.Algebra.Order.BigOperators.Group.List
import Mathlib.Tactic.NormNum

/-!
Checks that sleep, and the deadline they sleep toward.

In exact time it is settled beforehand what comes of a check that only sleeps. The scope of its
probe expires at the deadline of the caller, or as long after the start as the runner allows if that
is earlier, and where no timer is set nothing else ends it. Sleeps that are over before then are
slept to the end, those of no length or less in no time, and the probe returns. Otherwise one of
them reaches the deadline, be it on its last moment, and raises; whatever was to come after it makes
no difference.

Main statements: `Expires.wait_of_lt` and `Expires.wait_of_le` (a wait for such a scope),
`runProbe_naps_of_lt` and `runProbe_naps_of_le` (sleeps one after the other) and
`naps_return_or_expire` (the record of the check).
-/

namespace Checkup

/-! ### Sleeps -/

def Probe.naps (spans : List Rat) (next : Probe Rat) : Probe Rat :=
  spans.foldr (fun span => .sleep 0 (some span)) next

/-- How long sleeps take together if nothing cuts them short: none takes time back. -/
def slept (spans : List Rat) : Rat := (spans.map (max 0)).sum

theorem slept_cons (span : Rat) (rest : List Rat) :
    slept (span :: rest) = max 0 span + slept rest :=
  List.sum_cons

theorem slept_nonneg (spans : List Rat) : 0 ≤ slept spans := by
  refine List.sum_nonneg fun span mem => ?_
  obtain ⟨asked, -, rfl⟩ := List.mem_map.mp mem
  exact le_max_left 0 asked

namespace Timeline

variable {t : Timeline Rat} {s p : ScopeId} {last span stop : Rat}

/-! ### Scopes that only their deadline ends -/

/-- Nothing has cancelled a scope but, maybe, its own deadline. -/
def Uncancelled (t : Timeline Rat) (s : ScopeId) : Prop :=
  ∀ known, t.forest.cause? s = some known →
    known = .deadlineExceeded ∧ t.forest.isExpired t.now s = true

/-- A look at such a scope finds no cause but its deadline, and that as soon as it has passed. -/
theorem Uncancelled.cause?_isCancelled (uncancelled : t.Uncancelled s)
    (settled : t.forest.Settled) : (t.isCancelled s).2.forest.cause? s =
      if t.forest.isExpired t.now s then some .deadlineExceeded else none := by
  show (t.forest.isCancelled t.now s).2.cause? s = _
  cases before : t.forest.cause? s with
  | some known =>
      obtain ⟨rfl, expired⟩ := uncancelled known before
      rw [if_pos expired]
      exact Forest.cause?_isCancelled_of_some before t.now s
  | none =>
      simp only [Forest.isCancelled, before, Option.isSome_none, Bool.false_eq_true, if_false]
      split
      · rename_i expired
        obtain ⟨deadline, known, -⟩ := (Forest.isExpired_iff ..).mp expired
        exact Forest.cause?_cancel_of_above settled (Forest.lt_size_of_deadline? known) .self
          before _
      · exact before

/-- A scope that its deadline alone ends: no timer is set, and nothing else has cancelled it. -/
structure Expires (s : ScopeId) (last : Rat) (t : Timeline Rat) : Prop where
  settled : t.forest.Settled
  timers : t.timers = []
  deadline_eq : t.forest.deadline? s = some last
  uncancelled : t.Uncancelled s

/-- When a scope expires that is made now, below another and for some time. -/
def expiryBelow (t : Timeline Rat) (p : ScopeId) (span : Rat) : Rat :=
  (t.forest.deadline? p).elim (t.now + span) (min · (t.now + span))

/-- The scope has been found to have expired, as soon as it has. -/
def overdue (t : Timeline Rat) (s : ScopeId) (last : Rat) : Timeline Rat :=
  (isCancelled { t with now := max t.now last } s).2

theorem overdue_later {now : Rat} (before : t.now ≤ last) (soon : now ≤ last) :
    overdue { t with now } s last = t.overdue s last := by
  show (isCancelled { t with now := max now last } s).2 = _
  rw [overdue, max_eq_right before, max_eq_right soon]

/-- Without timers the clock goes where it is sent, if that is ahead. -/
theorem advance_to (timers : t.timers = []) (ahead : t.now < stop) (awaited : Option ScopeId) :
    t.advance (Clock.sub stop t.now) awaited = { t with now := stop } := by
  have target : Clock.add t.now (Clock.sub stop t.now) = stop := add_sub_cancel t.now stop
  rw [advance_of_no_timers timers, target, Clock.later_eq_max, max_eq_right ahead.le]

namespace Expires

/-- Below a scope that nothing has cancelled but its deadline, only its deadline ends a new one. -/
theorem child (settled : t.forest.Settled) (timers : t.timers = []) (made : p < t.forest.size)
    (uncancelled : t.Uncancelled p) (span : Rat) :
    (t.child p (some span)).2.Expires t.forest.size (t.expiryBelow p span) := by
  have deadline : (t.child p (some span)).2.forest.deadline? t.forest.size =
      some (t.expiryBelow p span) := by
    rw [Extends.deadline?_child settled made, if_pos rfl, expiryBelow]
    cases t.forest.deadline? p with
    | none => rfl
    | some above => exact congrArg some (Clock.earlier_eq_min ..)
  refine ⟨Forest.formed_child settled t.now (some span) made, timers, deadline, ?_⟩
  intro known cancelled
  have above : (t.isCancelled p).2.forest.cause? p = some known :=
    (Forest.cause?_child_new (some span) settled made).symm.trans cancelled
  rw [uncancelled.cause?_isCancelled settled] at above
  split at above
  · rename_i expired
    refine ⟨(Option.some.inj above).symm, (Forest.isExpired_iff ..).mpr ⟨_, deadline, ?_⟩⟩
    obtain ⟨d, here, passed⟩ := (Forest.isExpired_iff ..).mp expired
    have earlier : t.expiryBelow p span ≤ d := by
      rw [expiryBelow, here]
      exact min_le_left d _
    exact Clock.le_iff.mpr (earlier.trans (Clock.le_iff.mp passed))
  · cases above

variable (e : t.Expires s last)
include e

/-- A scope has expired from its deadline on. -/
theorem isExpired_iff : t.forest.isExpired t.now s = true ↔ last ≤ t.now := by
  simp only [Forest.isExpired, e.deadline_eq, Option.elim_some, Clock.le_iff]

/-- A scope that nothing has cancelled answers that it is, from its deadline on. -/
theorem asked_iff : (t.isCancelled s).1 = true ↔ last ≤ t.now := by
  refine (Forest.fst_isCancelled ..).trans ⟨?_, fun passed => .inr (e.isExpired_iff.mpr passed)⟩
  rintro (cancelled | expired)
  · obtain ⟨known, cancelled⟩ := Option.isSome_iff_exists.mp cancelled
    exact e.isExpired_iff.mp (e.uncancelled known cancelled).2
  · exact e.isExpired_iff.mp expired

theorem not_asked (ahead : t.now < last) : (t.isCancelled s).1 = false :=
  Bool.eq_false_iff.mpr fun asked => not_le_of_gt ahead (e.asked_iff.mp asked)

/-- As time goes on, it stays so. -/
theorem later {now : Rat} (forward : t.now ≤ now) : Expires s last { t with now } := by
  refine { e with uncancelled := fun known cancelled => ?_ }
  obtain ⟨cause, expired⟩ := e.uncancelled known cancelled
  have passed : last ≤ now := (e.isExpired_iff.mp expired).trans forward
  exact ⟨cause, (Forest.isExpired_iff ..).mpr ⟨last, e.deadline_eq, Clock.le_iff.mpr passed⟩⟩

theorem no_timer (timer : Timer Rat) (set : timer ∈ t.timers) : t.now < timer.due := by
  rw [e.timers] at set
  cases set

/-! ### A wait for such a scope -/

/-- A wait that blocks goes to the end of its time or to the deadline, and looks again. -/
theorem wait_of_waits {wake : Wake} {t' : Timeline Rat} (ahead : t.now < last) (long : 0 < span)
    (waits : Waits s (some (t.now + span)) 0 { t with now := min (t.now + span) last } wake t') :
    t.wait s (some span) = (wake, t') := by
  have later : t.now < t.now + span := lt_add_of_pos_right t.now long
  have next : Clock.earliest? (some (t.now + span)) (t.forest.deadline? s) =
      some (min (t.now + span) last) := by
    rw [e.deadline_eq]
    exact congrArg some (Clock.earlier_eq_min ..)
  refine waitUntil_of_waits (n := 1) ?_ (by decide)
  refine .limited (isCancelled_of_live (e.not_asked ahead)) ?_ next ?_
  · exact decide_eq_false (not_le_of_gt later)
  · rwa [advance_to e.timers (lt_min later ahead)]

/-- A wait that is over before the deadline takes its time. -/
theorem wait_of_lt (soon : t.now + max 0 span < last) :
    t.wait s (some span) = (.elapsed, { t with now := t.now + max 0 span }) := by
  have forward : t.now ≤ t.now + max 0 span := le_add_of_nonneg_right (le_max_left 0 span)
  have ahead : t.now < last := forward.trans_lt soon
  rcases le_or_gt span 0 with short | long
  · rw [max_eq_left short, add_zero]
    exact waitUntil_of_waits (waits_of_no_time (e.not_asked ahead) e.no_timer short).1 (by decide)
  · rw [max_eq_right long.le] at soon forward ⊢
    refine e.wait_of_waits ahead long ?_
    rw [min_eq_left soon.le]
    exact .elapsed (isCancelled_of_live ((e.later forward).not_asked soon)) (Clock.le_iff.mpr le_rfl)

/-- Any other finds the scope expired, at the deadline if that is still ahead. -/
theorem wait_of_le (late : last ≤ t.now + max 0 span) :
    t.wait s (some span) = (.cancelled, t.overdue s last) := by
  rcases le_or_gt last t.now with passed | ahead
  · rw [overdue, max_eq_left passed]
    exact waitUntil_of_waits (waits_of_asked e.no_timer (e.asked_iff.mpr passed) _).1 (by decide)
  · have long : 0 < span := by
      by_contra short
      rw [max_eq_left (le_of_not_gt short), add_zero] at late
      exact not_le_of_gt ahead late
    rw [max_eq_right long.le] at late
    refine e.wait_of_waits ahead long ?_
    rw [min_eq_right late, overdue, max_eq_right ahead.le]
    exact .cancelled (Prod.ext ((e.later ahead.le).asked_iff.mpr le_rfl) rfl)

/-- Whoever asks then is told that the deadline has passed. -/
theorem error_overdue :
    (t.overdue s last).error s = (some .deadlineExceeded, t.overdue s last) := by
  have e := e.later (le_max_left t.now last)
  have cause := e.uncancelled.cause?_isCancelled e.settled
  rw [if_pos (e.isExpired_iff.mpr (le_max_right t.now last))] at cause
  have known : ((t.overdue s last).forest.cause? s).isSome :=
    Option.isSome_iff_exists.mpr ⟨_, cause⟩
  refine Prod.ext (fst_error_of_cause? cause) ?_
  rw [error_snd, asked_of_known known]

end Expires

end Timeline

/-! ### Sleeps toward the deadline -/

namespace World

open Probe (naps)
open Timeline (Expires)

variable {w : World Rat} {s : ScopeId} {last span : Rat} {spans : List Rat} {next : Probe Rat}
  (setting : Setting Rat)

/-- A sleep that ends before the deadline takes its whole time. -/
theorem runProbe_sleep_of_lt (e : w.line.Expires s last) (soon : w.line.now + max 0 span < last) :
    runProbe setting s (.sleep 0 (some span) next) [] w = runProbe setting s next []
      { w with line := { w.line with now := w.line.now + max 0 span } } := by
  simp only [Probe.sleep, runProbe, scopeOf_nil, e.wait_of_lt soon, Bool.false_eq_true, if_false]

/-- A sleep that reaches the deadline ends there, with the fault of the deadline. -/
theorem runProbe_sleep_of_le (e : w.line.Expires s last) (late : last ≤ w.line.now + max 0 span) :
    runProbe setting s (.sleep 0 (some span) next) [] w =
      (.raised Fault.deadlineExceeded.fresh, { w with line := w.line.overdue s last }) := by
  simp only [Probe.sleep, Probe.check, runProbe, scopeOf_nil, e.wait_of_le late, e.error_overdue,
    if_true]

/-- Sleeps that are over before the deadline take their time, and the probe goes on. -/
theorem runProbe_naps_of_lt (e : w.line.Expires s last) (soon : w.line.now + slept spans < last) :
    runProbe setting s (naps spans next) [] w = runProbe setting s next []
      { w with line := { w.line with now := w.line.now + slept spans } } := by
  induction spans generalizing w with
  | nil => simp [naps, slept]
  | cons span rest ih =>
      rw [slept_cons, ← add_assoc] at soon ⊢
      have first : w.line.now + max 0 span < last :=
        (le_add_of_nonneg_right (slept_nonneg rest)).trans_lt soon
      have forward := le_add_of_nonneg_right (a := w.line.now) (le_max_left 0 span)
      exact (runProbe_sleep_of_lt setting e first).trans (ih (e.later forward) soon)

/-- Of others one reaches the deadline and raises, whatever was to come after it. -/
theorem runProbe_naps_of_le (e : w.line.Expires s last) (some : spans ≠ [])
    (late : last ≤ w.line.now + slept spans) : runProbe setting s (naps spans next) [] w =
      (.raised Fault.deadlineExceeded.fresh, { w with line := w.line.overdue s last }) := by
  induction spans generalizing w with
  | nil => exact absurd rfl some
  | cons span rest ih =>
      rcases le_or_gt last (w.line.now + max 0 span) with reached | soon
      · exact runProbe_sleep_of_le setting e reached
      · have forward := le_add_of_nonneg_right (a := w.line.now) (le_max_left 0 span)
        rw [slept_cons, ← add_assoc] at late
        have more : rest ≠ [] := by
          rintro rfl
          exact not_le_of_gt soon (late.trans_eq (add_zero _))
        let woken : World Rat := { w with line := { w.line with now := w.line.now + max 0 span } }
        calc runProbe setting s (naps (span :: rest) next) [] w
          _ = runProbe setting s (naps rest next) [] woken := runProbe_sleep_of_lt setting e soon
          _ = (.raised Fault.deadlineExceeded.fresh,
                { woken with line := woken.line.overdue s last }) := ih (e.later forward) more late
          _ = (.raised Fault.deadlineExceeded.fresh, { w with line := w.line.overdue s last }) := by
            rw [Timeline.overdue_later (forward.trans soon.le) soon.le]

end World

/-! ### The record -/

namespace Runner

open Probe (naps)

variable {r : Runner Rat Rat} {limit : Rat} {w : World Rat} {c : ScopeId} {spans : List Rat}
  {value copied : Value}

/-- Where two probes come to the same, so do the runs of their entries. -/
theorem executeIn_congr {τ σ : Type} [Clock τ] {setting : World.Setting τ} {r : Runner τ σ}
    {limit : τ} {entry : Entry τ} {c : ScopeId} {w : World τ} {p q : Probe τ}
    (deadline : r.timeout.seconds? = .ok limit)
    (same : probeRun setting r limit { entry with probe := p } c w =
      probeRun setting r limit { entry with probe := q } c w) :
    executeIn setting r { entry with probe := p } c w =
      executeIn setting r { entry with probe := q } c w := by
  unfold probeRun at same
  simp only [executeIn, deadline, same]

/-- What a record shows of a probe that was told that the deadline has passed. -/
theorem Verdict.shown?_deadlineExceeded :
    (ofOutcome (.raised Fault.deadlineExceeded.fresh)).shown? = some ("deadline exceeded", none) :=
  rfl

/-- In exact time the record of a check bears the time at which its probe ended. -/
theorem runOne_of_probeRun (stamps : ∀ now, r.stamp now = .ok now)
    (deadline : r.timeout.seconds? = .ok limit) {services : Array (Service Rat Rat)}
    {entry : Entry Rat} {probe : Probe Rat} {w' : World Rat} {outcome : Outcome Value}
    {error : String} {details : Option Value}
    (ran : probeRun (settingOf services entry) r limit { entry with probe } c w = (outcome, w'))
    (shown : (Verdict.ofOutcome outcome).shown? = some (error, details)) :
    (r.runOne services { entry with probe } c w).1 = .returned
      { id := (w.issueId r.ids).1, name := entry.check.name
        description := entry.check.description, category := entry.check.category
        timestamp := w'.line.now, error, details } := by
  change (executeIn (settingOf services entry) r { entry with probe } c w).1 = _
  refine (executeIn_returned_iff deadline).mpr ⟨w'.line.now, error, details, ?_, ?_, rfl⟩
  · rw [ran]
    exact stamps _
  · rw [ran]
    exact shown

section Naps

variable (settled : w.line.forest.Settled) (timers : w.line.timers = [])
  (made : c < w.line.forest.size) (uncancelled : w.line.Uncancelled c)
  (setting : World.Setting Rat) (r : Runner Rat Rat) (limit : Rat) (entry : Entry Rat)
include settled timers made uncancelled

/-- The probe of an entry begins under a scope that only its deadline ends. -/
theorem expires_probeStart :
    (probeStart r limit entry c w).line.Expires (w.line.child c (some limit)).1
      (w.line.expiryBelow c limit) := by
  rw [show (w.line.child c (some limit)).1 = w.line.forest.size from Forest.fst_child ..]
  exact .child settled timers made uncancelled limit

/-- A probe whose sleeps are over before the deadline goes on. -/
theorem probeRun_naps_of_lt (soon : w.line.now + slept spans < w.line.expiryBelow c limit)
    (value : Value) : ∃ w',
      probeRun setting r limit { entry with probe := naps spans (.done value) } c w =
        (.returned value, w') ∧ w'.line.now = w.line.now + slept spans := by
  have begun := expires_probeStart settled timers made uncancelled r limit entry
  exact ⟨_, (probeRun_eq ..).trans (World.runProbe_naps_of_lt setting begun soon), rfl⟩

/-- A probe whose sleeps reach the deadline raises that, whatever was to come after them. -/
theorem probeRun_naps_of_le (any : spans ≠ [])
    (late : w.line.expiryBelow c limit ≤ w.line.now + slept spans) (next : Probe Rat) :
    probeRun setting r limit { entry with probe := naps spans next } c w =
      (.raised Fault.deadlineExceeded.fresh, { probeStart r limit entry c w with
        line := (probeStart r limit entry c w).line.overdue (w.line.child c (some limit)).1
          (w.line.expiryBelow c limit) }) := by
  have begun := expires_probeStart settled timers made uncancelled r limit entry
  exact (probeRun_eq ..).trans (World.runProbe_naps_of_le setting begun any late)

end Naps

/-- A check that sleeps and then returns, run under a caller that nothing has cancelled, where no
timer is set and time is exact. If its sleeps are over before its scope expires, its record shows
what it returned, at the time at which they are over. Otherwise the record shows that the deadline
was exceeded, at the time at which the scope expires or at the start if that is later; and once its
sleeps have reached that time, nothing that was to come makes a difference. -/
theorem naps_return_or_expire (stamps : ∀ now, r.stamp now = .ok now)
    (deadline : r.timeout.seconds? = .ok limit) (reached : w.line.IsReached)
    (timers : w.line.timers = []) (made : c < w.line.forest.size)
    (uncancelled : w.line.Uncancelled c) (any : spans ≠ [])
    (valid : Detail.normalize value = .ok copied) (entry : Entry Rat)
    (services : Array (Service Rat Rat)) :
    let start := w.line.now
    let last := w.line.expiryBelow c limit
    let run (spans : List Rat) (next : Probe Rat) : Outcome (Record Rat) × World Rat :=
      r.runOne services { entry with probe := naps spans next } c w
    let record (timestamp : Rat) (error : String) (details : Option Value) : Record Rat :=
      { id := (w.issueId r.ids).1, name := entry.check.name
        description := entry.check.description, category := entry.check.category
        timestamp, error, details }
    (slept spans < last - start →
      (run spans (.done value)).1 = .returned (record (start + slept spans) "" (some copied))) ∧
    (last - start ≤ slept spans →
      (run spans (.done value)).1 =
        .returned (record (max start last) "deadline exceeded" none) ∧
      ∀ before next, before <+: spans → before ≠ [] → last - start ≤ slept before →
        run before next = run spans (.done value)) := by
  intro start last run record
  have settled := reached.settled
  have reaches {spans : List Rat} (any : spans ≠ []) (late : last - start ≤ slept spans) :=
    probeRun_naps_of_le settled timers made uncancelled (settingOf services entry) r limit entry any
      (sub_le_iff_le_add'.mp late)
  refine ⟨fun soon => ?_, fun late => ⟨?_, fun before next _ any' late' => ?_⟩⟩
  · obtain ⟨w', ran, now⟩ := probeRun_naps_of_lt settled timers made uncancelled
      (settingOf services entry) r limit entry (lt_sub_iff_add_lt'.mp soon) value
    have accepted := Verdict.eq_details_iff.mpr ⟨value, rfl, valid⟩
    exact (runOne_of_probeRun stamps deadline ran (by rw [accepted]; rfl)).trans (by rw [now])
  · exact runOne_of_probeRun stamps deadline (reaches any late _) Verdict.shown?_deadlineExceeded
  · exact executeIn_congr deadline ((reaches any' late' next).trans (reaches any late _).symm)

/-- A caller that will expire in five seconds, below one that does not. -/
def inFiveSeconds : World Rat where
  line := Timeline.play 100 [.child 0 (some 5), .background]

def idler : Entry Rat where
  check := { name := "idler", description := "naps", category := "nap" }
  probe := .done .none

theorem idler_expires_on_the_dot :
    let r : Runner Rat Rat := { timeout := .exact 5, stamp := .ok }
    let run (spans : List Rat) (next : Probe Rat) : Outcome (Record Rat) × World Rat :=
      r.runOne #[] { idler with probe := naps spans next } 1 inFiveSeconds
    (run [2, -1, 3, 0] (.done .none)).1 =
      .returned { id := "id-1", name := "idler", description := "naps", category := "nap"
                  timestamp := 105, error := "deadline exceeded", details := none } ∧
    run [2, -1, 3] (.pass 100 (.fail .tooDeep)) = run [2, -1, 3, 0] (.done .none) := by
  intro r run
  have timers : inFiveSeconds.line.timers = [] := by cbv
  have reached : inFiveSeconds.line.IsReached := by
    refine ⟨100, [.child 0 (some 5), .background], [], ?_, by rw [← timers]; rfl⟩
    simp only [Timeline.Possible, Timeline.Action.scope?, Timeline.Action.childTimeout?,
      Clock.IsTime, Clock.IsSpan, Option.some.injEq, forall_eq', reduceCtorEq, false_implies,
      implies_true, and_true]
    cbv
  have made : 1 < inFiveSeconds.line.forest.size := by cbv
  have live : inFiveSeconds.line.forest.cause? 1 = none := by cbv
  have uncancelled : inFiveSeconds.line.Uncancelled 1 := by
    intro known cancelled
    rw [live] at cancelled
    cases cancelled
  have start : inFiveSeconds.line.now = 100 := by cbv
  have last : inFiveSeconds.line.expiryBelow 1 5 = 105 := by cbv
  have all : slept [2, -1, 3, 0] = 5 := by cbv
  have first : slept [2, -1, 3] = 5 := by cbv
  have any : ([2, -1, 3, 0] : List Rat) ≠ [] := by decide
  obtain ⟨-, expires⟩ := naps_return_or_expire (r := r) (fun _ => rfl) rfl reached timers made
    uncancelled any Detail.normalize_none idler #[]
  rw [start, last, all] at expires
  obtain ⟨returned, skips⟩ := expires (by norm_num)
  rw [max_eq_right (by norm_num)] at returned
  exact ⟨returned, skips [2, -1, 3] _ ⟨[0], rfl⟩ (by decide) (by rw [first]; norm_num)⟩

end Runner

end Checkup
