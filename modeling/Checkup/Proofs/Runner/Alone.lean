import Checkup.Proofs.Runner.Batch
import Checkup.Runner.Job

/-!
A job that makes its steps while no other does.

In virtual time the clock goes on for such a job alone: as far as its probe waits, and no farther
(`whenReady?`). So there is one way for the job to go on (`LeadsTo`), and that comes to what
`executeIn` comes to. Where the clock is free to go on between any two steps, this is one of the
ways (`GoesAlone`).

Main statements: `executeIn_leadsTo` (a job alone executes its entry), `LeadsTo.tail` (there is one
way to go on) and `executeIn_goesAlone`.
-/

namespace Checkup

variable {τ σ : Type} [Clock τ]

/-! ### Time passing -/

namespace Timeline

variable {t t' t'' : Timeline τ} {s : ScopeId}

/-- The clock goes on and timers fire, and nothing else happens. -/
inductive Elapses : Timeline τ → Timeline τ → Prop
  | refl (t : Timeline τ) : Elapses t t
  | later {t t' : Timeline τ} (now : τ) :
      Elapses { t with now := Clock.later t.now now } t' → Elapses t t'
  | fire {t t' : Timeline τ} {limit : Option τ} {timer : Timer τ} {others : List (Timer τ)} :
      takeDue? limit t.timers = some (timer, others) → Elapses (t.fire timer others) t' →
      Elapses t t'

namespace Elapses

theorem trans (first : t.Elapses t') (second : t'.Elapses t'') : t.Elapses t'' := by
  induction first with
  | refl => exact second
  | later now _ ih => exact .later now (ih second)
  | fire found _ ih => exact .fire found (ih second)

theorem fireDue (limit : Option τ) (awaited : Option ScopeId) (t : Timeline τ) :
    t.Elapses (t.fireDue limit awaited).2 := by
  induction t using fireDue.induct limit awaited with
  | case1 t none =>
      rw [fireDue_of_none none]
      exact .refl t
  | case2 t timer others found fired reached =>
      rw [fireDue_of_some found, if_pos reached]
      exact .fire found (.refl _)
  | case3 t timer others found fired unreached ih =>
      rw [fireDue_of_some found, if_neg unreached]
      exact .fire found ih

theorem advance (t : Timeline τ) (span : τ) (awaited : Option ScopeId) :
    t.Elapses (t.advance span awaited) := by
  have fired := fireDue (some (Clock.add t.now span)) awaited t
  unfold Timeline.advance
  simp only
  split
  · rename_i reached
    rwa [reached] at fired
  · rename_i unreached
    rw [unreached] at fired
    exact fired.trans (.later _ (.refl _))

theorem await? (found : t.await? s = some t') : t.Elapses t' := by
  have fired := fireDue none (some s) t
  unfold Timeline.await? at found
  split at found
  · rename_i reached
    cases found
    rwa [reached] at fired
  · cases found

end Elapses

/-- A scope that has been looked at is found as it was. -/
theorem isCancelled_again {cancelled : Bool} (answer : t.isCancelled s = (cancelled, t')) :
    t'.isCancelled s = (cancelled, t') := by
  obtain rfl : t' = (t.isCancelled s).2 := (congrArg Prod.snd answer).symm
  rw [← answer]
  simp only [isCancelled, Forest.isCancelled_isCancelled]

/-- How a wait on a scope ends: time passes, and then the scope is found cancelled, or it is not and
the limit has come. -/
inductive Seen (t : Timeline τ) (s : ScopeId) (limit : Option τ) : Wake → Timeline τ → Prop
  | cancelled {u t' : Timeline τ} : t.Elapses u → u.isCancelled s = (true, t') →
      Seen t s limit .cancelled t'
  | elapsed {t' : Timeline τ} : t.Elapses t' → t'.isCancelled s = (false, t') →
      limit.elim false (fun due => Clock.le due t'.now) = true → Seen t s limit .elapsed t'
  | never (t' : Timeline τ) : Seen t s limit .never t'

theorem Seen.after {limit : Option τ} {wake : Wake} (passes : t.Elapses t')
    (seen : t'.Seen s limit wake t'') : t.Seen s limit wake t'' := by
  cases seen with
  | cancelled goesOn answer => exact .cancelled (passes.trans goesOn) answer
  | elapsed goesOn answer due => exact .elapsed (passes.trans goesOn) answer due
  | never => exact .never _

/-- What a wait comes to somebody sees who looks when the clock is there. -/
theorem seen_waitUntil (s : ScopeId) (limit : Option τ) (rounds : Nat) (t : Timeline τ) :
    t.Seen s limit (waitUntil s limit rounds t).1 (waitUntil s limit rounds t).2 := by
  induction rounds generalizing t with
  | zero => exact .never t
  | succ rounds ih =>
      rw [waitUntil]
      cases live : (t.isCancelled s).1 with
      | true =>
          have answer : t.isCancelled s = (true, (t.isCancelled s).2) := Prod.ext live rfl
          rw [answer]
          exact .cancelled (.refl t) answer
      | false =>
          have answer := isCancelled_of_live live
          rw [answer]
          dsimp only
          split
          · rename_i due
            exact .elapsed (.refl t) answer due
          · split
            · exact .after (.advance ..) (ih _)
            · split
              · rename_i woken
                exact .after (.await? woken) (ih _)
              · exact .never t

end Timeline

/-! ### Jobs in time -/

namespace Job

/-- How time passes until a job makes its next step, if nothing else happens: a wait ends, or what
takes time has taken it. `none` if a wait never ends. -/
def whenReady? (job : Job τ σ) (t : Timeline τ) : Option (Timeline τ) :=
  match job with
  | .waiting _ s until_ _ =>
    match Timeline.waitUntil s until_ Timeline.waitRounds t with
    | (.never, _) => none
    | (_, t) => some t
  | .acting _ (.pass span _) => some (t.advance span)
  | _ => some t

/-- A job makes steps in virtual time, and no other job makes any. -/
inductive LeadsTo (setting : World.Setting τ) (r : Runner τ σ) (entry : Entry τ)
    (scope : ScopeId) : Job τ σ → World τ → Job τ σ → World τ → Prop
  | refl (job : Job τ σ) (w : World τ) : LeadsTo setting r entry scope job w job w
  | step {job job' job'' : Job τ σ} {w w' w'' : World τ} {t : Timeline τ} :
      job.whenReady? w.line = some t →
      job.step setting r entry scope { w with line := t } = some (job', w') →
      LeadsTo setting r entry scope job' w' job'' w'' →
      LeadsTo setting r entry scope job w job'' w''

/-- A job makes steps, and time passes between them, but no other job makes any. -/
inductive GoesAlone (setting : World.Setting τ) (r : Runner τ σ) (entry : Entry τ)
    (scope : ScopeId) : Job τ σ → World τ → Job τ σ → World τ → Prop
  | refl (job : Job τ σ) (w : World τ) : GoesAlone setting r entry scope job w job w
  | step {job job' job'' : Job τ σ} {w w' w'' : World τ} :
      job.step setting r entry scope w = some (job', w') →
      GoesAlone setting r entry scope job' w' job'' w'' →
      GoesAlone setting r entry scope job w job'' w''
  | elapse {job job' : Job τ σ} {w w' : World τ} {t : Timeline τ} : w.line.Elapses t →
      GoesAlone setting r entry scope job { w with line := t } job' w' →
      GoesAlone setting r entry scope job w job' w'

variable {setting : World.Setting τ} {r : Runner τ σ} {entry : Entry τ} {scope : ScopeId}
  {job job' job'' : Job τ σ} {w w' w'' : World τ} {frame : Frame τ} {t : Timeline τ}

/-- Where a job makes its next step in virtual time, it makes it after some time has passed. -/
theorem exists_elapses (ready : job.whenReady? w.line = some t)
    (makes : job.step setting r entry scope { w with line := t } = some (job', w')) :
    ∃ u, w.line.Elapses u ∧ job.step setting r entry scope { w with line := u } =
      some (job', w') := by
  have now (same : some w.line = some t) : ∃ u, w.line.Elapses u ∧
      job.step setting r entry scope { w with line := u } = some (job', w') := by
    obtain rfl := Option.some.inj same
    exact ⟨w.line, .refl _, makes⟩
  cases job with
  | waiting frame s until_ next =>
      have seen := Timeline.seen_waitUntil s until_ Timeline.waitRounds w.line
      simp only [whenReady?] at ready
      cases waits : Timeline.waitUntil s until_ Timeline.waitRounds w.line with
      | mk wake t' =>
          rw [waits] at ready seen
          cases seen with
          | @cancelled u _ passes answer =>
              cases ready
              refine ⟨u, passes, ?_⟩
              rw [← makes]
              simp only [step, answer, Timeline.isCancelled_again answer]
          | elapsed passes =>
              cases ready
              exact ⟨t, passes, makes⟩
          | never => cases ready
  | acting frame probe =>
      cases probe with
      | pass span next =>
          cases ready
          exact ⟨_, .advance w.line span none, makes⟩
      | _ => exact now ready
  | _ => exact now ready

namespace LeadsTo

theorem trans (first : LeadsTo setting r entry scope job w job' w')
    (second : LeadsTo setting r entry scope job' w' job'' w'') :
    LeadsTo setting r entry scope job w job'' w'' := by
  induction first with
  | refl => exact second
  | step ready makes _ ih => exact .step ready makes (ih second)

/-- A job that has ended stays as it is. -/
theorem eq_of_ended {result : Except Fault (Record σ)}
    (leads : LeadsTo setting r entry scope (.ended result) w job' w') :
    job' = .ended result ∧ w' = w := by
  cases leads with
  | refl => exact ⟨rfl, rfl⟩
  | step _ makes => cases makes

/-- There is one way for a job to go on, so that from each step it still leads to its end. -/
theorem tail {result : Except Fault (Record σ)}
    (leads : LeadsTo setting r entry scope job w (.ended result) w'')
    (ready : job.whenReady? w.line = some t)
    (makes : job.step setting r entry scope { w with line := t } = some (job', w')) :
    LeadsTo setting r entry scope job' w' (.ended result) w'' := by
  cases leads with
  | refl => cases makes
  | step ready' makes' rest =>
      obtain rfl := Option.some.inj (ready.symm.trans ready')
      cases makes.symm.trans makes'
      exact rest

/-- Unless it has ended, a job that leads to its end makes a step. -/
theorem exists_step {result : Except Fault (Record σ)}
    (leads : LeadsTo setting r entry scope job w (.ended result) w'')
    (unfinished : ∀ result, job ≠ .ended result) : ∃ t job' w',
      job.whenReady? w.line = some t ∧
        job.step setting r entry scope { w with line := t } = some (job', w') := by
  cases leads with
  | refl => exact absurd rfl (unfinished result)
  | step ready makes => exact ⟨_, _, _, ready, makes⟩

/-- What a job leads to is what it comes to alone, as time goes on in between. -/
theorem goesAlone (leads : LeadsTo setting r entry scope job w job' w') :
    GoesAlone setting r entry scope job w job' w' := by
  induction leads with
  | refl => exact .refl ..
  | step ready makes _ ih =>
      obtain ⟨u, passes, makes⟩ := exists_elapses ready makes
      exact .elapse passes (.step makes ih)

end LeadsTo

/-! ### A job alone -/

/-- A job alone comes to what a probe came to with the scopes of a frame, and some derived from
them. -/
def ComesTo (setting : World.Setting τ) (r : Runner τ σ) (entry : Entry τ) (scope : ScopeId)
    (job : Job τ σ) (w : World τ) (frame : Frame τ) (ended : Outcome Value × World τ) : Prop :=
  ∃ derived, ∀ job' w', judge entry.check { frame with derived } ended.1 ended.2 = some (job', w') →
    LeadsTo setting r entry scope job w job' w'

namespace ComesTo

variable {ended : Outcome Value × World τ}

theorem step (ready : job.whenReady? w.line = some t)
    (makes : job.step setting r entry scope { w with line := t } = some (job', w'))
    (rest : ComesTo setting r entry scope job' w' frame ended) :
    ComesTo setting r entry scope job w frame ended := by
  obtain ⟨derived, leads⟩ := rest
  exact ⟨derived, fun _ _ judged => .step ready makes (leads _ _ judged)⟩

/-- A step for which no time passes. -/
theorem now (ready : job.whenReady? w.line = some w.line)
    (makes : job.step setting r entry scope w = some (job', w'))
    (rest : ComesTo setting r entry scope job' w' frame ended) :
    ComesTo setting r entry scope job w frame ended :=
  step ready makes rest

/-- Scopes that were derived before make no difference. -/
theorem of_derived {derived : List ScopeId}
    (rest : ComesTo setting r entry scope job w { frame with derived } ended) :
    ComesTo setting r entry scope job w frame ended :=
  rest

/-- What never ends comes to nothing. -/
theorem of_stalled : ComesTo setting r entry scope job w frame (.stalled, w') := by
  refine ⟨[], fun job'' w'' judged => ?_⟩
  simp only [judge, Runner.Verdict.ofOutcome, reduceCtorEq] at judged

end ComesTo

/-- A job alone does in its probe what is done at once. -/
theorem runProbe_leadsTo (probe : Probe τ) (frame : Frame τ) (w : World τ) :
    ComesTo setting r entry scope (.acting frame probe) w frame
      (World.runProbe setting frame.own probe frame.derived w) := by
  induction probe generalizing frame w with
  | done value => exact ⟨frame.derived, fun job' w' judged => .step rfl judged (.refl ..)⟩
  | fail fault => exact ⟨frame.derived, fun job' w' judged => .step rfl judged (.refl ..)⟩
  | isCancelled h next ih => exact .now rfl rfl (ih _ _ _)
  | error h next ih => exact .now rfl rfl (ih _ _ _)
  | remaining h next ih => exact .now rfl rfl (ih _ _ _)
  | wait h timeout next ih =>
      let s := frame.scopeOf h
      have seen : w.line.Seen s (timeout.map (Clock.add w.line.now)) (w.line.wait s timeout).1
          (w.line.wait s timeout).2 :=
        Timeline.seen_waitUntil ..
      apply ComesTo.now rfl rfl
      simp only [World.runProbe, show World.scopeOf frame.own frame.derived h = s from rfl]
      cases waits : w.line.wait s timeout with
      | mk wake t =>
          have waited : Timeline.waitUntil s (timeout.map (Clock.add w.line.now))
              Timeline.waitRounds w.line = (wake, t) := waits
          rw [waits] at seen
          cases seen with
          | cancelled passes answer =>
              refine .step (t := t) ?_ ?_ (ih true frame _)
              · simp only [whenReady?, show frame.scopeOf h = s from rfl, waited]
              · simp only [Job.step, show frame.scopeOf h = s from rfl,
                  Timeline.isCancelled_again answer]
          | elapsed passes answer due =>
              refine .step (t := t) ?_ ?_ (ih false frame _)
              · simp only [whenReady?, show frame.scopeOf h = s from rfl, waited]
              · simp only [Job.step, show frame.scopeOf h = s from rfl, answer, due, if_true]
          | never => exact .of_stalled
  | derive h timeout next ih =>
      have makes : Job.step setting r entry scope (.acting frame (.derive h timeout next)) w =
        some (.acting { frame with
          derived := frame.derived ++ [(w.line.child (frame.scopeOf h) timeout).1] } next,
          { w with line := (w.line.child (frame.scopeOf h) timeout).2 }) := rfl
      exact .now rfl makes (.of_derived (ih _ _))
  | close h next ih => exact .now rfl rfl (ih _ _)
  | cancel h cause next ih => exact .now rfl rfl (ih _ _)
  | knows name next ih => exact .now rfl rfl (ih _ _ _)
  | cancelNamed name cause next ih => exact .now rfl rfl (ih _ _)
  | clock next ih => exact .now rfl rfl (ih _ _ _)
  | pass span next ih => exact .step rfl rfl (ih _ _)
  | total next ih => exact .now rfl rfl (ih _ _ _)
  | register check probe next _ ih =>
      simp only [World.runProbe]
      cases answer : w.register setting.store { check, probe, service := setting.service } with
      | ok w' =>
          refine .now rfl ?_ (ih none frame w')
          simp only [Job.step, act, answer]
      | error fault =>
          refine .now rfl ?_ (ih (some fault) frame w)
          simp only [Job.step, act, answer]
  | unregister category name next ih => exact .now rfl rfl (ih _ _ _)
  | clear next ih => exact .now rfl rfl (ih _ _)
  | runCheck category name under next ih =>
      simp only [World.runProbe]
      cases answer : setting.runCheck category name
          (under.map (World.scopeOf frame.own frame.derived)) w with
      | mk outcome w' =>
          have here : setting.runCheck category name (under.map frame.scopeOf) w = (outcome, w') :=
            answer
          cases outcome with
          | returned summary =>
              refine .now rfl ?_ (ih (.ok summary) frame w')
              simp only [Job.step, act, here]
          | raised fault =>
              refine .now rfl ?_ (ih (.error fault) frame w')
              simp only [Job.step, act, here]
          | stalled => exact .of_stalled
  | host next ih => exact .now rfl rfl (ih _ _ _)

/-- A job alone takes the time stamp and closes up as it is done at once. -/
theorem conclude_leadsTo (setting : World.Setting τ) (r : Runner τ σ) (entry : Entry τ)
    (scope : ScopeId) (frame : Frame τ) (error : String) (details : Option Value) (w : World τ) :
    let ended := r.conclude entry.check frame.id frame.start frame.limit frame.own error details w
    ∃ result, ended.1 = .ofExcept result ∧
      LeadsTo setting r entry scope (.judged frame error details) w (.ended result) ended.2 := by
  intro ended
  cases stamped : r.stamp w.line.now with
  | error fault =>
      have ends : ended = Runner.abandon w frame.own fault := by
        simp only [ended, Runner.conclude, stamped]
      rw [ends]
      refine ⟨.error fault, rfl, .step rfl ?_ (.refl ..)⟩
      simp only [step, stamped, Runner.abandon]
  | ok timestamp =>
      have takes : step setting r entry scope (.judged frame error details) w =
          some (.stamped frame timestamp error details, w) := by
        simp only [step, stamped]
      simp only [ended, Runner.conclude, stamped]
      exact ⟨.ok _, rfl, .step rfl takes (.step rfl rfl (.refl ..))⟩

/-- What an execution keeps from when its probe begins. -/
def begun (r : Runner τ σ) (limit : τ) (scope : ScopeId) (w : World τ) : Frame τ where
  id := (w.issueId r.ids).1
  start := w.line.now
  limit := limit
  own := (w.line.child scope (some limit)).1

/-- From when its probe begins, a job alone does what the execution of its entry does at once. -/
theorem executeIn_of_begun {limit : τ} (deadline : r.timeout.seconds? = .ok limit)
    (setting : World.Setting τ) (entry : Entry τ) (scope : ScopeId) (w : World τ)
    (ends : (r.executeIn setting entry scope w).1 ≠ .stalled) :
    ∃ result, (r.executeIn setting entry scope w).1 = .ofExcept result ∧
      LeadsTo setting r entry scope (.acting (begun r limit scope w) entry.probe)
        (r.probeStart limit entry scope w) (.ended result)
        (r.executeIn setting entry scope w).2 := by
  let frame := begun r limit scope w
  let probed := World.runProbe setting frame.own entry.probe [] (r.probeStart limit entry scope w)
  obtain ⟨derived, leads⟩ : ComesTo setting r entry scope (.acting frame entry.probe)
      (r.probeStart limit entry scope w) frame probed :=
    runProbe_leadsTo entry.probe frame (r.probeStart limit entry scope w)
  have line : ((w.issueId r.ids).2.note (.running entry.check.key)).line = w.line :=
    World.line_issueId ..
  have probes : World.runProbe setting (w.line.child scope (some limit)).1 entry.probe []
      { (w.issueId r.ids).2.note (.running entry.check.key) with
        line := (w.line.child scope (some limit)).2 } = probed := rfl
  simp only [Runner.executeIn, deadline, line, probes] at ends ⊢
  cases verdict : Runner.Verdict.ofOutcome probed.1 with
  | details value =>
      obtain ⟨result, comes, concludes⟩ := conclude_leadsTo setting r entry scope
        { frame with derived } "" (some value) probed.2
      refine ⟨result, comes, (leads _ _ ?_).trans concludes⟩
      simp only [judge, verdict]
  | failure fault =>
      obtain ⟨result, comes, concludes⟩ := conclude_leadsTo setting r entry scope
        { frame with derived } fault.failureText none
        (probed.2.note (.failed entry.check.key fault.failureText))
      refine ⟨result, comes, (leads _ _ ?_).trans concludes⟩
      simp only [judge, verdict]
  | escape fault =>
      refine ⟨.error fault, rfl, leads _ _ ?_⟩
      simp only [judge, verdict, Runner.abandon]
      rfl
  | stalled =>
      simp only [verdict] at ends
      exact absurd rfl ends

/-- A job alone does what the execution of its entry does at once. -/
theorem executeIn_leadsTo (setting : World.Setting τ) (r : Runner τ σ) (entry : Entry τ)
    (scope : ScopeId) (w : World τ) (ends : (r.executeIn setting entry scope w).1 ≠ .stalled) :
    ∃ result, (r.executeIn setting entry scope w).1 = .ofExcept result ∧
      LeadsTo setting r entry scope .fresh w (.ended result)
        (r.executeIn setting entry scope w).2 := by
  cases deadline : r.timeout.seconds? with
  | error fault =>
      have makes : step setting r entry scope .fresh w =
          some (.ended (.error fault), (w.issueId r.ids).2.note (.running entry.check.key)) := by
        simp only [step, deadline]
      simp only [Runner.executeIn, deadline]
      exact ⟨.error fault, rfl, .step rfl makes (.refl ..)⟩
  | ok limit =>
      have line : ((w.issueId r.ids).2.note (.running entry.check.key)).line = w.line :=
        World.line_issueId ..
      have begins : step setting r entry scope .fresh w = some
          (.entering (w.issueId r.ids).1 w.line.now limit,
            (w.issueId r.ids).2.note (.running entry.check.key)) := by
        simp only [step, deadline, line]
      have enters : step setting r entry scope (.entering (w.issueId r.ids).1 w.line.now limit)
          ((w.issueId r.ids).2.note (.running entry.check.key)) =
            some (.acting (begun r limit scope w) entry.probe,
              r.probeStart limit entry scope w) := by
        simp only [step, line]
        rfl
      obtain ⟨result, comes, leads⟩ := executeIn_of_begun deadline setting entry scope w ends
      exact ⟨result, comes, .step rfl begins (.step rfl enters leads)⟩

/-- So it does where the clock is free to go on between any two of its steps. -/
theorem executeIn_goesAlone (setting : World.Setting τ) (r : Runner τ σ) (entry : Entry τ)
    (scope : ScopeId) (w : World τ) (ends : (r.executeIn setting entry scope w).1 ≠ .stalled) :
    ∃ result, (r.executeIn setting entry scope w).1 = .ofExcept result ∧
      GoesAlone setting r entry scope .fresh w (.ended result)
        (r.executeIn setting entry scope w).2 := by
  obtain ⟨result, comes, leads⟩ := executeIn_leadsTo setting r entry scope w ends
  exact ⟨result, comes, leads.goesAlone⟩

end Job

end Checkup
