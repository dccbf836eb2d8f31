import Checkup.Runner

/-!
The execution of an entry, step by step.

`Runner.executeIn` runs an entry while nothing else happens. A job does the same one use of the
world at a time, so that others may be at work between any two of its steps. Only a check that its
probe runs is run in one step.

Time passes between steps and not in them: what takes time without looking at a scope is a step that
changes nothing, and a wait ends with a step that cannot be made until its scope is cancelled or its
time has come.
-/

namespace Checkup

/-- What an execution keeps once its probe has a scope: the id of its record, when it began, how
long it may take, and the scope with those that were derived from it. -/
structure Frame (τ : Type) where
  id : String
  start : τ
  limit : τ
  own : ScopeId
  derived : List ScopeId := []

/-- How far the execution of an entry is. -/
inductive Job (τ σ : Type) where
  /-- About to take an id. -/
  | fresh
  /-- About to make the scope of the probe. -/
  | entering (id : String) (start limit : τ)
  /-- About to do what comes next in the probe. -/
  | acting (frame : Frame τ) (probe : Probe τ)
  /-- The probe waits for a scope to be cancelled, or for a time. -/
  | waiting (frame : Frame τ) (scope : ScopeId) (until_ : Option τ) (next : Bool → Probe τ)
  /-- The probe has ended, with what its record shows. -/
  | judged (frame : Frame τ) (error : String) (details : Option Value)
  /-- The time stamp is taken, and the scope of the probe is still open. -/
  | stamped (frame : Frame τ) (timestamp : σ) (error : String) (details : Option Value)
  | ended (result : Except Fault (Record σ))

variable {τ σ : Type} [Clock τ]

def Frame.scopeOf (frame : Frame τ) (h : Handle) : ScopeId :=
  World.scopeOf frame.own frame.derived h

namespace Job

/-- What follows once a probe has ended. A fault that is not ordinary is not caught, but the scope
of the probe is closed. -/
def judge (check : Check) (frame : Frame τ) (outcome : Outcome Value) (w : World τ) :
    Option (Job τ σ × World τ) :=
  match Runner.Verdict.ofOutcome outcome with
  | .details value => some (.judged frame "" (some value), w)
  | .failure fault =>
    let error := fault.failureText
    some (.judged frame error none, w.note (.failed check.key error))
  | .escape fault => some (.ended (.error fault), { w with line := w.line.close frame.own })
  | .stalled => none

/-- Does what comes next in a probe. -/
def act (setting : World.Setting τ) (check : Check) (frame : Frame τ) :
    Probe τ → World τ → Option (Job τ σ × World τ)
  | .done value, w => judge check frame (.returned value) w
  | .fail fault, w => judge check frame (.raised fault) w
  | .isCancelled h next, w =>
    let (cancelled, line) := w.line.isCancelled (frame.scopeOf h)
    some (.acting frame (next cancelled), { w with line })
  | .error h next, w =>
    let (cause, line) := w.line.error (frame.scopeOf h)
    some (.acting frame (next cause), { w with line })
  | .remaining h next, w => some (.acting frame (next (w.line.remaining (frame.scopeOf h))), w)
  | .wait h timeout next, w =>
    some (.waiting frame (frame.scopeOf h) (timeout.map (Clock.add w.line.now)) next, w)
  | .derive h timeout next, w =>
    let (s, line) := w.line.child (frame.scopeOf h) timeout
    some (.acting { frame with derived := frame.derived ++ [s] } next, { w with line })
  | .close h next, w =>
    some (.acting frame next, { w with line := w.line.close (frame.scopeOf h) })
  | .cancel h cause next, w =>
    some (.acting frame next, { w with line := w.line.cancel (frame.scopeOf h) cause })
  | .knows scope next, w => some (.acting frame (next (Ordered.has w.names scope)), w)
  | .cancelNamed scope cause next, w =>
    some (.acting frame next,
      match Ordered.get? scope w.names with
      | some s => { w with line := w.line.cancel s cause }
      | none => w)
  | .clock next, w => some (.acting frame (next w.line.now), w)
  | .pass _ next, w => some (.acting frame next, w)
  | .total next, w => some (.acting frame (next (w.store setting.store).total), w)
  | .register check probe next, w =>
    match w.register setting.store { check, probe, service := setting.service } with
    | .ok w => some (.acting frame (next none), w)
    | .error f => some (.acting frame (next (some f)), w)
  | .unregister category name next, w =>
    let (removed, w) := w.unregister setting.store category name
    some (.acting frame (next removed), w)
  | .clear next, w =>
    some (.acting frame next, w.setStore setting.store (w.store setting.store).clear)
  | .runCheck category name scope next, w =>
    match setting.runCheck category name (scope.map frame.scopeOf) w with
    | (.returned summary, w) => some (.acting frame (next (.ok summary)), w)
    | (.raised fault, w) => some (.acting frame (next (.error fault)), w)
    | (.stalled, _) => none
  | .host next, w => some (.acting frame (next w.host), w)

/-- The next step of the execution of an entry under a scope; `none` if it cannot be made. -/
def step (setting : World.Setting τ) (r : Runner τ σ) (entry : Entry τ) (scope : ScopeId) :
    Job τ σ → World τ → Option (Job τ σ × World τ)
  | .fresh, w =>
    let (id, w) := w.issueId r.ids
    let w := w.note (.running entry.check.key)
    match r.timeout.seconds? with
    | .error fault => some (.ended (.error fault), w)
    | .ok limit => some (.entering id w.line.now limit, w)
  | .entering id start limit, w =>
    let (own, line) := w.line.child scope (some limit)
    some (.acting { id, start, limit, own } entry.probe, { w with line })
  | .acting frame probe, w => act setting entry.check frame probe w
  | .waiting frame s until_ next, w =>
    match w.line.isCancelled s with
    | (true, line) => some (.acting frame (next true), { w with line })
    | (false, _) =>
      if until_.elim false fun limit => Clock.le limit w.line.now then
        some (.acting frame (next false), w)
      else none
  | .judged frame error details, w =>
    match r.stamp w.line.now with
    | .error fault => some (.ended (.error fault), { w with line := w.line.close frame.own })
    | .ok timestamp => some (.stamped frame timestamp error details, w)
  | .stamped frame timestamp error details, w =>
    let check := entry.check
    let w := { w with line := w.line.close frame.own }
    let elapsed := Clock.sub w.line.now frame.start
    let w := if r.timeout.exceededBy elapsed then
        w.note (.overran check.key (Clock.sub elapsed frame.limit) r.timeout)
      else w
    some (.ended (.ok
      { id := frame.id, name := check.name, description := check.description
        category := check.category, timestamp, error, details }),
      w.note (.finished check.key elapsed))
  | .ended _, _ => none

end Job

end Checkup
