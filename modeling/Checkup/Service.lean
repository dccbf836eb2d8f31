import Checkup.Runner

/-!
The service: register checks, and run all of them, those of a category, or a single one.

A run works on the entries registered when it starts; what is registered or taken away meanwhile
shows in the next one. Without a caller's scope it uses a fresh one that nothing is above.
-/

namespace Checkup.Service

variable {τ σ : Type}

/-! ### Registering -/

/-- Registers a check with its probe. -/
def register (s : Service τ σ) (entry : Entry τ) (w : World τ) : Outcome Unit × World τ :=
  match w.register s.store entry with
  | .ok w => (.returned (), w)
  | .error fault => (.raised fault, w)

/-- Takes a check away; says whether there was one. -/
def unregister (s : Service τ σ) (category name : String) (w : World τ) : Bool × World τ :=
  w.unregister s.store category name

def checks (s : Service τ σ) (w : World τ) : List Check := (w.store s.store).all.map Entry.check

def total (s : Service τ σ) (w : World τ) : Nat := (w.store s.store).total

/-! ### Running -/

variable [Clock τ]

/-- The given scope, or a fresh one. -/
def scopeOr (scope : Option ScopeId) (w : World τ) : ScopeId × World τ :=
  match scope with
  | some s => (s, w)
  | none =>
    let (s, line) := w.line.background
    (s, { w with line })

/-- Runs entries as a batch with a label, and notes its start and its end. -/
def runBatch (services : Array (Service τ σ)) (s : Service τ σ) (label : String)
    (entries : List (Entry τ)) (scope : Option ScopeId) (w : World τ) :
    Outcome (List (Record σ)) × World τ :=
  let (caller, w) := scopeOr scope w
  let w := w.note (.batchStarted entries.length label)
  let start := w.line.now
  match s.runner.runAll services entries caller w with
  | (.returned records, w) =>
    let failures := (records.filter Record.failed).length
    (.returned records, w.note (.batchFinished records.length label
      (Clock.sub w.line.now start) failures))
  | (other, w) => (other, w)

def run (services : Array (Service τ σ)) (s : Service τ σ) (scope : Option ScopeId)
    (w : World τ) : Outcome (List (Record σ)) × World τ :=
  s.runBatch services "all" (w.store s.store).all scope w

/-- Runs the checks of a category; none if there is no such category. -/
def runCategory (services : Array (Service τ σ)) (s : Service τ σ) (category : String)
    (scope : Option ScopeId) (w : World τ) : Outcome (List (Record σ)) × World τ :=
  match (w.store s.store).ofCategory? category with
  | none => (.returned [], w.note (.emptyCategory category))
  | some entries => s.runBatch services category entries scope w

/-- Runs a single check, if it is registered. -/
def runCheck (services : Array (Service τ σ)) (s : Service τ σ) (category name : String)
    (scope : Option ScopeId) (w : World τ) : Outcome (Option (Record σ)) × World τ :=
  match (w.store s.store).get? category name with
  | none => (.returned none, w)
  | some entry =>
    let (caller, w) := scopeOr scope w
    let (outcome, w) := s.runner.runOne services entry caller w
    (outcome.map some, w)

/-! ### Reporting -/

def version : String := "1.0.0"

def eventName : String := "diagnostics"

def sourceName : String := eventName ++ "-source"

/-- Runs every check under a fresh scope and wraps the records in a report that starts at a given
time; nothing is made while no check is registered. -/
def makeReport (services : Array (Service τ σ)) (s : Service τ σ) (start : σ) (w : World τ) :
    Outcome (Option (Report σ)) × World τ :=
  if s.total w = 0 then (.returned none, w.note .nothingToReport)
  else
    let (caller, w) := scopeOr none w
    match s.run services (some caller) w with
    | (.returned results, w) => (.returned (some { startTime := start, results }), w)
    | (.raised fault, w) => (.raised fault, w)
    | (.stalled, w) => (.stalled, w)

/-! ### Registering in bulk -/

structure Definition where
  id : String
  description : String
  deriving DecidableEq, Repr

/-- The probe for a definition: unless its scope is cancelled it does what the component does for
that identifier. -/
def definitionProbe (detailsFor : String → Probe τ) (id : String) : Probe τ :=
  Probe.check 0 (detailsFor id)

/-- The entry for a definition of a category, on the service with a number. -/
def definitionEntry (number : Nat) (category : String) (detailsFor : String → Probe τ)
    (definition : Definition) : Entry τ where
  check := ⟨definition.id, definition.description, category⟩
  probe := definitionProbe detailsFor definition.id
  service := number

/-- Registers one check per definition and counts them; those whose name is taken are noted and
skipped, and any other fault ends it. -/
def registerDefinitions (s : Service τ σ) (number : Nat) (category : String)
    (detailsFor : String → Probe τ) : List Definition → World τ → Outcome Nat × World τ
  | [], w => (.returned 0, w)
  | definition :: rest, w =>
    match s.register (definitionEntry number category detailsFor definition) w with
    | (.returned (), w) =>
      let (count, w) := registerDefinitions s number category detailsFor rest w
      (count.map (· + 1), w)
    | (.raised fault, w) =>
      if fault.kind = .duplicateDiagnostic then
        registerDefinitions s number category detailsFor rest
          (w.note (.skippedDefinition category definition.id fault.text))
      else (.raised fault, w)
    | (.stalled, w) => (.stalled, w)

end Checkup.Service
