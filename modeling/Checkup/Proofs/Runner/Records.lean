import Checkup.Runner
import Mathlib.Logic.Basic

/-!
What the record of a check tells.

A check may come to nothing good in three places: its probe raises, what the probe returns is
refused, or the fault has no text to show. Each time the record has a failure text and no details;
otherwise it has the copied details and no failure text.

Main statements: `executeIn_returned_iff` (which runs come to a record, and to which) and
`executeIn_tells` (the record tells exactly one of the two, and the right one).
-/

namespace Checkup

/-! ### How a computation ends -/

/-- A computation has returned, or has raised something that is caught where checks run. -/
def Outcome.IsOrdinary {α : Type} (outcome : Outcome α) : Prop :=
  (∃ value, outcome = .returned value) ∨
    ∃ fault, outcome = .raised fault ∧ fault.isOrdinary = true

/-- A fault without a text to show shows its kind. -/
theorem Fault.failureText_of_no_text {fault : Fault}
    (wordless : ∀ text, fault.text? = some text → text = "") :
    fault.failureText = "unknown failure (" ++ fault.kind.name ++ ")" := by
  have silent : fault.text = "" := by
    cases written : fault.text? with
    | none => simp [text, written]
    | some text => simp [Fault.text, written, wordless text written]
  rw [failureText, if_pos silent, unknownFailure]
  rfl

/-! ### Verdicts -/

namespace Runner.Verdict

variable {outcome : Outcome Value} {copied : Value} {fault : Fault}

/-- Details are shown exactly where a value was returned that can be copied. -/
theorem eq_details_iff : ofOutcome outcome = .details copied ↔
    ∃ value, outcome = .returned value ∧ Detail.normalize value = .ok copied := by
  cases outcome with
  | returned value => cases normal : Detail.normalize value <;> simp [ofOutcome, normal]
  | raised fault => cases ordinary : fault.isOrdinary <;> simp [ofOutcome, ordinary]
  | stalled => simp [ofOutcome]

/-- A failure is shown for a value that cannot be copied, and for a fault that is caught. -/
theorem eq_failure_iff : ofOutcome outcome = .failure fault ↔
    (∃ value issue, outcome = .returned value ∧ Detail.normalize value = .error issue ∧
      issue.toFault = fault) ∨ outcome = .raised fault ∧ fault.isOrdinary = true := by
  cases outcome with
  | returned value => cases normal : Detail.normalize value <;> simp [ofOutcome, normal]
  | raised raised =>
      by_cases same : raised = fault
      · subst same
        cases ordinary : raised.isOrdinary <;> simp [ofOutcome, ordinary]
      · cases ordinary : raised.isOrdinary <;> simp [ofOutcome, ordinary, same]
  | stalled => simp [ofOutcome]

/-- Only a fault that is not to be caught escapes. -/
theorem eq_escape_iff :
    ofOutcome outcome = .escape fault ↔ outcome = .raised fault ∧ fault.isOrdinary = false := by
  cases outcome with
  | returned value => cases normal : Detail.normalize value <;> simp [ofOutcome, normal]
  | raised raised =>
      by_cases same : raised = fault
      · subst same
        cases ordinary : raised.isOrdinary <;> simp [ofOutcome, ordinary]
      · cases ordinary : raised.isOrdinary <;> simp [ofOutcome, ordinary, same]
  | stalled => simp [ofOutcome]

/-- Nothing is shown exactly where the probe does not come back. -/
theorem eq_stalled_iff : ofOutcome outcome = .stalled ↔ outcome = .stalled := by
  cases outcome with
  | returned value => cases normal : Detail.normalize value <;> simp [ofOutcome, normal]
  | raised fault => cases ordinary : fault.isOrdinary <;> simp [ofOutcome, ordinary]
  | stalled => simp [ofOutcome]

/-- The failure text and the details that a verdict leaves to a record. -/
def shown? : Verdict → Option (String × Option Value)
  | .details value => some ("", some value)
  | .failure fault => some (fault.failureText, none)
  | .escape _ | .stalled => none

/-- What a probe returns or raises is shown in its record, unless it is not to be caught. -/
theorem isOrdinary_iff : outcome.IsOrdinary ↔ ∃ shown, (ofOutcome outcome).shown? = some shown := by
  cases outcome with
  | returned value => cases normal : Detail.normalize value <;>
      simp [Outcome.IsOrdinary, ofOutcome, normal, shown?]
  | raised fault => cases ordinary : fault.isOrdinary <;>
      simp [Outcome.IsOrdinary, ofOutcome, ordinary, shown?]
  | stalled => simp [Outcome.IsOrdinary, ofOutcome, shown?]

end Runner.Verdict

/-! ### Records -/

namespace Record

def check {Stamp : Type} (record : Record Stamp) : Check :=
  ⟨record.name, record.description, record.category⟩

def keys (record : Record Moment) : List Value := record.toEntries.map Prod.fst

variable {record : Record Moment}

/-- The failure text is shown where there is any. -/
theorem error_mem_keys : .str "error" ∈ record.keys ↔ record.error ≠ "" := by
  cases shown : record.details <;> simp [keys, toEntries, shown]

/-- The details are shown where there are any. -/
theorem details_mem_keys : .str "details" ∈ record.keys ↔ record.details ≠ none := by
  cases shown : record.details <;> by_cases said : record.error = "" <;>
    simp [keys, toEntries, shown, said]

/-- What a record of a check tells of what its probe came to. -/
structure Tells (check : Check) (outcome : Outcome Value) (record : Record Moment) : Prop where
  /-- It has no failure text or no details, not both. -/
  one : Xor (record.error = "") (record.details = none)
  /-- There is no failure text just where the probe returned and what it returned was accepted. -/
  succeeds : record.error = "" ↔
    ∃ value copied, outcome = .returned value ∧ Detail.normalize value = .ok copied
  /-- What was accepted is there as it was copied. -/
  details : ∀ {value copied}, outcome = .returned value → Detail.normalize value = .ok copied →
    record.details = some copied
  /-- What was refused shows the reason. -/
  refused : ∀ {value issue}, outcome = .returned value → Detail.normalize value = .error issue →
    record.error = issue.toFault.failureText
  /-- A fault shows its text, if it has one to show. -/
  worded : ∀ {fault text}, outcome = .raised fault → fault.text? = some text → text ≠ "" →
    record.error = text
  /-- A fault without one shows its kind. -/
  wordless : ∀ {fault}, outcome = .raised fault → (∀ text, fault.text? = some text → text = "") →
    record.error = "unknown failure (" ++ fault.kind.name ++ ")"
  failed : record.failed = record.details.isNone
  keys : Xor (.str "error" ∈ record.keys) (.str "details" ∈ record.keys)
  check : record.check = check

variable {check : Check} {outcome : Outcome Value} {stamp : Moment} {id : String}

/-- The record of what was accepted. -/
theorem Tells.of_details {copied : Value}
    (verdict : Runner.Verdict.ofOutcome outcome = .details copied) :
    Tells check outcome { id, name := check.name, description := check.description
                          category := check.category, timestamp := stamp
                          error := "", details := some copied } := by
  obtain ⟨value, rfl, accepted⟩ := Runner.Verdict.eq_details_iff.mp verdict
  exact {
    one := by simp [Xor]
    succeeds := ⟨fun _ => ⟨value, copied, rfl, accepted⟩, fun _ => rfl⟩
    details := by
      rintro _ _ ⟨⟩ again
      rw [Except.ok.inj (accepted.symm.trans again)]
    refused := by
      rintro _ _ ⟨⟩ again
      exact nomatch accepted.symm.trans again
    worded := nofun
    wordless := nofun
    failed := rfl
    keys := by simp [Xor, error_mem_keys, details_mem_keys]
    check := rfl }

/-- The record of a fault, or of what was refused. -/
theorem Tells.of_failure {fault : Fault}
    (verdict : Runner.Verdict.ofOutcome outcome = .failure fault) :
    Tells check outcome { id, name := check.name, description := check.description
                          category := check.category, timestamp := stamp
                          error := fault.failureText, details := none } := by
  have said := fault.failureText_ne_empty
  have source := Runner.Verdict.eq_failure_iff.mp verdict
  exact {
    one := by simp [Xor, said]
    succeeds := by
      refine ⟨fun silent => absurd silent said, ?_⟩
      rintro ⟨value, copied, rfl, accepted⟩
      exact nomatch (Runner.Verdict.eq_details_iff.mpr ⟨value, rfl, accepted⟩).symm.trans verdict
    details := by
      rintro value copied rfl accepted
      exact nomatch (Runner.Verdict.eq_details_iff.mpr ⟨value, rfl, accepted⟩).symm.trans verdict
    refused := by
      rintro value issue rfl refused
      rcases source with ⟨_, issue', ⟨⟩, refused', rfl⟩ | ⟨⟨⟩, -⟩
      rw [Except.error.inj (refused.symm.trans refused')]
    worded := by
      rintro _ text rfl written some
      rcases source with ⟨_, _, ⟨⟩, -⟩ | ⟨⟨⟩, -⟩
      have same : fault.text = text := by rw [Fault.text, written]; rfl
      rw [Fault.failureText_of_text (same ▸ some), same]
    wordless := by
      rintro _ rfl wordless
      rcases source with ⟨_, _, ⟨⟩, -⟩ | ⟨⟨⟩, -⟩
      exact Fault.failureText_of_no_text wordless
    failed := by
      have fails : fault.failureText.isEmpty = false := String.isEmpty_eq_false_iff.mpr said
      simp only [Record.failed, fails, Option.isNone_none, Bool.not_false]
    keys := by simp [Xor, error_mem_keys, details_mem_keys, said]
    check := rfl }

/-- The record of what a probe came to. -/
theorem Tells.of_shown {error : String} {details : Option Value}
    (shown : (Runner.Verdict.ofOutcome outcome).shown? = some (error, details)) :
    Tells check outcome { id, name := check.name, description := check.description
                          category := check.category, timestamp := stamp, error, details } := by
  cases verdict : Runner.Verdict.ofOutcome outcome with
  | details copied =>
      rw [verdict] at shown
      cases shown
      exact .of_details verdict
  | failure fault =>
      rw [verdict] at shown
      cases shown
      exact .of_failure verdict
  | escape fault =>
      rw [verdict] at shown
      cases shown
  | stalled =>
      rw [verdict] at shown
      cases shown

end Record

/-! ### Identifiers -/

namespace World

variable {τ : Type}

/-- An identifier that is given out leaves time and registries as they are. -/
@[simp] theorem line_issueId (w : World τ) (source : IdSource) :
    (w.issueId source).2.line = w.line := by
  cases source <;> rfl

@[simp] theorem stores_issueId (w : World τ) (source : IdSource) :
    (w.issueId source).2.stores = w.stores := by
  cases source <;> rfl

end World

/-! ### The run of an entry -/

namespace Runner

variable {τ σ : Type} [Clock τ] {setting : World.Setting τ} {r : Runner τ σ} {limit : τ}
  {entry : Entry τ} {scope : ScopeId} {w : World τ} {stamp : σ}

/-- The setting that a check runs in where no other check runs it. -/
def settingOf (services : Array (Service τ σ)) (entry : Entry τ) : World.Setting τ :=
  let service := services[entry.service]?
  { service := entry.service
    store := (service.map Service.store).getD 0
    runCheck := nested (execute services (maxDepth - 1)) service }

/-- What the run of an entry makes of its probe: the probe runs under a scope of its own, below the
given one and with the runner's deadline. -/
def probeRun (setting : World.Setting τ) (r : Runner τ σ) (limit : τ) (entry : Entry τ)
    (scope : ScopeId) (w : World τ) : Outcome Value × World τ :=
  let w := (w.issueId r.ids).2.note (.running entry.check.key)
  let (s, line) := w.line.child scope (some limit)
  World.runProbe setting s entry.probe [] { w with line }

/-- The world in which the probe of an entry begins: it has its scope. -/
def probeStart (r : Runner τ σ) (limit : τ) (entry : Entry τ) (scope : ScopeId) (w : World τ) :
    World τ :=
  { (w.issueId r.ids).2.note (.running entry.check.key) with
    line := (w.line.child scope (some limit)).2 }

/-- A probe runs under a scope of its own, below the caller's. -/
theorem probeRun_eq (setting : World.Setting τ) (r : Runner τ σ) (limit : τ) (entry : Entry τ)
    (scope : ScopeId) (w : World τ) : probeRun setting r limit entry scope w =
      World.runProbe setting (w.line.child scope (some limit)).1 entry.probe []
        (probeStart r limit entry scope w) := by
  have line : ((w.issueId r.ids).2.note (.running entry.check.key)).line = w.line :=
    World.line_issueId ..
  simp only [probeRun, probeStart, line]

/-- Closing up comes to a record as soon as the time is known. -/
theorem conclude_returned_iff {check : Check} {id error : String} {start : τ} {s : ScopeId}
    {details : Option Value} {record : Record σ} :
    (r.conclude check id start limit s error details w).1 = .returned record ↔
      ∃ stamp, r.stamp w.line.now = .ok stamp ∧
        { id, name := check.name, description := check.description
          category := check.category, timestamp := stamp, error, details } = record := by
  cases stamped : r.stamp w.line.now with
  | error fault => simp [conclude, abandon, stamped]
  | ok stamp => simp [conclude, stamped]

/-- Closing up closes the scope, whatever comes of it. -/
theorem line_conclude (check : Check) (id : String) (start limit : τ) (s : ScopeId)
    (error : String) (details : Option Value) (w : World τ) :
    (r.conclude check id start limit s error details w).2.line = w.line.close s := by
  simp only [conclude, World.note]
  split
  · rfl
  · split <;> rfl

/-- A record is made of a run exactly if its probe ends and the time is known, and it shows what the
probe came to. -/
theorem executeIn_returned_iff {record : Record σ} (deadline : r.timeout.seconds? = .ok limit) :
    (executeIn setting r entry scope w).1 = .returned record ↔
      ∃ stamp error details,
        r.stamp (probeRun setting r limit entry scope w).2.line.now = .ok stamp ∧
        (Verdict.ofOutcome (probeRun setting r limit entry scope w).1).shown? =
          some (error, details) ∧
        { id := (w.issueId r.ids).1, name := entry.check.name
          description := entry.check.description, category := entry.check.category
          timestamp := stamp, error, details } = record := by
  cases verdict : Verdict.ofOutcome (probeRun setting r limit entry scope w).1 with
  | details value =>
      unfold probeRun at verdict ⊢
      simp only [executeIn, deadline, verdict, conclude_returned_iff, Verdict.shown?,
        Option.some.injEq, Prod.mk.injEq, and_assoc, exists_and_left, exists_eq_left']
  | failure fault =>
      unfold probeRun at verdict ⊢
      simp only [executeIn, deadline, verdict, conclude_returned_iff, Verdict.shown?,
        Option.some.injEq, Prod.mk.injEq, and_assoc, exists_and_left, exists_eq_left']
      rfl
  | escape fault =>
      unfold probeRun at verdict
      simp [executeIn, deadline, verdict, abandon, Verdict.shown?]
  | stalled =>
      unfold probeRun at verdict
      simp [executeIn, deadline, verdict, Verdict.shown?]

/-- A record is made of a run only if its deadline fits, its probe ends and the time is known. -/
theorem ends_of_returned {record : Record σ}
    (returned : (executeIn setting r entry scope w).1 = .returned record) :
    ∃ limit, r.timeout.seconds? = .ok limit ∧
      (probeRun setting r limit entry scope w).1.IsOrdinary ∧
      r.stamp (probeRun setting r limit entry scope w).2.line.now = .ok record.timestamp := by
  cases deadline : r.timeout.seconds? with
  | error fault =>
      simp only [executeIn, deadline] at returned
      cases returned
  | ok limit =>
      obtain ⟨stamp, error, details, stamped, shown, rfl⟩ :=
        (executeIn_returned_iff deadline).mp returned
      exact ⟨limit, rfl, Verdict.isOrdinary_iff.mpr ⟨_, shown⟩, stamped⟩

/-- The record of a run is that of its check. -/
theorem check_of_returned {record : Record σ}
    (returned : (executeIn setting r entry scope w).1 = .returned record) :
    record.check = entry.check := by
  obtain ⟨limit, deadline, -, -⟩ := ends_of_returned returned
  obtain ⟨stamp, error, details, -, -, rfl⟩ := (executeIn_returned_iff deadline).mp returned
  rfl

/-- Whatever a probe returns, and whatever it raises that is caught where checks run, the run of its
entry comes to a record, under any scope; and that record tells what the probe came to. -/
theorem executeIn_tells {r : Runner τ Moment} {stamp : Moment}
    (deadline : r.timeout.seconds? = .ok limit)
    (ends : (probeRun setting r limit entry scope w).1.IsOrdinary)
    (stamped : r.stamp (probeRun setting r limit entry scope w).2.line.now = .ok stamp) :
    ∃ record, (executeIn setting r entry scope w).1 = .returned record ∧
      record.Tells entry.check (probeRun setting r limit entry scope w).1 := by
  obtain ⟨⟨error, details⟩, shown⟩ := Verdict.isOrdinary_iff.mp ends
  have made := (executeIn_returned_iff deadline).mpr ⟨stamp, error, details, stamped, shown, rfl⟩
  exact ⟨_, made, .of_shown shown⟩

/-- A check whose fault cannot be written. -/
def mute : Entry Rat where
  check := { name := "mute", description := "says nothing", category := "quiet" }
  probe := .fail { kind := .unprintable }

def cancelledEarly : World Rat where
  line := ({ now := 0 } : Timeline Rat).background.2.cancel 0 .scopeCancelled

theorem mute_check_tells :
    let r : Runner Rat Moment :=
      { timeout := .whole 5, stamp := fun _ => .ok { date := ⟨2025, 1, 1⟩, offset := some 0 } }
    ∃ record, (executeIn {} r mute 0 cancelledEarly).1 = .returned record ∧
      record.Tells mute.check (.raised { kind := .unprintable }) ∧
      record.error = "unknown failure (Unprintable)" := by
  intro r
  obtain ⟨record, returned, tells⟩ : ∃ record,
      (executeIn {} r mute 0 cancelledEarly).1 = .returned record ∧
        record.Tells mute.check (.raised { kind := .unprintable }) :=
    executeIn_tells rfl (.inr ⟨{ kind := .unprintable }, rfl, rfl⟩) rfl
  exact ⟨record, returned, tells, tells.wordless rfl nofun⟩

end Runner

end Checkup
