import Checkup.Clock
import Checkup.Decimal.Places

/-!
What the service notes while it works, and how each note reads in a log.

A log line has a level, the part of the service that wrote it, and a message. Lateness is given in
seconds with two places, durations in whole milliseconds.
-/

namespace Checkup

inductive Event (τ : Type) where
  | registered (category name : String)
  | unregistered (category name : String)
  | batchStarted (count : Nat) (label : String)
  | batchFinished (count : Nat) (label : String) (elapsed : τ) (failures : Nat)
  | emptyCategory (category : String)
  | running (key : String)
  | failed (key error : String)
  | overran (key : String) (late : τ) (timeout : Span τ)
  | finished (key : String) (elapsed : τ)
  | nothingToReport
  | skippedDefinition (category id reason : String)
  deriving Repr

inductive Level where
  | debug
  | info
  | warning
  deriving DecidableEq, Repr

def Level.name : Level → String
  | debug => "DEBUG"
  | info => "INFO"
  | warning => "WARNING"

structure LogLine where
  level : Level
  source : String
  message : String
  deriving DecidableEq, Repr

namespace Event

/-- The part of the service that writes a note. -/
def source {τ : Type} : Event τ → String
  | registered .. | unregistered .. | batchStarted .. | batchFinished .. | emptyCategory .. =>
    "diagnostics.core.service"
  | running .. | failed .. | overran .. | finished .. => "diagnostics.core.runner"
  | nothingToReport => "diagnostics.core.source"
  | skippedDefinition .. => "diagnostics.providers"

/-- How urgent a note is. -/
def level {τ : Type} : Event τ → Level
  | registered .. | unregistered .. | batchStarted .. | batchFinished .. => .info
  | failed .. | overran .. | skippedDefinition .. => .warning
  | emptyCategory .. | running .. | finished .. | nothingToReport => .debug

/-- A duration in whole milliseconds. -/
def milliseconds (seconds : Float) : String := Decimal.fixed 0 (seconds * 1000.0) ++ "ms"

/-- The message of a note. -/
def message : Event Float → String
  | registered category name => s!"Registered diagnostic {category}/{name}"
  | unregistered category name => s!"Unregistered diagnostic {category}/{name}"
  | batchStarted count label => s!"Running {count} diagnostic(s) [{label}]"
  | batchFinished count label elapsed failures =>
    s!"Finished {count} diagnostic(s) [{label}] in {milliseconds elapsed}, {failures} failed"
  | emptyCategory category => s!"No diagnostics registered in category {category}"
  | running key => s!"Running diagnostic: {key}"
  | failed key error => s!"Diagnostic {key} failed: {error}"
  | overran key late timeout =>
    s!"Diagnostic {key} returned {Decimal.fixed 2 late}s after its " ++
      s!"{timeout.toValue.text}s deadline"
  | finished key elapsed => s!"Finished diagnostic: {key} ({milliseconds elapsed})"
  | nothingToReport => "No diagnostics registered, skipping report"
  | skippedDefinition category id reason =>
    s!"Failed to register {category} diagnostic {id}: {reason}"

def toLine (e : Event Float) : LogLine := ⟨e.level, e.source, e.message⟩

end Event

end Checkup
