import Checkup.Value.Text

/-!
Faults: what a computation can raise instead of returning.

A fault has a kind from a closed vocabulary and the values it was made with; its text follows from
both (`text?`). Faults of the kinds `systemExit` and `keyboardInterrupt` ask the whole program to
stop and are not caught where the others are (`isOrdinary`). `failureText` is what a report shows
for a fault and is never empty (`failureText_ne_empty`).
-/

namespace Checkup

/-! ### Kinds -/

inductive Kind where
  | exception
  | valueError
  | runtimeError
  | typeError
  | keyError
  | indexError
  | lookupError
  | attributeError
  | overflowError
  | recursionError
  | zeroDivisionError
  | assertionError
  | stopIteration
  | unicodeDecodeError
  | osError
  | blocking
  | brokenPipe
  | childProcess
  | connectionAborted
  | connectionRefused
  | connectionReset
  | fileExists
  | fileNotFound
  | interrupted
  | isADirectory
  | notADirectory
  | permission
  | processLookup
  | timeout
  | systemExit
  | keyboardInterrupt
  | unprintable
  | diagnosticError
  | diagnosticFailure
  | duplicateDiagnostic
  | scopeCancelled
  | deadlineExceeded
  | configError
  deriving DecidableEq, Repr, Inhabited

namespace Kind

/-- The name of a kind. -/
def name : Kind → String
  | exception => "Exception"
  | valueError => "ValueError"
  | runtimeError => "RuntimeError"
  | typeError => "TypeError"
  | keyError => "KeyError"
  | indexError => "IndexError"
  | lookupError => "LookupError"
  | attributeError => "AttributeError"
  | overflowError => "OverflowError"
  | recursionError => "RecursionError"
  | zeroDivisionError => "ZeroDivisionError"
  | assertionError => "AssertionError"
  | stopIteration => "StopIteration"
  | unicodeDecodeError => "UnicodeDecodeError"
  | osError => "OSError"
  | blocking => "BlockingIOError"
  | brokenPipe => "BrokenPipeError"
  | childProcess => "ChildProcessError"
  | connectionAborted => "ConnectionAbortedError"
  | connectionRefused => "ConnectionRefusedError"
  | connectionReset => "ConnectionResetError"
  | fileExists => "FileExistsError"
  | fileNotFound => "FileNotFoundError"
  | interrupted => "InterruptedError"
  | isADirectory => "IsADirectoryError"
  | notADirectory => "NotADirectoryError"
  | permission => "PermissionError"
  | processLookup => "ProcessLookupError"
  | timeout => "TimeoutError"
  | systemExit => "SystemExit"
  | keyboardInterrupt => "KeyboardInterrupt"
  | unprintable => "Unprintable"
  | diagnosticError => "DiagnosticError"
  | diagnosticFailure => "DiagnosticFailure"
  | duplicateDiagnostic => "DuplicateDiagnosticError"
  | scopeCancelled => "ScopeCancelled"
  | deadlineExceeded => "DeadlineExceeded"
  | configError => "ConfigError"

/-- Every kind, for reading a name back. -/
def all : List Kind :=
  [exception, valueError, runtimeError, typeError, keyError, indexError, lookupError,
   attributeError, overflowError, recursionError, zeroDivisionError, assertionError, stopIteration,
   unicodeDecodeError, osError, blocking, brokenPipe, childProcess, connectionAborted,
   connectionRefused, connectionReset, fileExists, fileNotFound, interrupted, isADirectory,
   notADirectory, permission, processLookup, timeout, systemExit, keyboardInterrupt, unprintable,
   diagnosticError, diagnosticFailure, duplicateDiagnostic, scopeCancelled, deadlineExceeded,
   configError]

def ofName? (s : String) : Option Kind := all.find? fun k => k.name == s

theorem ofName?_name (k : Kind) : ofName? k.name = some k := by
  cases k <;> decide

/-- The kinds of this service that a kind belongs to, the narrowest first. -/
def ancestry : Kind → List Kind
  | diagnosticError => [diagnosticError]
  | diagnosticFailure => [diagnosticFailure, diagnosticError]
  | duplicateDiagnostic => [duplicateDiagnostic, diagnosticError]
  | scopeCancelled => [scopeCancelled, diagnosticError]
  | deadlineExceeded => [deadlineExceeded, scopeCancelled, diagnosticError]
  | configError => [configError, diagnosticError]
  | _ => []

/-- Whether a kind is one of the operating system's. -/
def isSystem : Kind → Bool
  | osError | blocking | brokenPipe | childProcess | connectionAborted | connectionRefused
  | connectionReset | fileExists | fileNotFound | interrupted | isADirectory | notADirectory
  | permission | processLookup | timeout => true
  | _ => false

/-- The narrower kind that the operating system's error numbers stand for. -/
def ofErrorNumber (n : Int) : Kind :=
  if n = 1 ∨ n = 13 then permission
  else if n = 2 then fileNotFound
  else if n = 3 then processLookup
  else if n = 4 then interrupted
  else if n = 10 then childProcess
  else if n = 11 ∨ n = 114 ∨ n = 115 then blocking
  else if n = 17 then fileExists
  else if n = 20 then notADirectory
  else if n = 21 then isADirectory
  else if n = 32 ∨ n = 108 then brokenPipe
  else if n = 103 then connectionAborted
  else if n = 104 then connectionReset
  else if n = 110 then timeout
  else if n = 111 then connectionRefused
  else osError

def defaultMessage : Kind → String
  | deadlineExceeded => "deadline exceeded"
  | _ => "scope cancelled"

end Kind

/-! ### Faults -/

/-- A fault: its kind, the values it was made with, and for the operating system's errors the files
concerned. -/
structure Fault where
  kind : Kind
  args : List Value := []
  files : List Value := []
  deriving Repr, Inhabited

namespace Fault

def because (kind : Kind) (message : String) : Fault := { kind, args := [.str message] }

/-- A cancellation; an empty message stands for the default one. -/
def cancellation (kind : Kind) (message : Value) : Fault :=
  { kind, args := [if message.isTruthy then message else .str kind.defaultMessage] }

def scopeCancelled : Fault := because .scopeCancelled "scope cancelled"

def deadlineExceeded : Fault := because .deadlineExceeded "deadline exceeded"

/-- Raised when a name is registered twice in a category. -/
def duplicate (name category : String) : Fault :=
  { kind := .duplicateDiagnostic, args := [.str name, .str category] }

/-- Raised when something that cannot be called is registered. -/
def notCallable (typeName : String) : Fault :=
  because .typeError
    s!"Expected a callable diagnostic function, got <class '{typeName}'>"

/-- Raised when a duplicate's name or category is missing. -/
def missingArguments (given : Nat) : Fault :=
  because .typeError (
    if given = 0 then "DuplicateDiagnosticError.__init__() missing 2 required positional " ++
      "arguments: 'name' and 'category'"
    else if given = 1 then "DuplicateDiagnosticError.__init__() missing 1 required positional " ++
      "argument: 'category'"
    else "DuplicateDiagnosticError.__init__() takes 3 positional arguments but " ++
      toString (given + 1) ++ " were given")

/-- Raised when a cancellation is made with more than a message. -/
def tooManyArguments (given : Nat) : Fault :=
  because .typeError ("ScopeCancelled.__init__() takes from 1 to 2 positional arguments but " ++
    toString (given + 1) ++ " were given")

/-- Raised when something is nested deeper than can be followed. -/
def tooDeep : Fault := because .recursionError "maximum recursion depth exceeded"

/-- The limit on the digits of a whole number, as messages name it. -/
def digitLimit : String :=
  "Exceeds the limit (" ++ toString Value.maxDigits ++ " digits) for integer string conversion"

def digitHint : String := "; use sys.set_int_max_str_digits() to increase the limit"

/-- Raised when a whole number with too many digits would have to be written. -/
def tooLongToWrite : Fault := because .valueError (digitLimit ++ digitHint)

def tooLongToRead (digits : Nat) : Fault :=
  because .valueError (digitLimit ++ ": value has " ++ toString digits ++ " digits" ++ digitHint)

/-- The kind that an error number narrows another kind to. -/
def narrowed (kind : Kind) (code : Value) : Kind :=
  match kind, code.number? with
  | .osError, some (.whole n) => Kind.ofErrorNumber n
  | _, _ => kind

/-- Whether a whole number fits a signed word of 64 bits. -/
def fitsWord (n : Int) : Bool := -(pow2 63 : Int) ≤ n && n < pow2 63

/-- The files that an error knows: both or the first alone. Where the error is that something would
have to wait, a number in place of the first tells how much was done, and is no file; it must be
whole and of a word's size. -/
def filesOf (kind : Kind) (file other : Value) : Except Fault (List Value) :=
  match file, kind, file.number? with
  | .none, _, _ => .ok []
  | _, .blocking, some (.real _) =>
    .error (because .typeError "'float' object cannot be interpreted as an integer")
  | _, .blocking, some (.whole n) =>
    if fitsWord n then .ok []
    else .error (because .valueError "cannot fit 'int' into an index-sized integer")
  | _, _, _ =>
    match other with
    | .none => .ok [file]
    | other => .ok [file, other]

/-- The operating system's errors know their number, their reason and up to two files; an error
number that has a kind of its own gets that kind. -/
def system (kind : Kind) (args : List Value) : Except Fault Fault :=
  match args with
  | [code, reason] => .ok { kind := narrowed kind code, args := [code, reason] }
  | [code, reason, file] | [code, reason, file, _] => known code reason file .none
  | [code, reason, file, _, other] => known code reason file other
  | _ => .ok { kind, args }
where
  known (code reason file other : Value) : Except Fault Fault :=
    let kind := narrowed kind code
    (filesOf kind file other).map fun files => { kind, args := [code, reason], files }

/-- A fault as it was asked for: made, or the fault that making it raised. -/
abbrev Made := Except Fault Fault

/-- Makes a fault of a kind of some values; making it can itself raise another. -/
def make (kind : Kind) (args : List Value) : Made :=
  match kind with
  | .scopeCancelled | .deadlineExceeded =>
    match args with
    | [] => .ok (cancellation kind .none)
    | [message] => .ok (cancellation kind message)
    | _ => .error (tooManyArguments args.length)
  | .duplicateDiagnostic =>
    if args.length = 2 then .ok { kind, args } else .error (missingArguments args.length)
  | _ => if kind.isSystem then system kind args else .ok { kind, args }

/-- What is raised where a fault is made and raised. -/
def raisedBy : Made → Fault
  | .ok f => f
  | .error f => f

/-- The text of values as a fault shows them: nothing, the value itself, or all in brackets. -/
def argsText : List Value → String
  | [] => ""
  | [value] => value.text
  | values => Value.shown (.tuple values)

/-- The text of an error of the operating system. -/
def systemText (code reason : Value) (files : List Value) : String :=
  "[Errno " ++ code.text ++ "] " ++ reason.text ++
    (if files.isEmpty then "" else ": " ++ " -> ".intercalate (files.map Value.shown))

def isWritable (f : Fault) : Bool := Value.areWritable f.args && Value.areWritable f.files

/-- The text of a fault; an unprintable one has none, nor has one whose values cannot be written. -/
def text? (f : Fault) : Option String :=
  match f.isWritable, f.kind, f.args with
  | false, _, _ | _, .unprintable, _ => none
  | _, .duplicateDiagnostic, [name, category] =>
    some s!"diagnostic with name {name.text} already exists in category {category.text}"
  | _, .keyError, [key] => some key.shown
  | _, kind, [code, reason] =>
    if kind.isSystem then some (systemText code reason f.files)
    else some (argsText [code, reason])
  | _, _, args => some (argsText args)

def text (f : Fault) : String := f.text?.getD ""

/-- Whether a fault is caught where a check runs. -/
def isOrdinary (f : Fault) : Bool :=
  match f.kind with
  | .systemExit | .keyboardInterrupt => false
  | _ => true

/-- What is raised where the text of a fault is asked for that has none. -/
def textless (f : Fault) : Fault :=
  if f.kind = .unprintable then because .runtimeError "cannot render" else tooLongToWrite

/-- A fault of the same kind and text, made anew to be raised again; this asks for the text. -/
def fresh (f : Fault) : Fault :=
  match f.text? with
  | none => f.textless
  | some text => raisedBy (make f.kind [.str text])

/-! ### Failure texts -/

def unknownFailure : String := "unknown failure"

def failureText (f : Fault) : String :=
  if f.text = "" then unknownFailure ++ " (" ++ f.kind.name ++ ")" else f.text

theorem failureText_of_text {f : Fault} (h : f.text ≠ "") : f.failureText = f.text := by
  simp [failureText, h]

theorem failureText_ne_empty (f : Fault) : f.failureText ≠ "" := by
  unfold failureText
  split
  · intro h
    have := congrArg String.length h
    simp [unknownFailure] at this
  · assumption

end Fault

end Checkup
