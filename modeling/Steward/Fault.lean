import Steward.Reading.Basic
import Steward.Deployment.Operation

/-!
# Faults

Everything that can go wrong, by cause. A fault of the library says what happened with the data that
belongs to it; a fault of a collaborator is passed on as it was reported. The wording is in one function,
and the category, the code and the cause of a fault are read off it.

## Contents

* `Category` — the kinds of faults that callers tell apart;
* `Report` — a fault as a collaborator reports it;
* `Fault` — the faults;
* `Fault.category`, `Fault.message`, `Fault.code`, `Fault.status`, `Fault.cause` — what a caller sees;
* `Fault.isRemote`, `Fault.isRefusal` — faults of platform calls, and refused ones among them;
* `Fault.isRuntime`, `Fault.isSystem`, `Fault.isAbort` — runtime errors, faults of opening and reading, and faults that
  abort a cycle.
-/

namespace Steward

/-! ## Categories -/

/-- The kinds of faults. Those from `general` to `timeout` are the library's own; the rest arise in what it
stands on. -/
inductive Category where
  | general
  | configuration
  | notFound
  | remote
  | unauthorized
  | refreshAborted
  | pipeline
  | terminal
  | unexpectedResponse
  | timeout
  | runtime
  | value
  | lookup
  | position
  | overflow
  | cancelled
  | validation
  | misuse
  | unknownName
  | missingFile
  | unreadableFile
  | markup
  | encoding
  deriving DecidableEq, Inhabited

/-- Whether a category is one of the library's own. -/
def Category.isOwn : Category → Bool
  | general | configuration | notFound | remote | unauthorized | refreshAborted | pipeline | terminal
  | unexpectedResponse | timeout => true
  | runtime | value | lookup | position | overflow | cancelled | validation | misuse | unknownName | missingFile
  | unreadableFile | markup | encoding => false

/-- The category that a category belongs to, as a caller who handles that one handles it too. -/
def Category.parent : Category → Option Category
  | configuration | notFound | remote | refreshAborted | pipeline => some general
  | unauthorized => some remote
  | terminal | unexpectedResponse | timeout => some pipeline
  | _ => none

/-! ## Codes -/

/-- The code of a refused call. -/
def refusedCode : String := "CF-NotAuthorized"

/-- The code of a missing resource. -/
def notFoundCode : String := "CF-ResourceNotFound"

/-- The code of a failed call that came without one. -/
def unknownCode : String := "UnknownError"

/-- The code of a package or build that cannot become ready any more. -/
def terminalCode : String := "PipelineTerminalFailure"

/-! ## Reports -/

/-- A fault as a collaborator reports it. -/
structure Report where
  category : Category
  message : String
  code : Option String
  status : Option String
  deriving DecidableEq, Inhabited

/-- The code that a report carries: some categories have one code, failed calls have one always, and what is
not the library's own has none. -/
def Report.codeFor (category : Category) (code : Option String) : Option String :=
  match category with
  | .notFound => some notFoundCode
  | .unauthorized => some refusedCode
  | .terminal => some terminalCode
  | .remote =>
    match code with
    | none | some "" => some unknownCode
    | some c => some c
  | category => if category.isOwn then code else none

/-- The message that stands where a report gives none. -/
def Report.messageFor (category : Category) : String :=
  match category with
  | .notFound => "Resource not found"
  | .unauthorized => "Not authorized"
  | _ => ""

/-- A report with what its category supplies. -/
def Report.of (category : Category) (message code status : Option String) : Report :=
  { category
    message := message.getD (Report.messageFor category)
    code := Report.codeFor category code
    status := if category = .terminal then status else none }

/-! ## Faults -/

/-- What went wrong. -/
inductive Fault where
  /-- A collaborator's fault. -/
  | reported (r : Report)
  /-- A document is no record of the given name. -/
  | invalid (record : String) (problems : List Problem)
  /-- A record cannot be changed in place. -/
  | immutable
  /-- A word names no run state. -/
  | unknownRunState (word : String)
  /-- A variable that carries no metadata was asked for. -/
  | unknownVariable (name : String)
  /-- A numeral has more digits than are read. -/
  | numeralTooLong (digits : Nat)
  /-- An integer has more digits than are written. -/
  | integerTooLong
  /-- A clock reading is no number. -/
  | clockUndefined
  /-- A clock reading is infinite. -/
  | clockInfinite
  /-- A moment lies before the first day that a clock knows. -/
  | yearOutOfRange
  /-- A document holds a scalar whose tag does not fit it. -/
  | unreadableScalar (kind : Category) (why : String)
  /-- The platform does not have the application. -/
  | applicationNotFound (id : String)
  /-- The platform has the application, but refuses to show its environment. -/
  | applicationNotReadable (id : String)
  /-- A lookup failed for a reason that is not the platform's. -/
  | lookupFailed (cause : Fault)
  /-- The application was found, but its environment is refused. -/
  | detailsRefused
  /-- Creation was confirmed without the created application. -/
  | creationUnanswered
  /-- The environment of a created application is refused. -/
  | creationNotReadable (id : String)
  /-- The pool takes no more work. -/
  | poolRejected (cause : Fault)
  /-- Work that the pool took came to no result. -/
  | workerFailed (cause : Fault)
  /-- Work was cancelled. -/
  | cancelled
  /-- A platform call of the pipeline failed. -/
  | operationFailed (operation : Operation) (cause : Fault)
  /-- The platform confirmed an operation without the payload that belongs to it. -/
  | unanswered (operation : Operation)
  /-- A package can no longer become ready. -/
  | packageFailed (id : Option String) (state : String)
  /-- A build can no longer be staged. -/
  | buildFailed (state : String)
  /-- A build was staged, but the platform names no droplet. -/
  | stagedWithoutDroplet (build : Option String)
  /-- What was waited for did not become ready in time. -/
  | timedOut (wait : Wait)
  /-- What was waited for was still not ready when nobody had the patience to ask again. -/
  | unfinished (wait : Wait)
  /-- An artifact cannot be opened. -/
  | artifactMissing
  /-- A file cannot be read. -/
  | fileUnreadable
  /-- A path has a character in it that no path has. -/
  | pathMalformed
  /-- A text is no document. -/
  | notADocument
  /-- Bytes are not the encoding of a text. -/
  | notUnicode
  /-- The configuration file cannot be read. -/
  | configUnreadable (path : String)
  /-- The configuration file is no document. -/
  | configInvalid (path : String)
  /-- The configuration file holds something other than a mapping. -/
  | configNotMapping (path : String)
  /-- A setting is named by something other than text. -/
  | settingNotNamed
  /-- No severity has the given name. -/
  | unknownSeverity (name : String)
  /-- A counter was to be decreased. -/
  | negativeIncrement
  deriving Inhabited

namespace Fault

/-- The kind of a fault. -/
def category : Fault → Category
  | reported r => r.category
  | invalid _ _ => .validation
  | immutable | settingNotNamed => .misuse
  | unreadableScalar kind _ => kind
  | unknownRunState _ | unknownVariable _ | numeralTooLong _ | integerTooLong | clockUndefined
  | yearOutOfRange | pathMalformed | negativeIncrement => .value
  | clockInfinite => .overflow
  | applicationNotFound _ | applicationNotReadable _ => .notFound
  | lookupFailed _ => .remote
  | detailsRefused => .unauthorized
  | creationUnanswered | creationNotReadable _ | unanswered _ | stagedWithoutDroplet _ => .unexpectedResponse
  | poolRejected _ | workerFailed _ => .refreshAborted
  | cancelled => .cancelled
  | operationFailed _ _ => .pipeline
  | packageFailed _ _ | buildFailed _ => .terminal
  | timedOut _ | unfinished _ => .timeout
  | artifactMissing => .missingFile
  | fileUnreadable => .unreadableFile
  | notADocument => .markup
  | notUnicode => .encoding
  | configUnreadable _ | configInvalid _ | configNotMapping _ => .configuration
  | unknownSeverity _ => .unknownName

/-- The fault behind a fault. -/
def cause : Fault → Option Fault
  | lookupFailed c | poolRejected c | workerFailed c | operationFailed _ c => some c
  | configUnreadable _ => some fileUnreadable
  | configInvalid _ => some notADocument
  | _ => none

/-- The code of a fault. A failed operation carries that of the failed call. -/
def code : Fault → Option String
  | reported r => r.code
  | operationFailed _ c => code c
  | f => Report.codeFor f.category none

/-- The state that the platform gave for what cannot become ready any more. -/
def status : Fault → Option String
  | reported r => r.status
  | packageFailed _ state | buildFailed state => some state
  | _ => none

/-- An identifier inside a message; a missing one is named too. -/
def shown (id : Option String) : String :=
  id.getD "None"

/-- What the platform leaves out when it confirms an operation. -/
def unansweredMessage : Operation → String
  | .downloadBits => "Failed to retrieve input stream of package bits."
  | .createPackage =>
    "Platform signaled that package creation succeeded but failed to provide a response."
  | .uploadBits =>
    "Platform signaled that package upload succeeded but failed to provide a response."
  | .createBuild =>
    "Platform signaled that build creation succeeded but failed to provide a response."
  | other => "Platform signaled that " ++ other.name ++ " succeeded but failed to provide a response."

/-- The text of a fault. -/
def message : Fault → String
  | reported r => if r.category = .lookup then Text.quoted r.message else r.message
  | invalid record problems =>
    Decimal.text problems.length ++ (if problems.length = 1 then " validation error" else " validation errors")
      ++ " for " ++ record
  | immutable => "the record cannot be changed"
  | unknownRunState word => Text.quoted word ++ " is not a valid WorkloadState"
  | unknownVariable name => Text.quoted name ++ " is not a valid MetadataEnvVar"
  | numeralTooLong digits =>
    "Exceeds the limit (4300 digits) for integer string conversion: value has " ++ Decimal.text digits
      ++ " digits; use sys.set_int_max_str_digits() to increase the limit"
  | integerTooLong =>
    "Exceeds the limit (4300 digits) for integer string conversion; "
      ++ "use sys.set_int_max_str_digits() to increase the limit"
  | clockUndefined => "cannot convert float NaN to integer"
  | clockInfinite => "cannot convert float infinity to integer"
  | yearOutOfRange => "year 0 is out of range"
  | unreadableScalar _ why => why
  | applicationNotFound id => "Application " ++ id ++ " not found"
  | applicationNotReadable id => "Application " ++ id ++ " is not readable"
  | lookupFailed _ => "Unable to find application by id"
  | detailsRefused => "Not authorized to retrieve details for this application"
  | creationUnanswered =>
    "Platform signaled that application creation succeeded but failed to provide a response."
  | creationNotReadable id => "Created application " ++ id ++ " is not readable"
  | poolRejected cause => "Worker pool rejected refresh work: " ++ message cause
  | workerFailed cause => "Refresh worker failed: " ++ message cause
  | cancelled => ""
  | operationFailed operation cause => operation.name ++ " failed: " ++ message cause
  | unanswered operation => unansweredMessage operation
  | packageFailed id state => "Upload failed: package " ++ shown id ++ " is " ++ state
  | buildFailed _ => "Failed to build droplet or there are not enough resources available"
  | stagedWithoutDroplet build => "Build " ++ shown build ++ " staged without a droplet"
  | timedOut wait => "Timed out waiting for " ++ wait.name ++ " to become ready"
  | unfinished wait => "Gave up waiting for " ++ wait.name ++ " to become ready"
  | artifactMissing => "the artifact cannot be opened"
  | fileUnreadable => "the file cannot be read"
  | pathMalformed => "embedded null byte"
  | notADocument => "the text is no document"
  | notUnicode => "the bytes are no text"
  | configUnreadable path => "Cannot read config file " ++ path
  | configInvalid path => "Invalid YAML in " ++ path
  | configNotMapping path => "Config file " ++ path ++ " must contain a mapping"
  | settingNotNamed => "settings are named by text"
  | unknownSeverity name => "there is no severity " ++ name
  | negativeIncrement => "Counters can only be incremented by non-negative amounts."

/-- Whether a platform call failed. -/
def isRemote (f : Fault) : Bool :=
  f.category = .remote || f.category = .unauthorized

/-- Whether a platform call was refused. -/
def isRefusal (f : Fault) : Bool :=
  f.isRemote && f.code = some refusedCode

/-- Whether a resource is missing on the platform. -/
def isNotFound (f : Fault) : Bool :=
  f.category = .notFound

/-- Whether a package or build cannot become ready any more. -/
def isTerminal (f : Fault) : Bool :=
  f.category = .terminal

/-- Whether what runs the program reports that it cannot go on. A pool that takes no more work says so. -/
def isRuntime (f : Fault) : Bool :=
  f.category = .runtime

/-- Whether the system could not open or read something. -/
def isSystem (f : Fault) : Bool :=
  f.category = .missingFile || f.category = .unreadableFile

/-- Whether a cycle is aborted by it. -/
def isAbort (f : Fault) : Bool :=
  f.category = .refreshAborted

end Fault

end Steward
