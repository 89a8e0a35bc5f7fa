/-!
# Errors

Every failure of the library is one kind of report: what went wrong, in which
operation, and which failure caused it.  The text of a report is made of its
kind, its operation label and its message.

Main definitions:

- {lit}`ErrorKind`: the kinds of failure.
- {lit}`Report`: one failure without its causes.
- {lit}`Error`: a report with the chain of failures that caused it.
- {lit}`Error.render`: the text shown to people.

Main results:

- Theorem {lit}`Error.isTransport_iff`: failing to sign counts as failing to send.
-/

namespace ChefAccess

/-- The kinds of failure. -/
inductive ErrorKind where
  /-- Key material exists but cannot be read. -/
  | keyInvalid
  /-- Hashing or signing a request failed. -/
  | signingFailed
  /-- A request cannot be built. -/
  | requestInvalid
  /-- A configured value is missing, invalid or unknown. -/
  | configInvalid
  /-- A request could not be sent, or its response could not be read. -/
  | transport
  /-- A collaborator failed. -/
  | unexpected
  deriving DecidableEq, Repr

namespace ErrorKind

/-- The words for a kind of failure. -/
def render : ErrorKind → String
  | keyInvalid => "invalid key material"
  | signingFailed => "signing failed"
  | requestInvalid => "invalid request"
  | configInvalid => "invalid configuration"
  | transport => "transport error"
  | unexpected => "unexpected error"

/-- The one-word name of a kind of failure. -/
def name : ErrorKind → String
  | keyInvalid => "KeyInvalid"
  | signingFailed => "SigningFailed"
  | requestInvalid => "RequestInvalid"
  | configInvalid => "ConfigInvalid"
  | transport => "Transport"
  | unexpected => "Unexpected"

/-- All kinds of failure. -/
def all : List ErrorKind :=
  [keyInvalid, signingFailed, requestInvalid, configInvalid, transport, unexpected]

/-- The kind of failure with a given name. -/
def ofName? (s : String) : Option ErrorKind :=
  all.find? (·.name == s)

end ErrorKind

/-- One failure without its causes. -/
structure Report where
  kind : ErrorKind
  message : String
  operation : Option String
  deriving DecidableEq, Repr

/-- The text of a failure. -/
def Report.render (r : Report) : String :=
  match r.operation with
  | none => r.kind.render ++ ": " ++ r.message
  | some operation => r.kind.render ++ " (" ++ operation ++ "): " ++ r.message

/-- A failure with the failures that caused it, the nearest first.  The chain may
end in a failure from outside the library, of which only the fact is kept. -/
structure Error where
  report : Report
  causes : List Report
  external : Bool
  deriving DecidableEq, Repr

namespace Error

/-- A failure without a cause. -/
def new (kind : ErrorKind) (message : String) : Error :=
  ⟨⟨kind, message, none⟩, [], false⟩

/-- The same failure with a cause from outside the library. -/
def withExternal (e : Error) : Error :=
  { e with causes := [], external := true }

/-- The same failure caused by another one. -/
def withCause (e cause : Error) : Error :=
  { e with causes := cause.report :: cause.causes, external := cause.external }

/-- The same failure with the operation that it happened in. -/
def withOperation (e : Error) (operation : String) : Error :=
  { e with report := { e.report with operation := some operation } }

/-- The kind of a failure. -/
def kind (e : Error) : ErrorKind :=
  e.report.kind

/-- The operation that a failure happened in. -/
def operation (e : Error) : Option String :=
  e.report.operation

/-- The failure that caused this one, if it is one of the library's own. -/
def cause? (e : Error) : Option Error :=
  match e.causes with
  | [] => none
  | report :: rest => some ⟨report, rest, e.external⟩

/-- The text of a failure. -/
def render (e : Error) : String :=
  e.report.render

/-- Whether a single request was given up.  Failing to sign counts as failing to
send. -/
def isTransport (e : Error) : Bool :=
  e.kind == .transport || e.kind == .signingFailed

/-- Failing to sign counts as failing to send. -/
theorem isTransport_iff (e : Error) :
    e.isTransport = true ↔ e.kind = .transport ∨ e.kind = .signingFailed := by
  simp [isTransport]

@[simp]
theorem kind_withOperation (e : Error) (operation : String) :
    (e.withOperation operation).kind = e.kind :=
  rfl

@[simp]
theorem operation_withOperation (e : Error) (operation : String) :
    (e.withOperation operation).operation = some operation :=
  rfl

/-- The cause that was given is the cause that is kept. -/
@[simp]
theorem cause?_withCause (e cause : Error) : (e.withCause cause).cause? = some cause :=
  rfl

/-! ## Failures of each kind -/

/-- Key material cannot be read. -/
def keyInvalid (message : String) : Error :=
  new .keyInvalid message

/-- A request could not be signed. -/
def signingFailed (message : String) : Error :=
  new .signingFailed message

/-- A request cannot be built. -/
def requestInvalid (message : String) : Error :=
  new .requestInvalid message

/-- A configured value is missing, invalid or unknown. -/
def configInvalid (message : String) : Error :=
  new .configInvalid message

/-- A request could not be sent, or its response could not be read. -/
def transport (message : String) : Error :=
  new .transport message

/-- A collaborator failed. -/
def unexpected (message : String) : Error :=
  new .unexpected message

/-! ## Failures met outside the library -/

/-- A failure from outside, in its own words. -/
def ofForeign (message : String) : Error :=
  (unexpected message).withExternal

/-- A part of a request that the HTTP rules refuse, in their words. -/
def ofHttp (message : String) : Error :=
  (requestInvalid message).withExternal

/-- A value that refused to be written. -/
def ofFormatting : Error :=
  ofForeign "an error occurred when formatting an argument"

end Error
end ChefAccess
