import PropertyBinding.Object.Id
import PropertyBinding.Script.Location
import PropertyBinding.Text.Quoted

namespace PropertyBinding

/-!
# Failures

A failure of a binding as it is recorded, and the line that keeps it as evidence.
-/

/-- The kinds of failures. -/
inductive FailureKind where
  /-- The source text did not compile. -/
  | compile
  /-- The evaluation threw. -/
  | evaluation
  /-- A binding re-entered its own update. -/
  | bindingLoop
  /-- The result was `undefined` and the type has no empty value. -/
  | undefinedAssignment
  /-- The result has no form of the declared type. -/
  | typeMismatch
  /-- The result was a function and the type takes none. -/
  | functionAssignment
  /-- The target could not be resolved or written. -/
  | property
deriving Repr, DecidableEq

namespace FailureKind

/-- The name of a kind. -/
def name : FailureKind → String
  | .compile => "compile"
  | .evaluation => "evaluation"
  | .bindingLoop => "binding_loop"
  | .undefinedAssignment => "undefined_assignment"
  | .typeMismatch => "type_mismatch"
  | .functionAssignment => "function_assignment"
  | .property => "property"

/-- All kinds. -/
def all : List FailureKind :=
  [.compile, .evaluation, .bindingLoop, .undefinedAssignment, .typeMismatch, .functionAssignment,
    .property]

/-- The kind of a name. -/
def ofName? (name : String) : Option FailureKind :=
  all.find? fun kind => kind.name = name

end FailureKind

/-- A failure as it is recorded. -/
structure Failure where
  kind : FailureKind
  location : Location
  /-- The object that was to be written. -/
  object? : Option ObjectId := none
  message : String
  /-- The name of the property that was to be written. -/
  path? : Option String := none
deriving Repr, DecidableEq

namespace Failure

/-- The message after the place it is about. -/
def text (failure : Failure) : String :=
  s!"{failure.location.text}: {failure.message}"

/-- The object of a failure as evidence holds it. -/
def quotedObject (failure : Failure) : String :=
  match failure.object? with
  | some id => Text.quoted id.text
  | none => "null"

/-- The path of a failure as the last item of evidence, left out when there is none. -/
def quotedPath (failure : Failure) : String :=
  match failure.path? with
  | some path => ",\"property_path\":" ++ Text.quoted path
  | none => ""

/-- The line that keeps a failure as evidence. -/
def evidence (failure : Failure) : String :=
  "\x7b\"event\":\"binding_error\",\"kind\":" ++ Text.quoted failure.kind.name
    ++ ",\"location\":\x7b\"url\":" ++ Text.quoted failure.location.url
    ++ ",\"line\":" ++ toString failure.location.line
    ++ ",\"column\":" ++ toString failure.location.column
    ++ "\x7d,\"object\":" ++ failure.quotedObject
    ++ ",\"message\":" ++ Text.quoted failure.message
    ++ failure.quotedPath ++ "\x7d"

end Failure

end PropertyBinding
