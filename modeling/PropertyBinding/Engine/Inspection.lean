import PropertyBinding.Engine.Update

namespace PropertyBinding

/-!
# Inspection

What tools see of a world: the names of sources, and descriptions of its parts.
-/

namespace PropertyType

/-- A type as tools show it. -/
def describe : PropertyType → String
  | .bool => "Bool"
  | .int => "Int"
  | .float => "Float"
  | .double => "Double"
  | .string => "String"
  | .enum id => s!"Enum(EnumId({id}))"
  | .object declared => s!"Object(ClassId({declared}))"
  | .list declared => s!"List(ClassId({declared}))"
  | .record id => s!"Value(ValueTypeId({id}))"
  | .variant => "Variant"
  | .script => "ScriptValue"
  | .var => "Var"

end PropertyType

namespace Location

/-- A place as tools show it. -/
def describe (location : Location) : String :=
  "SourceLocation \x7b url: " ++ Text.shown location.url ++ ", line: " ++ toString location.line
    ++ ", column: " ++ toString location.column ++ " \x7d"

end Location

namespace Function

/-- A function as tools show it. -/
def describe (function : Function) : String :=
  let promised :=
    match function.returnType? with
    | some type => "Some(" ++ type.describe ++ ")"
    | none => "None"
  "CompiledFunction \x7b name: " ++ Text.shown function.name ++ ", location: "
    ++ function.location.describe ++ ", return_type: " ++ promised ++ " \x7d"

end Function

namespace Binding

/-- The names of what is on in a binding. -/
def flagNames (binding : Binding) : List String :=
  [("enabled", binding.enabled), ("updating", binding.updating),
    ("notify", binding.notifyOnChange), ("fast", binding.fastPath),
    ("args", binding.hasArguments), ("retired", binding.retired)].filterMap fun (name, isOn) =>
      if isOn then some name else none

end Binding

namespace World

variable {σ : Type}

/-- The name of a source: its object and property, or the label of a notifier. -/
def sourceName (world : World σ) : Source → String
  | .property object signal =>
      match world.graph.signalName? object signal with
      | some name => object.text ++ "." ++ name
      | none => s!"<destroyed>#{signal}"
  | .notifier id => ((world.notifiers[id]?).map (·.label)).getD ""

/-- The names of the sources that a binding follows, while there is a graph. -/
def dependencies (world : World σ) (binding : Binding) : List String :=
  if world.hasGraph then binding.reads.sources.map world.sourceName else []

/-- The path of a binding's target, while there is a graph. -/
def path? (world : World σ) (binding : Binding) : Option String :=
  if world.hasGraph then some (binding.target.path world.graph) else none

/-- Whether a binding that something keeps reports into some diagnostics. -/
def isReportedInto (world : World σ) (id : DiagnosticsId) : Bool :=
  world.bindings.zipIdx.any fun (binding, place) =>
    binding.context.diagnostics = id && world.keepsBinding place

/-- The object graph as tools show it. -/
def describeGraph (world : World σ) : String :=
  world.graph.describe world.channels.propertyCount

/-- What a holder that does not keep the object graph knows of it, as tools show it. -/
def describeWeakGraph (world : World σ) : String :=
  "WeakObjectGraph \x7b alive: " ++ (if world.hasGraph then "true" else "false") ++ " \x7d"

end World

end PropertyBinding
