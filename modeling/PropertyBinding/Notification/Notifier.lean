import PropertyBinding.Notification.Channel
import PropertyBinding.Value.Equality

namespace PropertyBinding

/-!
# Notifiers

A notifier is a script value outside the object graph that announces its
changes.  Its version counts them.
-/

/-- A value that announces its changes. -/
structure Notifier where
  label : String
  value : Value
  /-- How often the value has changed. -/
  version : Nat := 0

namespace Notifier

/-- The notifier with a new value, unless the new value equals the old one. -/
def assign? (notifier : Notifier) (value : Value) : Option Notifier :=
  if notifier.value.same value then
    none
  else
    some { notifier with value := value, version := notifier.version + 1 }

end Notifier

end PropertyBinding
