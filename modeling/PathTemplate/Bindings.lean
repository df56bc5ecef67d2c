import Std.Data.TreeMap

/-!
# Bindings and the scope of a rendering

A template is rendered against two maps: the bindings that the caller supplies and the defaults that
the template carries.  A scope reads them as one, the caller's value first.
-/

namespace PathTemplate

/-- Values by variable name, listed in the order of the names' code points. -/
abbrev Bindings := Std.TreeMap String String

/-- Of several pairs with one name the last counts. -/
def Bindings.ofPairs (pairs : List (String × String)) : Bindings :=
  Std.TreeMap.ofList pairs

structure Scope where
  caller : Bindings
  defaults : Bindings

namespace Scope

def get? (scope : Scope) (name : String) : Option String :=
  scope.caller[name]?.or scope.defaults[name]?

def contains (scope : Scope) (name : String) : Bool :=
  (scope.get? name).isSome

@[simp] theorem contains_eq_true_iff {scope : Scope} {name : String} :
    scope.contains name = true ↔ ∃ value, scope.get? name = some value := by
  simp [contains, Option.isSome_iff_exists]

end Scope
end PathTemplate
