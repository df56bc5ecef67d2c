/-!
# Settings of a template

Two choices are made when a template is compiled: what becomes of defaults for variables that the
pattern does not have, and whether rendered paths end with a slash.
-/

namespace PathTemplate

inductive DefaultsPolicy where
  /-- The defaults stay with the template and are never read. -/
  | ignore
  /-- The template is refused. -/
  | reject
  deriving Repr, DecidableEq

namespace DefaultsPolicy

def name : DefaultsPolicy → String
  | ignore => "ignore"
  | reject => "reject"

def names : List String := [ignore.name, reject.name]

def ofName? (name : String) : Option DefaultsPolicy :=
  if name = "ignore" then some ignore
  else if name = "reject" then some reject
  else none

@[simp] theorem ofName?_name (policy : DefaultsPolicy) : ofName? policy.name = some policy := by
  cases policy <;> simp [ofName?, name]

end DefaultsPolicy

structure Settings where
  policy : DefaultsPolicy
  trailingSlash : Bool
  deriving Repr, DecidableEq

def Settings.default : Settings := ⟨.ignore, false⟩

end PathTemplate
