import PathTemplate.Journal
import PathTemplate.Path
import PathTemplate.Pattern.Outline
import PathTemplate.Pattern.Variables
import PathTemplate.Settings.Basic
import PathTemplate.Text.ByteOrder

/-!
# Templates

A template is a compiled pattern together with its defaults.  Compiling fails on a malformed pattern
and, where the settings say so, on defaults that the pattern has no variable for.  Rendering fails
if a required variable has no value, and then names every such variable of the template.
-/

namespace PathTemplate

inductive CompileError where
  | malformed (fault : PatternError)
  /-- Defaults for variables that the pattern does not have, in the order of their names. -/
  | undeclaredDefaults (names : List String)
  deriving Repr, DecidableEq

def CompileError.message : CompileError → String
  | malformed fault => "invalid url mount pattern: " ++ fault.message
  | undeclaredDefaults names => "defaults given for unknown variables: " ++ ", ".intercalate names

/-- Why a rendering has no path: required variables without a value, each name once. -/
structure MissingVariables where
  names : List String
  deriving Repr, DecidableEq

def MissingVariables.message (missing : MissingVariables) : String :=
  "missing required variables: " ++ ", ".intercalate missing.names

structure Template where
  /-- The pattern as it was written. -/
  raw : String
  defaults : Bindings
  pattern : Pattern
  declared : Variables
  trailingSlash : Bool

namespace Template

/-- The names that have a default but no variable, in the order of their bytes. -/
def undeclared (defaults : Bindings) (declared : Variables) : List String :=
  Text.sortByBytes (defaults.keys.filter fun name => !declared.contains name)

/-- Compiles a template.  Nothing is entered before it is known whether the template is refused. -/
def compileLogged (raw : String) (defaults : Bindings) (settings : Settings) :
    ExceptT CompileError Logged Template := do
  let pattern ← liftExcept ((Pattern.parse raw).mapError CompileError.malformed)
  let declared := Variables.ofPattern pattern
  let unused := undeclared defaults declared
  if unused ≠ [] then
    match settings.policy with
    | .reject => throw (.undeclaredDefaults unused)
    | .ignore => Logged.enter (.ignoredDefaults raw unused)
  Logged.enter
    (.compiled raw pattern.length declared.required.length declared.optional.length)
  return { raw, defaults, pattern, declared, trailingSlash := settings.trailingSlash }

def compile (raw : String) (defaults : Bindings) (settings : Settings) :
    Except CompileError Template :=
  (compileLogged raw defaults settings).run.result

def scope (template : Template) (bindings : Bindings) : Scope :=
  ⟨bindings, template.defaults⟩

def missing (template : Template) (bindings : Bindings) : List String :=
  template.declared.required.filter fun name => !(template.scope bindings).contains name

def fragment (template : Template) (bindings : Bindings) : Except MissingVariables String :=
  match template.missing bindings with
  | [] => .ok (template.pattern.render (template.scope bindings))
  | names => .error ⟨names⟩

/-- Brings joined fragments into the form in which the template hands out its paths. -/
def pathOf (template : Template) (joined : String) : String :=
  let path := (Path.normalize joined).path
  if template.trailingSlash then (Path.close path).path else path

end Template
end PathTemplate
