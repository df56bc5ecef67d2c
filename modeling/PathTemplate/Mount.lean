import PathTemplate.Template

/-!
# Mounts

A mount is a template that may stand under another mount, whose path then comes before its own.  The
fragments of the whole chain are joined from the outermost mount inwards and brought into normal
form once, at the end; only the innermost template says how the path ends.  All mounts of a chain
read the same bindings, each over its own defaults.
-/

namespace PathTemplate

inductive Mount where
  | root (template : Template)
  | under (parent : Mount) (template : Template)

namespace Mount

def template : Mount → Template
  | root template => template
  | under _ template => template

def parent? : Mount → Option Mount
  | root _ => none
  | under parent _ => some parent

/-- Places a mount under a parent, in place of any parent that it has. -/
def attach (mount parent : Mount) : Mount :=
  under parent mount.template

/-- The mount, then the one that it stands under, and so on outwards. -/
def ancestors : Mount → List Mount
  | root template => [root template]
  | under parent template => under parent template :: parent.ancestors

def chain (mount : Mount) : List Template :=
  (mount.ancestors.map template).reverse

@[simp] theorem chain_root (template : Template) : (root template).chain = [template] := rfl

@[simp] theorem chain_under (parent : Mount) (template : Template) :
    (under parent template).chain = parent.chain ++ [template] := by
  simp [chain, ancestors, Mount.template]

/-- What a walk along the chain has gathered: the fragments joined so far, and the required
variables found without a value. -/
structure Assembly where
  joined : String
  missing : List String
  deriving Repr, DecidableEq

namespace Assembly

def empty : Assembly := ⟨"", []⟩

def add (bindings : Bindings) (assembly : Assembly) (template : Template) : Assembly :=
  match template.fragment bindings with
  | .ok fragment => { assembly with joined := Path.join assembly.joined fragment }
  | .error missing => { assembly with missing := Names.addAll assembly.missing missing.names }

end Assembly

def assemble (mount : Mount) (bindings : Bindings) : Assembly :=
  mount.chain.foldl (Assembly.add bindings) Assembly.empty

def renderLogged (mount : Mount) (bindings : Bindings) :
    ExceptT MissingVariables Logged String := do
  let assembly := mount.assemble bindings
  if assembly.missing ≠ [] then
    Logged.enter (.missingVariables mount.template.raw assembly.missing)
    throw ⟨assembly.missing⟩
  let path := mount.template.pathOf assembly.joined
  Logged.enter (.rendered mount.template.raw path)
  return path

def render (mount : Mount) (bindings : Bindings) : Except MissingVariables String :=
  (mount.renderLogged bindings).run.result

def renderAlone (mount : Mount) (bindings : Bindings) : Except MissingVariables String :=
  (mount.template.fragment bindings).map mount.template.pathOf

end Mount
end PathTemplate
