import PathTemplate.Mount

/-!
# Registry

A registry holds mounts under ids and answers requests one by one.  Mounts are values: a request
writes to one id at most, and never changes what a mount already stands under.  A request for an id
that is not there changes nothing.
-/

namespace PathTemplate

abbrev Registry := Std.TreeMap String Mount

inductive Request where
  | create (id raw : String) (defaults : Bindings) (settings : Settings)
  | attach (id parent : String)
  | copy (id target : String)
  | render (id : String) (bindings : Bindings)
  | renderAlone (id : String) (bindings : Bindings)
  | ancestors (id : String)
  | describe (id : String)

inductive Reply where
  | created (mount : Mount)
  | refused (error : CompileError)
  | copied (mount : Mount)
  | path (path : String)
  | missing (missing : MissingVariables)
  /-- A mount, then the mounts it stands under from the nearest outwards. -/
  | lineage (mounts : List Mount)
  | description (mount : Mount)
  | unknownMount

def Reply.ofRendering : Except MissingVariables String → Reply
  | .ok text => .path text
  | .error cause => .missing cause

structure Outcome where
  reply : Reply
  events : List Event

def Outcome.quiet (reply : Reply) : Outcome := ⟨reply, []⟩

namespace Registry

def query (registry : Registry) (id : String) (answer : Mount → Outcome) : Registry × Outcome :=
  match registry[id]? with
  | some mount => (registry, answer mount)
  | none => (registry, .quiet .unknownMount)

def step (registry : Registry) : Request → Registry × Outcome
  | .create id raw defaults settings =>
    let compiled := (Template.compileLogged raw defaults settings).run
    match compiled.result with
    | .ok template =>
      (registry.insert id (.root template), ⟨.created (.root template), compiled.events⟩)
    | .error error => (registry, ⟨.refused error, compiled.events⟩)
  | .attach id parent =>
    match registry[id]?, registry[parent]? with
    | some mount, some parent =>
      let attached := mount.attach parent
      (registry.insert id attached, .quiet (.lineage attached.ancestors))
    | _, _ => (registry, .quiet .unknownMount)
  | .copy id target =>
    match registry[id]? with
    | some mount => (registry.insert target mount, .quiet (.copied mount))
    | none => (registry, .quiet .unknownMount)
  | .render id bindings =>
    registry.query id fun mount =>
      let rendered := (mount.renderLogged bindings).run
      ⟨.ofRendering rendered.result, rendered.events⟩
  | .renderAlone id bindings =>
    registry.query id fun mount => .quiet (.ofRendering (mount.renderAlone bindings))
  | .ancestors id => registry.query id fun mount => .quiet (.lineage mount.ancestors)
  | .describe id => registry.query id fun mount => .quiet (.description mount)

/-- Answers requests in order, each on the registry that the ones before it leave. -/
def run (registry : Registry) : List Request → Registry × List Outcome
  | [] => (registry, [])
  | request :: rest =>
    let (next, outcome) := registry.step request
    let (final, outcomes) := run next rest
    (final, outcome :: outcomes)

end Registry
end PathTemplate
