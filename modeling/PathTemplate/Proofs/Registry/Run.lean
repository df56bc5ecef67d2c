import Mathlib.Tactic
import PathTemplate.Registry

/-!
# Runs of a registry

A request writes to one id at most.  What it writes there is a mount just compiled, a mount placed
under another one, or a mount that stands under some id already.  What stands under an id therefore
stays until a request writes to that id, and a property that mounts have when they are made, and
keep from then on, is a property of all mounts in all chains that a run leaves.
-/

namespace PathTemplate

theorem Mount.ancestors_eq_cons (mount : Mount) :
    mount.ancestors = mount :: (mount.parent?.map ancestors).getD [] := by
  cases mount <;> rfl

theorem Mount.self_mem_ancestors (mount : Mount) : mount ∈ mount.ancestors := by
  rw [ancestors_eq_cons]
  exact List.mem_cons_self

/-- The id that a request writes to, unless it only asks. -/
def Request.written? : Request → Option String
  | .create id _ _ _ => some id
  | .attach id _ => some id
  | .copy _ target => some target
  | .render _ _ | .renderAlone _ _ | .ancestors _ | .describe _ => none

namespace Registry

variable {registry : Registry} {request : Request} {id : String} {mount : Mount}

/-- The registry that a run leaves. -/
def final (registry : Registry) (requests : List Request) : Registry :=
  (registry.run requests).1

@[simp] theorem final_nil (registry : Registry) : registry.final [] = registry := rfl

@[simp] theorem final_cons (registry : Registry) (request : Request) (rest : List Request) :
    registry.final (request :: rest) = (registry.step request).1.final rest := rfl

@[simp] theorem final_append (registry : Registry) (before after : List Request) :
    registry.final (before ++ after) = (registry.final before).final after := by
  induction before generalizing registry with
  | nil => rfl
  | cons request rest ih => exact ih _

@[simp] theorem query_fst (registry : Registry) (id : String) (answer : Mount → Outcome) :
    (registry.query id answer).1 = registry := by
  unfold query
  split <;> rfl

/-! ## One request -/

theorem step_create_of_error {raw : String} {defaults : Bindings} {settings : Settings}
    {error : CompileError} (hcompile : Template.compile raw defaults settings = .error error) :
    registry.step (.create id raw defaults settings) =
      (registry, ⟨.refused error, (Template.compileLogged raw defaults settings).run.events⟩) := by
  rw [Template.compile] at hcompile
  simp only [step, hcompile]

theorem step_create_of_ok {raw : String} {defaults : Bindings} {settings : Settings}
    {template : Template} (hcompile : Template.compile raw defaults settings = .ok template) :
    registry.step (.create id raw defaults settings) =
      (registry.insert id (.root template),
        ⟨.created (.root template),
          (Template.compileLogged raw defaults settings).run.events⟩) := by
  rw [Template.compile] at hcompile
  simp only [step, hcompile]

/-- The mount that a request writes, and the id that it writes it to. -/
inductive Writes (registry : Registry) : Request → String → Mount → Prop
  | created {id raw : String} {defaults : Bindings} {settings : Settings} {template : Template}
      (hcompile : Template.compile raw defaults settings = .ok template) :
      Writes registry (.create id raw defaults settings) id (.root template)
  | attached {id parent : String} {own outer : Mount} (hown : registry[id]? = some own)
      (houter : registry[parent]? = some outer) :
      Writes registry (.attach id parent) id (own.attach outer)
  | copied {source id : String} {mount : Mount} (hsource : registry[source]? = some mount) :
      Writes registry (.copy source id) id mount

theorem Writes.written?_eq (h : registry.Writes request id mount) :
    request.written? = some id := by
  cases h <;> rfl

/-- A request changes nothing, or puts the mount that it writes under the id that it writes to. -/
theorem step_cases (registry : Registry) (request : Request) :
    (registry.step request).1 = registry ∨
      ∃ id mount, registry.Writes request id mount ∧
        (registry.step request).1 = registry.insert id mount := by
  cases request with
  | create id raw defaults settings =>
      cases hcompile : Template.compile raw defaults settings with
      | error error => exact .inl (by rw [step_create_of_error hcompile])
      | ok template =>
          exact .inr ⟨id, .root template, .created hcompile, by rw [step_create_of_ok hcompile]⟩
  | attach id parent =>
      cases hown : registry[id]? with
      | none => exact .inl (by simp only [step, hown])
      | some own =>
          cases houter : registry[parent]? with
          | none => exact .inl (by simp only [step, hown, houter])
          | some outer =>
              exact .inr ⟨id, own.attach outer, .attached hown houter,
                by simp only [step, hown, houter]⟩
  | copy source id =>
      cases hsource : registry[source]? with
      | none => exact .inl (by simp only [step, hsource])
      | some mount => exact .inr ⟨id, mount, .copied hsource, by simp only [step, hsource]⟩
  | render id bindings => exact .inl (by simp only [step, query_fst])
  | renderAlone id bindings => exact .inl (by simp only [step, query_fst])
  | ancestors id => exact .inl (by simp only [step, query_fst])
  | describe id => exact .inl (by simp only [step, query_fst])

/-- A request leaves all ids alone but the one that it writes to. -/
theorem getElem?_step (h : request.written? ≠ some id) :
    (registry.step request).1[id]? = registry[id]? := by
  rcases registry.step_cases request with hsame | ⟨key, value, hwrites, hinsert⟩
  · rw [hsame]
  · have hkey : key ≠ id := by simpa [hwrites.written?_eq] using h
    rw [hinsert, Std.TreeMap.getElem?_insert, if_neg (by simpa using hkey)]

/-- A mount stands where it stood before, or where the request has written it. -/
theorem getElem?_or_writes_of_step (h : (registry.step request).1[id]? = some mount) :
    registry[id]? = some mount ∨ registry.Writes request id mount := by
  rcases registry.step_cases request with hsame | ⟨key, value, hwrites, hinsert⟩
  · rw [hsame] at h
    exact .inl h
  · rw [hinsert, Std.TreeMap.getElem?_insert] at h
    split at h
    next hkey =>
      obtain rfl : key = id := by simpa using hkey
      obtain rfl := Option.some.inj h
      exact .inr hwrites
    next => exact .inl h

theorem getElem?_step_attach {parent : String} {outer : Mount}
    (hmount : registry[id]? = some mount) (houter : registry[parent]? = some outer) :
    (registry.step (.attach id parent)).1[id]? = some (mount.attach outer) := by
  simp [step, hmount, houter]

/-! ## Whole runs -/

/-- What stands under an id stays as long as no request writes to the id. -/
theorem getElem?_final {requests : List Request}
    (h : ∀ request ∈ requests, request.written? ≠ some id) :
    (registry.final requests)[id]? = registry[id]? := by
  induction requests generalizing registry with
  | nil => rfl
  | cons request rest ih =>
      rw [final_cons, ih (fun other hmem => h other (List.mem_cons_of_mem request hmem)),
        getElem?_step (h request List.mem_cons_self)]

/-- What a mount has when it is made, and keeps as the run goes on, all mounts have in all chains
that the run leaves. -/
theorem forall_mem_ancestors_final {P : List Request → Mount → Prop}
    (hkept : ∀ {requests mount} request, P requests mount → P (requests ++ [request]) mount)
    (hcreated : ∀ {requests id raw defaults settings template},
      Template.compile raw defaults settings = .ok template →
      P (requests ++ [.create id raw defaults settings]) (.root template))
    (hattached : ∀ {requests id parent own outer},
      (final {} requests)[id]? = some own → (final {} requests)[parent]? = some outer →
      P requests own → P (requests ++ [.attach id parent]) (own.attach outer))
    {requests : List Request} (hmount : (final {} requests)[id]? = some mount) :
    ∀ owner ∈ mount.ancestors, P requests owner := by
  induction requests using List.reverseRec generalizing id mount with
  | nil => simp at hmount
  | append_singleton requests request ih =>
      rw [final_append] at hmount
      intro owner howner
      rcases getElem?_or_writes_of_step hmount with hstood | hwrites
      · exact hkept request (ih hstood owner howner)
      · cases hwrites with
        | created hcompile =>
            rw [Mount.ancestors, List.mem_singleton] at howner
            rw [howner]
            exact hcreated hcompile
        | @attached id parent own outer hown houter =>
            rw [Mount.attach, Mount.ancestors] at howner
            rcases List.mem_cons.mp howner with rfl | houtwards
            · exact hattached hown houter (ih hown own own.self_mem_ancestors)
            · exact hkept _ (ih houter owner houtwards)
        | copied hsource => exact hkept _ (ih hsource owner howner)

end Registry
end PathTemplate
