import PathTemplate.Proofs.Pattern.Source
import PathTemplate.Proofs.Registry.Run
import PathTemplate.Proofs.Template

/-!
# Mounts and where they come from

Placing a mount under another one takes the other as it stands at that moment.  A mount in a
registry is therefore a record of past moments: each mount in its chain was compiled by some request
of the run, and stands under what another id held when the two were put together.  Nothing that
happens to either id later reaches it, so a chain has an end even where a mount is placed under
itself.
-/

namespace PathTemplate

namespace Mount

/-- What a run tells of a mount: one request compiled its template, and if it stands under a mount,
one request placed it there, with both as they stood at the time. -/
structure Recorded (requests : List Request) (mount : Mount) : Prop where
  compiled : ∃ id settings,
    Request.create id mount.template.raw mount.template.defaults settings ∈ requests ∧
    Template.compile mount.template.raw mount.template.defaults settings = .ok mount.template
  placed : ∀ outer, mount.parent? = some outer → ∃ before id parent after own,
    requests = before ++ Request.attach id parent :: after ∧
    (Registry.final {} before)[id]? = some own ∧
    (Registry.final {} before)[parent]? = some outer ∧ mount = own.attach outer

variable {requests : List Request} {id : String}

theorem Recorded.append {mount : Mount} (request : Request) (h : mount.Recorded requests) :
    mount.Recorded (requests ++ [request]) where
  compiled := by
    obtain ⟨id, settings, hmem, hcompile⟩ := h.compiled
    exact ⟨id, settings, List.mem_append_left _ hmem, hcompile⟩
  placed := by
    intro outer houter
    obtain ⟨before, id, parent, after, own, hsplit, hown, hparent, heq⟩ := h.placed outer houter
    exact ⟨before, id, parent, after ++ [request], own, by simp [hsplit], hown, hparent, heq⟩

theorem recorded_of_compile {raw : String} {defaults : Bindings} {settings : Settings}
    {template : Template} (hcompile : Template.compile raw defaults settings = .ok template) :
    (root template).Recorded (requests ++ [.create id raw defaults settings]) where
  compiled := by
    obtain ⟨pattern, hparse, rfl⟩ := Template.eq_of_compile_eq_ok hcompile
    exact ⟨id, settings, by simp [Mount.template], hcompile⟩
  placed := by
    intro outer houter
    cases houter

theorem Recorded.attach {parent : String} {own outer : Mount}
    (hown : (Registry.final {} requests)[id]? = some own)
    (houter : (Registry.final {} requests)[parent]? = some outer) (h : own.Recorded requests) :
    (own.attach outer).Recorded (requests ++ [.attach id parent]) where
  compiled := (h.append _).compiled
  placed := by
    intro other hother
    obtain rfl : outer = other := Option.some.inj hother
    exact ⟨requests, id, parent, [], own, rfl, hown, houter, rfl⟩

/-- All mounts in all chains that a run leaves are on its record. -/
theorem recorded_of_mem_ancestors {mount : Mount}
    (hmount : (Registry.final {} requests)[id]? = some mount) :
    ∀ owner ∈ mount.ancestors, owner.Recorded requests :=
  Registry.forall_mem_ancestors_final (fun request h => h.append request) recorded_of_compile
    Recorded.attach hmount

end Mount

namespace Registry

/-! ## The length of a chain -/

/-- The request places a mount under another one, and both are there. -/
def attaches (registry : Registry) : Request → Bool
  | .attach id parent => registry.contains id && registry.contains parent
  | _ => false

def attachments (registry : Registry) : List Request → ℕ
  | [] => 0
  | request :: rest =>
    (registry.attaches request).toNat + attachments (registry.step request).1 rest

def ChainsWithin (registry : Registry) (bound : ℕ) : Prop :=
  ∀ (id : String) (mount : Mount), registry[id]? = some mount → mount.ancestors.length ≤ bound

/-- No chain outgrows the others by more than the one mount that an attachment puts before it. -/
theorem ChainsWithin.step {registry : Registry} {bound : ℕ} (h : registry.ChainsWithin bound)
    (hbound : 1 ≤ bound) (request : Request) :
    (registry.step request).1.ChainsWithin (bound + (registry.attaches request).toNat) := by
  intro id mount hmount
  rcases getElem?_or_writes_of_step hmount with hstood | hwrites
  · have hlength := h id mount hstood
    omega
  · cases hwrites with
    | created hcompile =>
        rw [Mount.ancestors, List.length_singleton]
        omega
    | @attached id parent own outer hown houter =>
        have hlength := h parent outer houter
        have hattaches : registry.attaches (.attach id parent) = true := by
          simp [attaches, Std.TreeMap.contains_eq_isSome_getElem?, hown, houter]
        rw [hattaches, Mount.attach, Mount.ancestors, List.length_cons, Bool.toNat_true]
        omega
    | @copied source id mount hsource =>
        have hlength := h source mount hsource
        omega

theorem ChainsWithin.final {registry : Registry} {bound : ℕ} (h : registry.ChainsWithin bound)
    (hbound : 1 ≤ bound) (requests : List Request) :
    (registry.final requests).ChainsWithin (bound + registry.attachments requests) := by
  induction requests generalizing registry bound with
  | nil => exact h
  | cons request rest ih =>
      have hrest := ih (h.step hbound request) (by omega)
      rwa [Nat.add_assoc] at hrest

/-! ## What a run leaves -/

theorem outcome_congr {left right : Registry} {id : String} (h : left[id]? = right[id]?)
    (bindings : Bindings) :
    (left.step (.ancestors id)).2 = (right.step (.ancestors id)).2 ∧
      (left.step (.render id bindings)).2 = (right.step (.render id bindings)).2 ∧
      (left.step (.renderAlone id bindings)).2 = (right.step (.renderAlone id bindings)).2 := by
  have hquery : ∀ answer, (left.query id answer).2 = (right.query id answer).2 := by
    intro answer
    rw [query, query, h]
    split <;> rfl
  exact ⟨hquery _, hquery _, hquery _⟩

/-- After any requests to an empty registry, each mount in each chain has the tree of its text,
which is written as that text again, and the variables of the tree; where its settings ask for it,
all its defaults are declared.  Its chain is itself and then the chain of the mount it stands under,
as that one was when the two were put together, and is longer than one only by the attachments made.
A mount attached under another loses the parent it had, and neither its chain nor its renderings
change until a request writes to its own id. -/
theorem lineages_intact (requests : List Request) :
    let registry : Registry := final {} requests
    (∀ (id : String) (mount : Mount), registry[id]? = some mount →
      mount.ancestors.length ≤ 1 + attachments {} requests ∧
      ∀ owner ∈ mount.ancestors,
        Pattern.parse owner.template.raw = .ok owner.template.pattern ∧
        Pattern.source owner.template.pattern = owner.template.raw ∧
        owner.template.declared = Variables.ofPattern owner.template.pattern ∧
        (∀ settings, Template.compile owner.template.raw owner.template.defaults settings =
            .ok owner.template → settings.policy = .reject →
          ∀ name ∈ owner.template.defaults, owner.template.declared.contains name = true) ∧
        owner.Recorded requests ∧
        owner.ancestors = owner :: (owner.parent?.map Mount.ancestors).getD []) ∧
    (∀ before id parent after own outer, requests = before ++ .attach id parent :: after →
      (final {} before)[id]? = some own → (final {} before)[parent]? = some outer →
      (∀ request ∈ after, request.written? ≠ some id) →
      ∃ mount, registry[id]? = some mount ∧ mount.template = own.template ∧
        mount.ancestors = mount :: outer.ancestors) ∧
    (∀ before after id, requests = before ++ after →
      (∀ request ∈ after, request.written? ≠ some id) →
      registry[id]? = (final {} before)[id]? ∧
      ∀ bindings,
        (registry.step (.ancestors id)).2 = ((final {} before).step (.ancestors id)).2 ∧
        (registry.step (.render id bindings)).2 =
          ((final {} before).step (.render id bindings)).2 ∧
        (registry.step (.renderAlone id bindings)).2 =
          ((final {} before).step (.renderAlone id bindings)).2) := by
  intro registry
  refine ⟨?_, ?_, ?_⟩
  · intro id mount hmount
    have hempty : ChainsWithin {} 1 := by simp [ChainsWithin]
    refine ⟨hempty.final le_rfl requests id mount hmount, ?_⟩
    intro owner howner
    have hrecorded := Mount.recorded_of_mem_ancestors hmount owner howner
    obtain ⟨-, settings, -, hcompile⟩ := hrecorded.compiled
    have hcompiled := Template.compiled_of_compile_eq_ok hcompile
    refine ⟨hcompiled.parsed, Pattern.source_of_parse_eq_ok hcompiled.parsed, hcompiled.declared,
      ?_, hrecorded, owner.ancestors_eq_cons⟩
    intro settings hcompile hpolicy name hname
    exact Template.contains_declared_of_compile_reject hcompile hpolicy hname
  · intro before id parent after own outer hsplit hown houter hafter
    have hfinal : registry = ((final {} before).step (.attach id parent)).1.final after := by
      rw [← final_cons, ← final_append, ← hsplit]
    refine ⟨own.attach outer, ?_, rfl, rfl⟩
    rw [hfinal, getElem?_final hafter, getElem?_step_attach hown houter]
  · intro before after id hsplit hafter
    have hfinal : registry = (final {} before).final after := by
      rw [← final_append, ← hsplit]
    have hsame : registry[id]? = (final {} before)[id]? := by
      rw [hfinal, getElem?_final hafter]
    exact ⟨hsame, outcome_congr hsame⟩

/-- A mount placed under a mount and then under itself, after which what it first stood under is
replaced. -/
theorem lineages_intact_of_self_attachment :
    ∃ before after : List Request, ∃ own mount : Mount,
      (final {} before)["a"]? = some own ∧
      (final {} (before ++ .attach "a" "a" :: after))["a"]? = some mount ∧
      mount.ancestors = mount :: own.ancestors ∧
      mount.ancestors.map (fun owner => owner.template.raw) = ["/a(/:x)", "/a(/:x)", "/b"] ∧
      ∀ owner ∈ mount.ancestors,
        Pattern.parse owner.template.raw = .ok owner.template.pattern ∧
        owner.Recorded (before ++ .attach "a" "a" :: after) := by
  let before : List Request :=
    [.create "a" "/a(/:x)" (Bindings.ofPairs [("x", "1")]) ⟨.reject, false⟩,
      .create "b" "/b" {} .default, .attach "a" "b"]
  let after : List Request :=
    [.create "b" "/c" {} .default, .copy "a" "d", .attach "d" "b"]
  let inner : Template :=
    ⟨"/a(/:x)", Bindings.ofPairs [("x", "1")],
      [.separator, .text "a", .group [.separator, .var "x"]], ⟨[], ["x"]⟩, false⟩
  let outer : Template := ⟨"/b", {}, [.separator, .text "b"], ⟨[], []⟩, false⟩
  let own : Mount := .under (.root outer) inner
  obtain ⟨hkept, hattached, -⟩ := lineages_intact (before ++ .attach "a" "a" :: after)
  have hown : (final {} before)["a"]? = some own := by cbv
  have hafter : ∀ request ∈ after, request.written? ≠ some "a" := by decide
  obtain ⟨mount, hmount, htemplate, hancestors⟩ :=
    hattached before "a" "a" after own own rfl hown hown hafter
  refine ⟨before, after, own, mount, hown, hmount, hancestors, ?_, ?_⟩
  · rw [hancestors, List.map_cons, htemplate]
    rfl
  · intro owner howner
    obtain ⟨hparsed, -, -, -, hrecorded, -⟩ := (hkept "a" mount hmount).2 owner howner
    exact ⟨hparsed, hrecorded⟩

end Registry
end PathTemplate
