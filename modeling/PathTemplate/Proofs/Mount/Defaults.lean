import Mathlib
import PathTemplate.Proofs.Mount.Change

/-!
# Defaults and the template that they belong to

The defaults of a template are read when this template is filled in, and never for another one of
the chain.  To the template itself they are nothing but bindings of last resort, so they can just as
well be filled into the caller's bindings, as long as no other template asks for the names that come
in this way.
-/

namespace PathTemplate

/-- A template finds the same values if its defaults are filled into the bindings. -/
theorem Template.Compiled.fragment_filledFrom {template : Template} (h : template.Compiled)
    (bindings : Bindings) :
    (template.withDefaults {}).fragment (bindings.filledFrom template.defaults) =
      template.fragment bindings := by
  apply (h.withDefaults {}).fragment_congr h rfl
  intro name _
  exact Scope.get?_filledFrom bindings template.defaults name

theorem Template.Compiled.fragment_filledFrom_other {template : Template} (h : template.Compiled)
    {bindings defaults : Bindings}
    (hunread : ∀ name ∈ defaults, name ∉ bindings → template.declared.contains name = false) :
    template.fragment (bindings.filledFrom defaults) = template.fragment bindings := by
  apply h.fragment_congr h rfl
  intro name hname
  have hvalue : (bindings.filledFrom defaults)[name]? = bindings[name]? := by
    rw [Bindings.getElem?_filledFrom]
    cases hvalue : bindings[name]? with
    | some value => rfl
    | none =>
        have hunbound : name ∉ bindings := by simpa using hvalue
        have hdefault : name ∉ defaults := by
          intro hmem
          rw [hunread name hmem hunbound] at hname
          cases hname
        simp [hdefault]
  rw [scope, scope, Scope.get?, Scope.get?, hvalue]

namespace Mount

theorem template_mem_chain_of_ancestors {mount outer : Mount} {place : ℕ}
    (h : mount.ancestors[place]? = some outer) : outer.template ∈ mount.chain := by
  rw [chain, List.mem_reverse]
  exact List.mem_map_of_mem (List.mem_of_getElem? h)

/-- The mount with other defaults for the template at a level. -/
def redefaultAt (level : ℕ) (defaults : Bindings) (mount : Mount) : Mount :=
  mount.changeAt (fun own => own.withDefaults defaults) level

theorem trailingSlash_redefaultAt (level : ℕ) (defaults : Bindings) (mount : Mount) :
    (mount.redefaultAt level defaults).template.trailingSlash = mount.template.trailingSlash := by
  cases level with
  | zero => rw [redefaultAt, template_changeAt_zero, Template.withDefaults]
  | succ level => rw [redefaultAt, template_changeAt_succ]

theorem Built.outcomes_redefaultAt_filledFrom {mount owner : Mount} (h : mount.Built) {level : ℕ}
    (hlevel : mount.ancestors[level]? = some owner) {bindings : Bindings}
    (hunread : ∀ place other, place ≠ level → mount.ancestors[place]? = some other →
      ∀ name ∈ owner.template.defaults, name ∉ bindings →
        other.template.declared.contains name = false) :
    (mount.redefaultAt level {}).outcomes (bindings.filledFrom owner.template.defaults) =
      mount.outcomes bindings := by
  apply List.ext_getElem?
  intro place
  rw [redefaultAt, getElem?_outcomes_changeAt, outcomes, List.getElem?_map]
  cases hplace : mount.ancestors[place]? with
  | none => rfl
  | some other =>
      have hcompiled := h.compiled_of_mem_chain (template_mem_chain_of_ancestors hplace)
      by_cases heq : level = place
      · subst heq
        obtain rfl := Option.some.inj (hlevel.symm.trans hplace)
        simp [hcompiled.fragment_filledFrom]
      · have hother := hunread place other (Ne.symm heq) hplace
        simp [heq, hcompiled.fragment_filledFrom_other hother]

/-- The defaults of a template reach no other template of the chain.  With other defaults for it, the
outcomes of all others stay, and so do the names that they report; and if no other template declares
a name that the defaults bind and the caller does not, a rendering may as well find the defaults
among the caller's bindings.  For the mount by itself this always holds. -/
theorem defaults_reach_own_template_only {mount owner : Mount} (hbuilt : mount.Built) {level : ℕ}
    (hlevel : mount.ancestors[level]? = some owner) (bindings : Bindings) :
    let defaults := owner.template.defaults
    (∀ others : Bindings,
      let redefaulted := mount.redefaultAt level others
      let own := (owner.template.withDefaults others).fragment bindings
      redefaulted.Built ∧
      redefaulted.outcomes bindings = (mount.outcomes bindings).set level own ∧
      ∀ name, name ∈ reported (redefaulted.render bindings) ↔ name ∈ reported own ∨
        ∃ place outcome, place ≠ level ∧ (mount.outcomes bindings)[place]? = some outcome ∧
          name ∈ reported outcome) ∧
    ((∀ place other, place ≠ level → mount.ancestors[place]? = some other →
        ∀ name ∈ defaults, name ∉ bindings → other.template.declared.contains name = false) →
      (mount.redefaultAt level {}).render (bindings.filledFrom defaults) =
        mount.render bindings) ∧
    (owner.redefaultAt 0 {}).renderAlone (bindings.filledFrom defaults) =
      owner.renderAlone bindings := by
  intro defaults
  refine ⟨?_, ?_, ?_⟩
  · intro others redefaulted own
    have hredefaulted : redefaulted.Built :=
      hbuilt.changeAt (fun hcompiled => hcompiled.withDefaults others) level
    exact ⟨hredefaulted, outcomes_changeAt hlevel _ bindings,
      fun name => hredefaulted.mem_reported_changeAt_iff hlevel⟩
  · intro hunread
    have houtcomes := hbuilt.outcomes_redefaultAt_filledFrom hlevel hunread
    exact (render_congr_outcomes (trailingSlash_redefaultAt level {} mount) houtcomes).1
  · have hcompiled := hbuilt.compiled_of_mem_chain (template_mem_chain_of_ancestors hlevel)
    have htemplate : (owner.redefaultAt 0 {}).template = owner.template.withDefaults {} :=
      template_changeAt_zero _ owner
    rw [renderAlone, renderAlone, htemplate, hcompiled.fragment_filledFrom bindings]
    rfl

/-- Both templates have a variable `b`, in a group, and the outer one has a default for it, which
the inner one never sees. -/
theorem defaults_reach_own_template_only_of_shared :
    ∃ mount owner : Mount, ∃ bindings : Bindings,
      mount.Built ∧ mount.chain.map Template.raw = ["/:a(/:b)", ":c(/:b)"] ∧
      mount.ancestors[1]? = some owner ∧
      (∀ place other, place ≠ 1 → mount.ancestors[place]? = some other →
        ∀ name ∈ owner.template.defaults, name ∉ bindings →
          other.template.declared.contains name = false) ∧
      mount.render {} = .ok "/0/1/z" ∧ mount.render bindings = .ok "/0/7/z/7" ∧
      (mount.redefaultAt 1 {}).render bindings = .error ⟨["a"]⟩ ∧
      (mount.redefaultAt 1 {}).render (bindings.filledFrom owner.template.defaults) =
        .ok "/0/7/z/7" := by
  let bindings := Bindings.ofPairs [("b", "7")]
  let outer : Template :=
    ⟨"/:a(/:b)", Bindings.ofPairs [("a", "0"), ("b", "1")],
      [.separator, .var "a", .group [.separator, .var "b"]], ⟨["a"], ["b"]⟩, false⟩
  let inner : Template :=
    ⟨":c(/:b)", Bindings.ofPairs [("c", "z")], [.var "c", .group [.separator, .var "b"]],
      ⟨["c"], ["b"]⟩, false⟩
  let mount := (root inner).attach (root outer)
  have hnone : mount.render {} = .ok "/0/1/z" := by decide +kernel +revert
  have hpath : mount.render bindings = .ok "/0/7/z/7" := by decide +kernel +revert
  have hemptied : (mount.redefaultAt 1 {}).render bindings = .error ⟨["a"]⟩ := by
    decide +kernel +revert
  have hunread : ∀ place other, place ≠ 1 → mount.ancestors[place]? = some other →
      ∀ name ∈ outer.defaults, name ∉ bindings → other.template.declared.contains name = false := by
    intro place other hne hplace name hname hunbound
    have hnames : name = "a" ∨ name = "b" := by simpa [outer, Bindings.ofPairs] using hname
    have hshared : name ≠ "b" := by
      intro heq
      exact hunbound (by simp [heq, bindings, Bindings.ofPairs])
    have hown : name = "a" := hnames.resolve_right hshared
    cases place with
    | zero =>
        obtain rfl : mount = other := Option.some.inj hplace
        subst hown
        rfl
    | succ place =>
        cases place with
        | zero => exact absurd rfl hne
        | succ place => cases hplace
  have houter : Template.compile outer.raw outer.defaults ⟨.reject, false⟩ = .ok outer := by cbv
  have hinner : Template.compile inner.raw inner.defaults ⟨.reject, false⟩ = .ok inner := by cbv
  have hbuilt : mount.Built := .attached (.compiled hinner) (.compiled houter)
  have hlevel : mount.ancestors[1]? = some (root outer) := rfl
  have hfilled := (defaults_reach_own_template_only hbuilt hlevel bindings).2.1 hunread
  exact ⟨mount, root outer, bindings, hbuilt, rfl, hlevel, hunread, hnone, hpath, hemptied,
    hfilled.trans hpath⟩

end Mount
end PathTemplate
