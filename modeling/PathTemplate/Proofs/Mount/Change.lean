import Mathlib
import PathTemplate.Proofs.Mount.Composition
import PathTemplate.Proofs.Mount.Dependence

/-!
# One template of a chain changed

A chain is changed at a level by putting another template in the place of the one that stands there,
so many levels above the mount.  What the templates of the chain contribute to a rendering, their
outcomes, then changes at this level only, and a rendering is decided by the outcomes and by the way
in which the innermost template ends its paths.
-/

namespace PathTemplate

namespace Template

def withDefaults (template : Template) (defaults : Bindings) : Template :=
  { template with defaults }

def withTrailingSlash (template : Template) (slash : Bool) : Template :=
  { template with trailingSlash := slash }

/-- A template that has been compiled can be compiled again, where unused defaults are let through. -/
theorem Compiled.compile_eq_ok {template : Template} (h : template.Compiled) :
    compile template.raw template.defaults ⟨.ignore, template.trailingSlash⟩ = .ok template := by
  rw [compile_ignore_of_parse_eq_ok h.parsed, ← h.declared]

theorem Compiled.withDefaults {template : Template} (h : template.Compiled)
    (defaults : Bindings) : (template.withDefaults defaults).Compiled :=
  ⟨h.parsed, h.declared⟩

theorem Compiled.withTrailingSlash {template : Template} (h : template.Compiled)
    (slash : Bool) : (template.withTrailingSlash slash).Compiled :=
  ⟨h.parsed, h.declared⟩

theorem Compiled.reported_fragment {template : Template} (h : template.Compiled)
    (bindings : Bindings) :
    Mount.reported (template.fragment bindings) = template.unresolved bindings := by
  by_cases hready : template.Ready bindings
  · rw [h.fragment_eq_ok hready, unresolved_eq_nil_iff.mpr hready]
    rfl
  · rw [h.fragment_eq_error hready]
    rfl

end Template

namespace Mount

/-- Changes the template that stands at a level: at 0 that of the mount itself, at 1 that of its
parent, and so on outwards.  Where the chain does not reach the level, nothing changes. -/
def changeAt (change : Template → Template) : ℕ → Mount → Mount
  | 0, root template => root (change template)
  | 0, under parent template => under parent (change template)
  | _ + 1, root template => root template
  | level + 1, under parent template => under (changeAt change level parent) template

theorem template_changeAt_succ (change : Template → Template) (level : ℕ) (mount : Mount) :
    (mount.changeAt change (level + 1)).template = mount.template := by
  cases mount <;> rfl

theorem template_changeAt_zero (change : Template → Template) (mount : Mount) :
    (mount.changeAt change 0).template = change mount.template := by
  cases mount <;> rfl

theorem map_template_ancestors_changeAt (change : Template → Template) (level : ℕ)
    (mount : Mount) :
    (mount.changeAt change level).ancestors.map template =
      (mount.ancestors.map template).modify level change := by
  induction mount generalizing level with
  | root own =>
      cases level with
      | zero => rfl
      | succ level => simp [changeAt, ancestors]
  | under parent own ih =>
      cases level with
      | zero => rfl
      | succ level => simp [changeAt, ancestors, Mount.template, ih]

theorem Built.under {parent : Mount} (hparent : parent.Built) {own : Template}
    (hown : own.Compiled) : (Mount.under parent own).Built :=
  .attached (.compiled hown.compile_eq_ok) hparent

/-- Where the change leaves compiled templates compiled, the changed chain can be built as well. -/
theorem Built.changeAt {mount : Mount} (h : mount.Built) {change : Template → Template}
    (hchange : ∀ {template : Template}, template.Compiled → (change template).Compiled)
    (level : ℕ) : (mount.changeAt change level).Built := by
  have hown := h.compiled_of_mem_chain mount.template_mem_chain
  induction mount generalizing level with
  | root own =>
      cases level with
      | zero => exact .compiled (hchange hown).compile_eq_ok
      | succ level => exact h
  | under parent own ih =>
      have hparent : parent.Built := h.parent rfl
      have houter := hparent.compiled_of_mem_chain parent.template_mem_chain
      cases level with
      | zero => exact hparent.under (hchange hown)
      | succ level => exact (ih hparent level houter).under hown

/-! ## Outcomes -/

/-- What each template of the chain contributes to a rendering, its fragment or the variables that
it lacks, from the mount outwards. -/
def outcomes (mount : Mount) (bindings : Bindings) : List (Except MissingVariables String) :=
  mount.ancestors.map fun outer => outer.template.fragment bindings

theorem reverse_outcomes (mount : Mount) (bindings : Bindings) :
    (mount.outcomes bindings).reverse =
      mount.chain.map fun template => template.fragment bindings := by
  simp [outcomes, chain, Function.comp_def]

theorem getElem?_outcomes (mount : Mount) (bindings : Bindings) (place : ℕ) :
    (mount.outcomes bindings)[place]? =
      (mount.ancestors.map template)[place]?.map fun own => own.fragment bindings := by
  simp [outcomes, Function.comp_def]

theorem getElem?_outcomes_changeAt (mount : Mount) (change : Template → Template) (level : ℕ)
    (bindings : Bindings) (place : ℕ) :
    ((mount.changeAt change level).outcomes bindings)[place]? =
      mount.ancestors[place]?.map fun outer =>
        (if level = place then change outer.template else outer.template).fragment bindings := by
  rw [getElem?_outcomes, map_template_ancestors_changeAt, List.getElem?_modify]
  simp [Function.comp_def]

theorem lt_length_outcomes {mount owner : Mount} {level : ℕ}
    (hlevel : mount.ancestors[level]? = some owner) (bindings : Bindings) :
    level < (mount.outcomes bindings).length := by
  rw [outcomes, List.length_map]
  exact (List.getElem?_eq_some_iff.mp hlevel).1

/-- The outcome at the level of the change is the new template's own, and all others stay. -/
theorem outcomes_changeAt {mount owner : Mount} {level : ℕ}
    (hlevel : mount.ancestors[level]? = some owner) (change : Template → Template)
    (bindings : Bindings) :
    (mount.changeAt change level).outcomes bindings =
      (mount.outcomes bindings).set level ((change owner.template).fragment bindings) := by
  apply List.ext_getElem?
  intro place
  rw [getElem?_outcomes_changeAt, List.getElem?_set]
  by_cases hplace : level = place
  · subst hplace
    simp [hlevel, lt_length_outcomes hlevel bindings]
  · simp [hplace, outcomes]

theorem assemble_congr_outcomes {mount other : Mount} {left right : Bindings}
    (h : mount.outcomes left = other.outcomes right) :
    mount.assemble left = other.assemble right := by
  apply foldl_add_congr
  rw [← reverse_outcomes, ← reverse_outcomes, h]

theorem render_congr_outcomes {mount other : Mount} {left right : Bindings}
    (hslash : mount.template.trailingSlash = other.template.trailingSlash)
    (houtcomes : mount.outcomes left = other.outcomes right) :
    mount.render left = other.render right ∧
      mount.renderAlone left = other.renderAlone right := by
  apply render_congr hslash
  rw [← reverse_outcomes, ← reverse_outcomes, houtcomes]

/-- A rendering reports what the templates of the chain report, outermost first, each name once. -/
theorem Built.reported_render_eq {mount : Mount} (h : mount.Built) (bindings : Bindings) :
    reported (mount.render bindings) =
      ((mount.outcomes bindings).reverse.flatMap reported).eraseDups := by
  rw [h.reported_render, unresolved, reverse_outcomes, List.flatMap_map]
  congr 1
  apply List.flatMap_congr
  intro own hmem
  exact ((h.compiled_of_mem_chain hmem).reported_fragment bindings).symm

theorem Built.mem_reported_render_iff {mount : Mount} (h : mount.Built) {bindings : Bindings}
    {name : String} :
    name ∈ reported (mount.render bindings) ↔
      ∃ place : ℕ, ∃ outcome, (mount.outcomes bindings)[place]? = some outcome ∧
        name ∈ reported outcome := by
  rw [h.reported_render_eq, List.mem_eraseDups, List.mem_flatMap]
  constructor
  · intro hreported
    rcases hreported with ⟨outcome, hmem, hname⟩
    rcases List.mem_iff_getElem?.mp (List.mem_reverse.mp hmem) with ⟨place, hplace⟩
    exact ⟨place, outcome, hplace, hname⟩
  · intro hreported
    rcases hreported with ⟨place, outcome, hplace, hname⟩
    exact ⟨outcome, List.mem_reverse.mpr (List.mem_of_getElem? hplace), hname⟩

/-- With one template changed, a rendering reports what the new template lacks and what the others
have lacked all along. -/
theorem Built.mem_reported_changeAt_iff {mount owner : Mount} {level : ℕ}
    {change : Template → Template} (h : (mount.changeAt change level).Built)
    (hlevel : mount.ancestors[level]? = some owner) {bindings : Bindings} {name : String} :
    name ∈ reported ((mount.changeAt change level).render bindings) ↔
      name ∈ reported ((change owner.template).fragment bindings) ∨
      ∃ place outcome, place ≠ level ∧ (mount.outcomes bindings)[place]? = some outcome ∧
        name ∈ reported outcome := by
  have hlength := lt_length_outcomes hlevel bindings
  rw [h.mem_reported_render_iff, outcomes_changeAt hlevel]
  constructor
  · intro hreported
    rcases hreported with ⟨place, outcome, hplace, hname⟩
    by_cases heq : level = place
    · subst heq
      rw [List.getElem?_set_self hlength] at hplace
      left
      rwa [Option.some.inj hplace]
    · rw [List.getElem?_set_ne heq] at hplace
      exact .inr ⟨place, outcome, Ne.symm heq, hplace, hname⟩
  · intro hreported
    rcases hreported with hname | ⟨place, outcome, hne, hplace, hname⟩
    · exact ⟨level, _, List.getElem?_set_self hlength, hname⟩
    · exact ⟨place, outcome, by rwa [List.getElem?_set_ne hne.symm], hname⟩

end Mount
end PathTemplate
