import Mathlib
import PathTemplate.Proofs.Mount.Change

/-!
# How a path ends

Whatever the values bring along, a path comes out in normal form, with one separator more at its end
if the mount closes its paths.  Closing is the last step of a rendering: it decides nothing else, and
the templates above the mount have no say in it.
-/

namespace PathTemplate

namespace Template

theorem pathOf_of_closed {template : Template} (h : template.trailingSlash = true)
    (joined : String) :
    template.pathOf joined = (Path.close (Path.normalize joined).path).path := by
  rw [pathOf, h]
  rfl

theorem pathOf_of_not_closed {template : Template} (h : template.trailingSlash = false)
    (joined : String) : template.pathOf joined = (Path.normalize joined).path := by
  rw [pathOf, h]
  rfl

theorem hasEmptyComponent_pathOf (template : Template) (joined : String) :
    Path.hasEmptyComponent (template.pathOf joined).toList = false := by
  cases hslash : template.trailingSlash with
  | false =>
      rw [pathOf_of_not_closed hslash]
      exact (Path.normal_normalize joined).1
  | true =>
      rw [pathOf_of_closed hslash]
      rcases Path.exists_close_normalize_eq joined with ⟨front, hpath, hlast, hempty⟩
      rw [hpath, String.toList_append, Path.hasEmptyComponent_append]
      exact ⟨hempty, rfl, fun hseam => hlast hseam.1⟩

theorem exists_pathOf_eq_append_slash {template : Template} (h : template.trailingSlash = true)
    (joined : String) :
    ∃ front, template.pathOf joined = front ++ "/" ∧ front.toList.getLast? ≠ some '/' := by
  rcases Path.exists_close_normalize_eq joined with ⟨front, hfront, hlast, -⟩
  rw [pathOf_of_closed h]
  exact ⟨front, hfront, hlast⟩

theorem isNormal_pathOf {template : Template} (h : template.trailingSlash = false)
    (joined : String) :
    Path.isNormal (template.pathOf joined) = true ∧
      ((template.pathOf joined).toList.getLast? = some '/' → template.pathOf joined = "/") := by
  have hnormal := Path.normal_normalize joined
  rw [pathOf_of_not_closed h]
  refine ⟨(Path.isNormal_iff _).mpr hnormal, ?_⟩
  intro hlast
  have hroot := hnormal.2.resolve_right (not_not_intro hlast)
  exact String.toList_inj.mp hroot

/-- A text compiles whatever is said about how its paths end, and to the same template otherwise. -/
theorem compile_withTrailingSlash {raw : String} {defaults : Bindings} {policy : DefaultsPolicy}
    {slash : Bool} {template : Template}
    (h : compile raw defaults ⟨policy, slash⟩ = .ok template) (other : Bool) :
    compile raw defaults ⟨policy, other⟩ = .ok (template.withTrailingSlash other) := by
  obtain ⟨pattern, hparse, rfl⟩ := eq_of_compile_eq_ok h
  rw [compile_of_parse_eq_ok hparse] at h ⊢
  split at h
  · cases h
  · next haccepted => exact if_neg haccepted

end Template

namespace Mount

/-- The mount in which the template at a level closes its paths or does not. -/
def closedAt (level : ℕ) (slash : Bool) (mount : Mount) : Mount :=
  mount.changeAt (fun own => own.withTrailingSlash slash) level

theorem outcomes_closedAt (level : ℕ) (slash : Bool) (mount : Mount) (bindings : Bindings) :
    (mount.closedAt level slash).outcomes bindings = mount.outcomes bindings := by
  apply List.ext_getElem?
  intro place
  rw [closedAt, getElem?_outcomes_changeAt, outcomes, List.getElem?_map]
  congr 1
  funext outer
  split <;> rfl

theorem template_closedAt_zero (slash : Bool) (mount : Mount) :
    (mount.closedAt 0 slash).template = mount.template.withTrailingSlash slash :=
  template_changeAt_zero _ mount

theorem exists_pathOf_of_render {mount : Mount} {bindings : Bindings} {path : String}
    (h : mount.render bindings = .ok path ∨ mount.renderAlone bindings = .ok path) :
    ∃ joined, path = mount.template.pathOf joined := by
  rcases h with hrender | halone
  · rw [render_eq] at hrender
    split at hrender
    · exact ⟨_, (Except.ok.inj hrender).symm⟩
    · cases hrender
  · rw [renderAlone] at halone
    cases hfragment : mount.template.fragment bindings with
    | ok text =>
        rw [hfragment] at halone
        exact ⟨text, (Except.ok.inj halone).symm⟩
    | error missing =>
        rw [hfragment] at halone
        cases halone

/-- A mount that closes its paths does so as the last step of what it does otherwise. -/
theorem render_closedAt_true (mount : Mount) (bindings : Bindings) :
    (mount.closedAt 0 true).render bindings =
      ((mount.closedAt 0 false).render bindings).map fun path => (Path.close path).path := by
  have hassemble : (mount.closedAt 0 true).assemble bindings =
      (mount.closedAt 0 false).assemble bindings := by
    apply assemble_congr_outcomes
    rw [outcomes_closedAt, outcomes_closedAt]
  rw [render_eq, render_eq, hassemble, template_closedAt_zero, template_closedAt_zero]
  split <;> rfl

theorem renderAlone_closedAt_true (mount : Mount) (bindings : Bindings) :
    (mount.closedAt 0 true).renderAlone bindings =
      ((mount.closedAt 0 false).renderAlone bindings).map fun path => (Path.close path).path := by
  rw [renderAlone, renderAlone, template_closedAt_zero, template_closedAt_zero]
  have hfragment : (mount.template.withTrailingSlash true).fragment bindings =
      (mount.template.withTrailingSlash false).fragment bindings := rfl
  rw [hfragment]
  cases hfragment : (mount.template.withTrailingSlash false).fragment bindings with
  | ok text => rfl
  | error missing => rfl

theorem render_closedAt_succ (mount : Mount) (level : ℕ) (slash : Bool) (bindings : Bindings) :
    (mount.closedAt (level + 1) slash).render bindings = mount.render bindings ∧
      (mount.closedAt (level + 1) slash).renderAlone bindings = mount.renderAlone bindings := by
  have hslash : (mount.closedAt (level + 1) slash).template.trailingSlash =
      mount.template.trailingSlash := by
    rw [closedAt, template_changeAt_succ]
  exact render_congr_outcomes hslash (outcomes_closedAt _ _ _ _)

/-- No two separators touch in a path, whether of a whole chain or of a mount by itself.  The path of
a mount that closes its paths ends with exactly one separator, and that of any other mount is normal.
The first is the second closed, so that bringing it into normal form gives the second back, unless
that has no text: then closing makes a separator out of it.  Whether there is a path at all, and what
is missing otherwise, is the same for both, and no template but the mount's own decides anything
here. -/
theorem path_normal_or_closed (mount : Mount) (bindings : Bindings) :
    (∀ path, mount.render bindings = .ok path ∨ mount.renderAlone bindings = .ok path →
      ¬['/', '/'] <:+: path.toList ∧
      (mount.template.trailingSlash = true →
        ∃ front, path = front ++ "/" ∧ front.toList.getLast? ≠ some '/') ∧
      (mount.template.trailingSlash = false →
        Path.isNormal path = true ∧ (path.toList.getLast? = some '/' → path = "/"))) ∧
    (let closed := mount.closedAt 0 true
      let plain := mount.closedAt 0 false
      (closed.render bindings =
        (plain.render bindings).map fun path => (Path.close path).path) ∧
      (closed.renderAlone bindings =
        (plain.renderAlone bindings).map fun path => (Path.close path).path) ∧
      (∀ missing, (closed.render bindings = .error missing ↔
          plain.render bindings = .error missing) ∧
        (closed.renderAlone bindings = .error missing ↔
          plain.renderAlone bindings = .error missing)) ∧
      ∀ path, plain.render bindings = .ok path ∨ plain.renderAlone bindings = .ok path →
        (path ≠ "" → (Path.normalize (Path.close path).path).path = path) ∧
        (path = "" → (Path.close path).path = "/")) ∧
    (∀ level slash,
      (mount.closedAt (level + 1) slash).render bindings = mount.render bindings ∧
      (mount.closedAt (level + 1) slash).renderAlone bindings = mount.renderAlone bindings) ∧
    (mount.Built → ∀ level slash, (mount.closedAt level slash).Built) ∧
    ∀ raw defaults policy slash template,
      Template.compile raw defaults ⟨policy, slash⟩ = .ok template →
      ∀ other, Template.compile raw defaults ⟨policy, other⟩ =
        .ok (template.withTrailingSlash other) := by
  refine ⟨?_, ?_, ?_, ?_, ?_⟩
  · intro path hpath
    obtain ⟨joined, rfl⟩ := exists_pathOf_of_render hpath
    refine ⟨?_, fun hslash => Template.exists_pathOf_eq_append_slash hslash joined,
      fun hslash => Template.isNormal_pathOf hslash joined⟩
    rw [← Path.hasEmptyComponent_eq_false_iff]
    exact mount.template.hasEmptyComponent_pathOf joined
  · intro closed plain
    have hrender := render_closedAt_true mount bindings
    have halone := renderAlone_closedAt_true mount bindings
    have herror : ∀ (outcome : Except MissingVariables String) missing,
        (outcome.map fun path => (Path.close path).path) = .error missing ↔
          outcome = .error missing := by
      intro outcome missing
      cases outcome <;> simp [Except.map]
    refine ⟨hrender, halone, ?_, ?_⟩
    · intro missing
      rw [hrender, halone]
      exact ⟨herror _ missing, herror _ missing⟩
    · intro path hpath
      obtain ⟨joined, rfl⟩ := exists_pathOf_of_render hpath
      have hslash : plain.template.trailingSlash = false := by
        rw [template_closedAt_zero]
        rfl
      rw [Template.pathOf_of_not_closed hslash]
      refine ⟨Path.normalize_close_normalize, ?_⟩
      intro hempty
      rw [hempty]
      rfl
  · exact fun level slash => mount.render_closedAt_succ level slash bindings
  · intro hbuilt level slash
    exact hbuilt.changeAt (fun hcompiled => hcompiled.withTrailingSlash slash) level
  · intro raw defaults policy slash template hcompile other
    exact Template.compile_withTrailingSlash hcompile other

/-- A chain without any text comes out as a separator if the mount closes its paths. -/
example : (root ⟨"(:a)", {}, [.group [.var "a"]], ⟨[], ["a"]⟩, true⟩).render {} = .ok "/" := by
  decide +kernel

end Mount
end PathTemplate
