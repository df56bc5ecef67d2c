import Mathlib
import PathTemplate.Proofs.Mount.Chain
import PathTemplate.Proofs.Pattern.Diagnosis
import PathTemplate.Proofs.Pattern.Expansion

/-!
# Fragments read off the text

The fragment of a template is the expansion of the text that it was compiled from, over the caller's
bindings and its own defaults.
-/

namespace PathTemplate

open Expansion

theorem Pattern.mem_lexemes_of_var_mem {pattern : Pattern} {name : String}
    (h : Segment.var name ∈ pattern) : (':' :: name.toList) ∈ pattern.lexemes := by
  obtain ⟨front, back, rfl⟩ := List.append_of_mem h
  simp [Segment.lexemes]

namespace Template

theorem text_eq_expand {raw : String} {defaults : Bindings} {settings : Settings}
    {template : Template} (hcompile : compile raw defaults settings = .ok template)
    (bindings : Bindings) :
    template.text bindings = expand ⟨bindings, defaults⟩ (Token.lexemes raw.toList) := by
  obtain ⟨pattern, hparse, rfl⟩ := eq_of_compile_eq_ok hcompile
  obtain ⟨hspelled, hlexemes⟩ := Pattern.spelled_of_parse_eq_ok hparse
  rw [← hlexemes, expand_lexemes hspelled, Pattern.render_eq_join]
  rfl

theorem ready_of_forall_bound {raw : String} {defaults : Bindings} {settings : Settings}
    {template : Template} (hcompile : compile raw defaults settings = .ok template)
    {bindings : Bindings}
    (hbound : ∀ lexeme ∈ Token.lexemes raw.toList, ∀ name ∈ named? lexeme,
      name ∈ bindings ∨ name ∈ defaults) : template.Ready bindings := by
  obtain ⟨pattern, hparse, rfl⟩ := eq_of_compile_eq_ok hcompile
  obtain ⟨-, hlexemes⟩ := Pattern.spelled_of_parse_eq_ok hparse
  intro name hvar
  have hmem := Pattern.mem_lexemes_of_var_mem hvar
  rw [hlexemes] at hmem
  exact hbound _ hmem name (by simp [named?])

/-- If no required variable is missing, the fragment is the expansion of the text; with a value for
every variable it is the text without parentheses and with the values in place of the variables, and
without any variables the text without parentheses, from which a mount without a parent makes its
path. -/
theorem fragment_eq_expand {raw : String} {defaults : Bindings} {settings : Settings}
    {template : Template} (hcompile : compile raw defaults settings = .ok template)
    (bindings : Bindings) :
    let scope : Scope := ⟨bindings, defaults⟩
    let text := Token.lexemes raw.toList
    (template.Ready bindings →
      template.fragment bindings = .ok (expand scope text) ∧
      ∀ mount : Mount, mount.template = template →
        mount.renderAlone bindings = .ok (template.pathOf (expand scope text))) ∧
    ((∀ lexeme ∈ text, ∀ name ∈ named? lexeme, name ∈ bindings ∨ name ∈ defaults) →
      template.fragment bindings = .ok (String.join (text.map (written scope)))) ∧
    ((∀ lexeme ∈ text, named? lexeme = none) →
      template.fragment bindings = .ok (bare raw.toList) ∧
      (Mount.root template).render bindings = .ok (template.pathOf (bare raw.toList)) ∧
      (settings.trailingSlash = false →
        (Mount.root template).render bindings =
          .ok (Path.normalize (bare raw.toList)).path)) := by
  intro scope text
  have hcompiled := compiled_of_compile_eq_ok hcompile
  have hexpand : template.text bindings = expand scope text := text_eq_expand hcompile bindings
  have hfragment : template.Ready bindings →
      template.fragment bindings = .ok (expand scope text) := by
    intro hready
    rw [← hexpand]
    exact hcompiled.fragment_eq_ok hready
  have hwritten : (∀ lexeme ∈ text, ∀ name ∈ named? lexeme, name ∈ bindings ∨ name ∈ defaults) →
      expand scope text = String.join (text.map (written scope)) := by
    intro hbound
    apply expand_eq_join
    intro lexeme hmem hunbound
    rcases hunbound with ⟨name, hname, hvalue⟩
    have hcontains : scope.contains name = true :=
      Scope.contains_iff_mem.mpr (hbound lexeme hmem name hname)
    simp [Scope.contains, hvalue] at hcontains
  refine ⟨fun hready => ⟨hfragment hready, ?_⟩, ?_, ?_⟩
  · intro mount hmount
    subst hmount
    rw [Mount.renderAlone, hfragment hready]
    rfl
  · intro hbound
    rw [hfragment (ready_of_forall_bound hcompile hbound), hwritten hbound]
  · intro hnamed
    have hbound : ∀ lexeme ∈ text, ∀ name ∈ named? lexeme, name ∈ bindings ∨ name ∈ defaults := by
      intro lexeme hmem name hname
      rw [hnamed lexeme hmem] at hname
      cases hname
    have hready := ready_of_forall_bound hcompile hbound
    have hbare : expand scope text = bare raw.toList :=
      (hwritten hbound).trans (join_written_eq_bare hnamed)
    have hrender : (Mount.root template).render bindings =
        .ok (template.pathOf (bare raw.toList)) := by
      have hchain : ∀ other ∈ (Mount.root template).chain, other.Ready bindings := by
        simpa using hready
      rw [(Mount.Built.compiled hcompile).render_eq_ok hchain, ← hbare, ← hexpand]
      simp [Mount.fragments, Mount.template, Path.join]
    refine ⟨hbare ▸ hfragment hready, hrender, ?_⟩
    intro hplain
    obtain ⟨pattern, -, rfl⟩ := eq_of_compile_eq_ok hcompile
    rw [hrender]
    simp [pathOf, hplain]

/-- A group is deleted with the values inside it, and a value is not read again as a pattern. -/
theorem fragment_eq_expand_of_nested :
    ∃ template : Template, ∃ bindings : Bindings,
      compile "/:a(/b(:c))(:d/(:a))" (Bindings.ofPairs [("a", "0")]) ⟨.reject, true⟩ =
        .ok template ∧
      template.Ready bindings ∧
      expand ⟨bindings, template.defaults⟩ (Token.lexemes template.raw.toList) = "/(:d)/b" := by
  let bindings := Bindings.ofPairs [("a", "(:d)")]
  let template : Template :=
    ⟨"/:a(/b(:c))(:d/(:a))", Bindings.ofPairs [("a", "0")],
      [.separator, .var "a", .group [.separator, .text "b", .group [.var "c"]],
        .group [.var "d", .separator, .group [.var "a"]]],
      ⟨["a"], ["c", "d"]⟩, true⟩
  have hcompile : compile template.raw template.defaults ⟨.reject, true⟩ = .ok template := by cbv
  have hready : template.Ready bindings := unresolved_eq_nil_iff.mp (by cbv)
  have hexpand := ((fragment_eq_expand hcompile bindings).1 hready).1
  have hfragment : template.fragment bindings = .ok "/(:d)/b" := by cbv
  rw [hfragment] at hexpand
  exact ⟨template, bindings, hcompile, hready, (Except.ok.inj hexpand).symm⟩

end Template
end PathTemplate
