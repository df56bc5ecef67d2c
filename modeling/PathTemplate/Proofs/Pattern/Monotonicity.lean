import Mathlib
import PathTemplate.Proofs.Bindings
import PathTemplate.Proofs.Pattern.Leaves
import PathTemplate.Template

/-!
# More values, more text

A scope extends another one if it has all of its values and possibly more.  A group that is live
then stays live, and a variable that has a value keeps it, so whatever was written is written again,
in the same order: what is new in between comes from groups that were left out before.
-/

namespace PathTemplate

namespace Scope

/-- Every name that has a value in the other scope has the same value here. -/
def Extends (scope other : Scope) : Prop :=
  ∀ name value, other.get? name = some value → scope.get? name = some value

variable {larger scope : Scope}

theorem Extends.contains (h : larger.Extends scope) {name : String}
    (hname : scope.contains name = true) : larger.contains name = true := by
  rw [contains_eq_true_iff] at hname ⊢
  obtain ⟨value, hvalue⟩ := hname
  exact ⟨value, h name value hvalue⟩

theorem extends_insert {bindings defaults : Bindings} {name : String}
    (h : Scope.get? ⟨bindings, defaults⟩ name = none) (value : String) :
    Scope.Extends ⟨bindings.insert name value, defaults⟩ ⟨bindings, defaults⟩ := by
  intro other found hfound
  have hne : name ≠ other := by
    intro heq
    subst heq
    rw [h] at hfound
    cases hfound
  simpa [get?, Std.TreeMap.getElem?_insert, hne] using hfound

end Scope

section Extension

variable {larger scope : Scope}

theorem Pattern.Live.extend (h : larger.Extends scope) {children : Pattern}
    (hlive : children.Live scope) : children.Live larger := by
  intro name hname
  obtain ⟨value, hvalue⟩ := hlive name hname
  exact ⟨value, h name value hvalue⟩

mutual

theorem Segment.render_extend (h : larger.Extends scope) :
    ∀ (segment : Segment) {text : String}, segment.render scope = some text →
      ∃ more, segment.render larger = some more ∧ text.toList.Sublist more.toList
  | .separator, text, hrender => ⟨text, hrender, List.Sublist.refl _⟩
  | .text content, text, hrender => ⟨text, hrender, List.Sublist.refl _⟩
  | .var name, text, hrender => ⟨text, h name text hrender, List.Sublist.refl _⟩
  | .group children, text, hrender => by
      have hlive : Pattern.Live scope children := by
        by_contra hdead
        rw [Pattern.render_group_of_not_live hdead] at hrender
        cases hrender
      rw [Pattern.render_group_of_live hlive] at hrender
      obtain rfl := Option.some.inj hrender
      exact ⟨Pattern.render larger children, Pattern.render_group_of_live (hlive.extend h),
        Pattern.render_sublist h children⟩

theorem Pattern.render_sublist (h : larger.Extends scope) :
    ∀ pattern : Pattern, (pattern.render scope).toList.Sublist (pattern.render larger).toList
  | [] => List.Sublist.refl _
  | segment :: rest => by
      have hfirst : ((segment.render scope).getD "").toList.Sublist
          ((segment.render larger).getD "").toList := by
        cases hrender : segment.render scope with
        | none => exact List.nil_sublist _
        | some text =>
            obtain ⟨more, hmore, hsublist⟩ := Segment.render_extend h segment hrender
            rw [hmore]
            exact hsublist
      rw [Pattern.render, Pattern.render, String.toList_append, String.toList_append]
      exact hfirst.append (Pattern.render_sublist h rest)

end

theorem Template.missing_eq_nil_of_extends {template : Template} {bindings more : Bindings}
    (h : (template.scope more).Extends (template.scope bindings))
    (hmissing : template.missing bindings = []) : template.missing more = [] := by
  rw [Template.missing, List.filter_eq_nil_iff] at hmissing ⊢
  intro name hname
  have hcontains : (template.scope bindings).contains name = true := by
    simpa using hmissing name hname
  simp [h.contains hcontains]

theorem Template.fragment_eq_ok_iff {template : Template} {bindings : Bindings}
    {fragment : String} :
    template.fragment bindings = .ok fragment ↔
      template.missing bindings = [] ∧
        template.pattern.render (template.scope bindings) = fragment := by
  cases hmissing : template.missing bindings with
  | nil => simp [Template.fragment, hmissing]
  | cons name names => simp [Template.fragment, hmissing]

theorem Template.fragment_extend {template : Template} {bindings more : Bindings}
    (h : (template.scope more).Extends (template.scope bindings)) {fragment : String}
    (hfragment : template.fragment bindings = .ok fragment) :
    ∃ longer, template.fragment more = .ok longer ∧
      fragment.toList.Sublist longer.toList := by
  obtain ⟨hmissing, rfl⟩ := fragment_eq_ok_iff.mp hfragment
  have hlonger := fragment_eq_ok_iff.mpr ⟨missing_eq_nil_of_extends h hmissing, rfl⟩
  exact ⟨_, hlonger, Pattern.render_sublist h template.pattern⟩

end Extension

/-- Where a scope has all values of another one, it has a text for each segment for which the other
one has a text, and the other's text comes from it by leaving characters out.  The same holds of
lists of segments, and of the fragments of a template.  A value supplied for a name that had none
extends the scope in this way, so it makes no text of the fragment go away. -/
theorem render_monotone {larger scope : Scope} (h : larger.Extends scope) :
    (∀ (segment : Segment) (text : String), segment.render scope = some text →
      ∃ more, segment.render larger = some more ∧ text.toList.Sublist more.toList) ∧
    (∀ pattern : Pattern, (pattern.render scope).toList.Sublist (pattern.render larger).toList) ∧
    ∀ (template : Template) (bindings : Bindings) (fragment : String),
      template.fragment bindings = .ok fragment →
      (∀ more, template.scope bindings = scope → template.scope more = larger →
        ∃ longer, template.fragment more = .ok longer ∧
          fragment.toList.Sublist longer.toList) ∧
      ∀ name value, (template.scope bindings).get? name = none →
        ∃ longer, template.fragment (bindings.insert name value) = .ok longer ∧
          fragment.toList.Sublist longer.toList := by
  refine ⟨?_, Pattern.render_sublist h, ?_⟩
  · intro segment text hrender
    exact segment.render_extend h hrender
  · intro template bindings fragment hfragment
    constructor
    · intro more hscope hlarger
      subst hscope hlarger
      exact Template.fragment_extend h hfragment
    · intro name value hname
      exact Template.fragment_extend (Scope.extends_insert hname value) hfragment

/-- A second value turns on the inner group, in the middle of what was written before. -/
theorem render_monotone_of_supplied :
    ∃ (template : Template) (bindings more : Bindings),
      Template.compile "/a(/:b(/:c)/d)" {} .default = .ok template ∧
      (template.scope more).Extends (template.scope bindings) ∧
      template.fragment bindings = .ok "/a/1/d" ∧
      template.fragment more = .ok "/a/1/2/d" ∧
      "/a/1/d".toList.Sublist "/a/1/2/d".toList := by
  let inner : Segment := .group [.separator, .var "c"]
  let template : Template :=
    ⟨"/a(/:b(/:c)/d)", {},
      [.separator, .text "a", .group [.separator, .var "b", inner, .separator, .text "d"]],
      ⟨[], ["b", "c"]⟩, false⟩
  let bindings := Bindings.ofPairs [("b", "1")]
  have hcompile : Template.compile "/a(/:b(/:c)/d)" {} .default = .ok template := by cbv
  have hextends : (template.scope (bindings.insert "c" "2")).Extends (template.scope bindings) :=
    Scope.extends_insert (by cbv) "2"
  have hshort : template.fragment bindings = .ok "/a/1/d" := by cbv
  have hlong : template.fragment (bindings.insert "c" "2") = .ok "/a/1/2/d" := by cbv
  obtain ⟨-, -, hfragments⟩ := render_monotone hextends
  obtain ⟨hwithin, -⟩ := hfragments template bindings _ hshort
  obtain ⟨longer, hlonger, hsublist⟩ := hwithin _ rfl rfl
  obtain rfl := Except.ok.inj (hlong.symm.trans hlonger)
  exact ⟨template, bindings, _, hcompile, hextends, hshort, hlong, hsublist⟩

end PathTemplate
