import PathTemplate.Proofs.Pattern.Variables
import PathTemplate.Template

/-!
# Compiled templates and their fragments

A compiled template carries the pattern that its text parses to and the variables of that pattern.
Its fragment is therefore decided by the pattern alone: there is one exactly if each variable that
stands outside every group has a value, and it is the text of the segments one after the other.
-/

namespace PathTemplate

theorem Scope.contains_iff_mem {scope : Scope} {name : String} :
    scope.contains name = true ↔ name ∈ scope.caller ∨ name ∈ scope.defaults := by
  simp [Scope.contains, Scope.get?, Option.isSome_or]

theorem Pattern.render_eq_join (scope : Scope) (pattern : Pattern) :
    pattern.render scope = String.join (pattern.filterMap (Segment.render scope)) := by
  induction pattern with
  | nil => simp [Pattern.render]
  | cons segment rest ih =>
      rw [Pattern.render, ih]
      cases hsegment : segment.render scope with
      | none => simp [hsegment]
      | some text => simp [hsegment]

namespace Template

/-- What compiling a text leaves in a template, whatever the defaults and the settings. -/
structure Compiled (template : Template) : Prop where
  parsed : Pattern.parse template.raw = .ok template.pattern
  declared : template.declared = Variables.ofPattern template.pattern

theorem compileLogged_of_parse_eq_error {raw : String} {fault : PatternError}
    (hparse : Pattern.parse raw = .error fault) (defaults : Bindings) (settings : Settings) :
    (compileLogged raw defaults settings).run = ⟨.error (.malformed fault), []⟩ := by
  rw [compileLogged, hparse]
  rfl

/-- What compiling a text that parses comes to, and the entries that it makes. -/
theorem compileLogged_of_parse_eq_ok {raw : String} {pattern : Pattern}
    (hparse : Pattern.parse raw = .ok pattern) (defaults : Bindings) (settings : Settings) :
    let declared := Variables.ofPattern pattern
    let unused := undeclared defaults declared
    let template : Template := ⟨raw, defaults, pattern, declared, settings.trailingSlash⟩
    let compiled : Event :=
      .compiled raw pattern.length declared.required.length declared.optional.length
    (compileLogged raw defaults settings).run =
      if unused = [] then ⟨.ok template, [compiled]⟩
      else if settings.policy = .reject then ⟨.error (.undeclaredDefaults unused), []⟩
      else ⟨.ok template, [.ignoredDefaults raw unused, compiled]⟩ := by
  intro declared unused template compiled
  rw [compileLogged, hparse]
  change ExceptT.run (if unused ≠ [] then _ else _) = _
  by_cases hunused : unused = []
  · rw [if_pos hunused, if_neg (not_not_intro hunused)]
    rfl
  · rw [if_neg hunused, if_pos hunused]
    cases hpolicy : settings.policy with
    | ignore => rfl
    | reject => rfl

theorem compile_of_parse_eq_error {raw : String} {fault : PatternError}
    (hparse : Pattern.parse raw = .error fault) (defaults : Bindings) (settings : Settings) :
    compile raw defaults settings = .error (.malformed fault) := by
  rw [compile, compileLogged_of_parse_eq_error hparse]

theorem compile_of_parse_eq_ok {raw : String} {pattern : Pattern}
    (hparse : Pattern.parse raw = .ok pattern) (defaults : Bindings) (settings : Settings) :
    let unused := undeclared defaults (Variables.ofPattern pattern)
    compile raw defaults settings =
      if unused ≠ [] ∧ settings.policy = .reject then .error (.undeclaredDefaults unused)
      else .ok ⟨raw, defaults, pattern, Variables.ofPattern pattern, settings.trailingSlash⟩ := by
  intro unused
  rw [compile, compileLogged_of_parse_eq_ok hparse]
  by_cases hunused : unused = []
  · simp [unused, hunused]
  · by_cases hpolicy : settings.policy = .reject
    · simp [unused, hunused, hpolicy]
    · simp [unused, hunused, hpolicy]

/-- A text that parses compiles with any defaults, where unused ones are let through. -/
theorem compile_ignore_of_parse_eq_ok {raw : String} {pattern : Pattern}
    (hparse : Pattern.parse raw = .ok pattern) (defaults : Bindings) (slash : Bool) :
    compile raw defaults ⟨.ignore, slash⟩ =
      .ok ⟨raw, defaults, pattern, Variables.ofPattern pattern, slash⟩ := by
  rw [compile_of_parse_eq_ok hparse, if_neg (by simp)]

theorem eq_of_compile_eq_ok {raw : String} {defaults : Bindings} {settings : Settings}
    {template : Template} (h : compile raw defaults settings = .ok template) :
    ∃ pattern, Pattern.parse raw = .ok pattern ∧
      template = ⟨raw, defaults, pattern, Variables.ofPattern pattern, settings.trailingSlash⟩ := by
  cases hparse : Pattern.parse raw with
  | error fault =>
      rw [compile_of_parse_eq_error hparse] at h
      cases h
  | ok pattern =>
      rw [compile_of_parse_eq_ok hparse] at h
      split at h
      · cases h
      · exact ⟨pattern, rfl, (Except.ok.inj h).symm⟩

theorem compiled_of_compile_eq_ok {raw : String} {defaults : Bindings} {settings : Settings}
    {template : Template} (h : compile raw defaults settings = .ok template) :
    template.Compiled := by
  obtain ⟨pattern, hparse, rfl⟩ := eq_of_compile_eq_ok h
  exact ⟨hparse, rfl⟩

theorem mem_undeclared {defaults : Bindings} {declared : Variables} {name : String} :
    name ∈ undeclared defaults declared ↔ name ∈ defaults ∧ declared.contains name = false := by
  simp [undeclared, Text.sortByBytes]

/-- Where the settings ask for it, only defaults of declared variables get into a template. -/
theorem contains_declared_of_compile_reject {raw : String} {defaults : Bindings}
    {settings : Settings} {template : Template}
    (h : compile raw defaults settings = .ok template) (hpolicy : settings.policy = .reject)
    {name : String} (hname : name ∈ template.defaults) :
    template.declared.contains name = true := by
  obtain ⟨pattern, hparse, rfl⟩ := eq_of_compile_eq_ok h
  rw [compile_of_parse_eq_ok hparse] at h
  split at h
  next => cases h
  next haccepted =>
    have hnone : undeclared defaults (Variables.ofPattern pattern) = [] := by
      by_contra hsome
      exact haccepted ⟨hsome, hpolicy⟩
    rw [← Bool.not_eq_false]
    intro hcontains
    have hmem := mem_undeclared.mpr ⟨hname, hcontains⟩
    rw [hnone] at hmem
    cases hmem

theorem compile_eq_malformed_iff {raw : String} {defaults : Bindings} {settings : Settings}
    {fault : PatternError} :
    compile raw defaults settings = .error (.malformed fault) ↔
      Pattern.parse raw = .error fault := by
  cases hparse : Pattern.parse raw with
  | error other => simp [compile_of_parse_eq_error hparse]
  | ok pattern =>
      rw [compile_of_parse_eq_ok hparse]
      simp only [reduceCtorEq, iff_false]
      split <;> simp

/-- Each variable that stands outside every group has a value, from the caller or from the
template's own defaults. -/
def Ready (template : Template) (bindings : Bindings) : Prop :=
  ∀ name, Segment.var name ∈ template.pattern → name ∈ bindings ∨ name ∈ template.defaults

instance (template : Template) (bindings : Bindings) : Decidable (template.Ready bindings) :=
  decidable_of_iff
    (∀ name ∈ template.pattern.directNames, name ∈ bindings ∨ name ∈ template.defaults)
    (by simp only [Ready, Pattern.mem_directNames])

def text (template : Template) (bindings : Bindings) : String :=
  String.join (template.pattern.filterMap (Segment.render (template.scope bindings)))

/-- The variables outside every group that have no value, each where it comes first. -/
def unresolved (template : Template) (bindings : Bindings) : List String :=
  (template.pattern.directNames.filter fun name =>
    name ∉ bindings ∧ name ∉ template.defaults).eraseDups

theorem mem_unresolved {template : Template} {bindings : Bindings} {name : String} :
    name ∈ template.unresolved bindings ↔
      Segment.var name ∈ template.pattern ∧ name ∉ bindings ∧ name ∉ template.defaults := by
  simp [unresolved, Pattern.mem_directNames]

theorem unresolved_eq_nil_iff {template : Template} {bindings : Bindings} :
    template.unresolved bindings = [] ↔ template.Ready bindings := by
  rw [List.eq_nil_iff_forall_not_mem]
  unfold Ready
  constructor
  · intro hnone name hvar
    by_contra hvalue
    rw [not_or] at hvalue
    exact hnone name (mem_unresolved.mpr ⟨hvar, hvalue⟩)
  · intro hready name hmem
    obtain ⟨hvar, hcaller, hdefaults⟩ := mem_unresolved.mp hmem
    rcases hready name hvar with hvalue | hvalue
    · exact hcaller hvalue
    · exact hdefaults hvalue

/-- The check made on the declared names finds what the pattern itself lacks. -/
theorem Compiled.missing_eq {template : Template} (h : template.Compiled) (bindings : Bindings) :
    template.missing bindings = template.unresolved bindings := by
  have hlacks : (fun name => !(template.scope bindings).contains name) =
      fun name => decide (name ∉ bindings ∧ name ∉ template.defaults) := by
    funext name
    have hcontains : (template.scope bindings).contains name = true ↔
        name ∈ bindings ∨ name ∈ template.defaults := Scope.contains_iff_mem
    rw [Bool.eq_iff_iff, Bool.not_eq_true', decide_eq_true_eq, ← not_or,
      ← Bool.not_eq_true, hcontains]
  rw [missing, h.declared, Variables.required_ofPattern, Names.filter_eraseDups, hlacks,
    unresolved]

theorem Compiled.fragment_eq_ok {template : Template} (h : template.Compiled)
    {bindings : Bindings} (hready : template.Ready bindings) :
    template.fragment bindings = .ok (template.text bindings) := by
  have hmissing : template.missing bindings = [] := by
    rw [h.missing_eq, unresolved_eq_nil_iff]
    exact hready
  simp only [fragment, hmissing, Pattern.render_eq_join]
  rfl

theorem Compiled.fragment_eq_error {template : Template} (h : template.Compiled)
    {bindings : Bindings} (hready : ¬template.Ready bindings) :
    template.fragment bindings = .error ⟨template.unresolved bindings⟩ := by
  have hmissing : template.missing bindings ≠ [] := by
    rw [h.missing_eq, Ne, unresolved_eq_nil_iff]
    exact hready
  obtain ⟨name, names, hnames⟩ := List.exists_cons_of_ne_nil hmissing
  rw [h.missing_eq] at hnames
  simp only [fragment, h.missing_eq, hnames]

end Template
end PathTemplate
