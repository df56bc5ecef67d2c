import Mathlib
import PathTemplate.Proofs.Mount.Chain

/-!
# What a rendering lacks

A chain has no path exactly if some template in it is not ready, and the failure then names every
variable that is lacking anywhere in the chain.  Each template is judged by the caller's bindings
and its own defaults: the defaults of another template never make up for a missing value.
-/

namespace PathTemplate

theorem Template.Compiled.fragment_eq_error_iff {template : Template} (h : template.Compiled)
    {bindings : Bindings} {missing : MissingVariables} :
    template.fragment bindings = .error missing ↔
      missing.names = template.unresolved bindings ∧ ¬template.Ready bindings := by
  by_cases hready : template.Ready bindings
  · simp [h.fragment_eq_ok hready, hready]
  · rw [h.fragment_eq_error hready]
    constructor
    · intro heq
      rw [← Except.error.inj heq]
      exact ⟨rfl, hready⟩
    · intro heq
      rw [← heq.1]

namespace Mount

theorem renderAlone_eq_error_iff_fragment {mount : Mount} {bindings : Bindings}
    {missing : MissingVariables} :
    mount.renderAlone bindings = .error missing ↔
      mount.template.fragment bindings = .error missing := by
  unfold renderAlone
  cases mount.template.fragment bindings <;> simp [Except.map]

theorem Built.render_eq_error_iff_unresolved {mount : Mount} (h : mount.Built)
    {bindings : Bindings} {missing : MissingVariables} :
    mount.render bindings = .error missing ↔
      missing.names = mount.unresolved bindings ∧ mount.unresolved bindings ≠ [] := by
  by_cases hunresolved : mount.unresolved bindings = []
  · rw [h.render_eq_ok (unresolved_eq_nil_iff.mp hunresolved)]
    simp [hunresolved]
  · rw [h.render_eq_error hunresolved]
    constructor
    · intro heq
      rw [← Except.error.inj heq]
      exact ⟨rfl, hunresolved⟩
    · intro heq
      rw [← heq.1]

/-- A rendering fails exactly if some template of the chain has a variable outside every group that
neither the caller nor this same template gives a value, and the failure lists these variables, the
outermost template first, each once; the rendering of the mount alone lists its own. -/
theorem render_eq_error_iff {mount : Mount} (hbuilt : mount.Built) (bindings : Bindings) :
    let names := mount.unresolved bindings
    ((∃ missing, mount.render bindings = .error missing) ↔
      ∃ template ∈ mount.chain, ∃ name, Segment.var name ∈ template.pattern ∧
        name ∉ bindings ∧ name ∉ template.defaults) ∧
    ((∃ path, mount.render bindings = .ok path) ↔
      ∀ template ∈ mount.chain, template.Ready bindings) ∧
    (∀ missing, mount.render bindings = .error missing ↔
      missing.names = names ∧ names ≠ []) ∧
    names.Nodup ∧
    (∀ name, name ∈ names ↔ ∃ template ∈ mount.chain,
      Segment.var name ∈ template.pattern ∧ name ∉ bindings ∧ name ∉ template.defaults) ∧
    (∀ missing, mount.renderAlone bindings = .error missing ↔
      missing.names = mount.template.unresolved bindings ∧ missing.names ≠ []) := by
  intro names
  have hmem : ∀ name, name ∈ names ↔ ∃ template ∈ mount.chain,
      Segment.var name ∈ template.pattern ∧ name ∉ bindings ∧ name ∉ template.defaults :=
    fun name => mem_unresolved
  have hready : names = [] ↔ ∀ template ∈ mount.chain, template.Ready bindings :=
    unresolved_eq_nil_iff
  have hrender : ∀ missing, mount.render bindings = .error missing ↔
      missing.names = names ∧ names ≠ [] :=
    fun missing => hbuilt.render_eq_error_iff_unresolved
  refine ⟨?_, ?_, hrender, Names.nodup_eraseDups _, hmem, ?_⟩
  · constructor
    · intro hfailed
      rcases hfailed with ⟨missing, hmissing⟩
      have hnames := ((hrender missing).mp hmissing).2
      obtain ⟨name, hname⟩ := List.exists_mem_of_ne_nil names hnames
      obtain ⟨template, htemplate, hlacks⟩ := (hmem name).mp hname
      exact ⟨template, htemplate, name, hlacks⟩
    · intro hlacking
      rcases hlacking with ⟨template, htemplate, name, hlacks⟩
      have hname : name ∈ names := (hmem name).mpr ⟨template, htemplate, hlacks⟩
      exact ⟨⟨names⟩, (hrender ⟨names⟩).mpr ⟨rfl, List.ne_nil_of_mem hname⟩⟩
  · constructor
    · intro hrendered
      rcases hrendered with ⟨path, hpath⟩
      rw [← hready]
      by_contra hnames
      have herror := (hrender ⟨names⟩).mpr ⟨rfl, hnames⟩
      rw [hpath] at herror
      cases herror
    · intro hall
      exact ⟨_, hbuilt.render_eq_ok hall⟩
  · intro missing
    have hcompiled := hbuilt.compiled_of_mem_chain mount.template_mem_chain
    rw [renderAlone_eq_error_iff_fragment, hcompiled.fragment_eq_error_iff,
      ← Template.unresolved_eq_nil_iff]
    constructor
    · intro hown
      rcases hown with ⟨hnames, hne⟩
      exact ⟨hnames, hnames ▸ hne⟩
    · intro hown
      rcases hown with ⟨hnames, hne⟩
      exact ⟨hnames, hnames ▸ hne⟩

/-- A chain in which the outer default for `b` is of no use to the inner template. -/
theorem render_eq_error_iff_of_two :
    ∃ mount : Mount, ∃ bindings : Bindings,
      mount.Built ∧ mount.chain.map Template.raw = ["/:a(/:b)", "/:b/:a/:c"] ∧
      mount.render bindings = .error ⟨["a", "b"]⟩ ∧
      mount.renderAlone bindings = .error ⟨["b", "a"]⟩ := by
  let outer : Template :=
    ⟨"/:a(/:b)", Bindings.ofPairs [("b", "1")],
      [.separator, .var "a", .group [.separator, .var "b"]], ⟨["a"], ["b"]⟩, false⟩
  let inner : Template :=
    ⟨"/:b/:a/:c", Bindings.ofPairs [("c", "2")],
      [.separator, .var "b", .separator, .var "a", .separator, .var "c"],
      ⟨["b", "a", "c"], []⟩, false⟩
  let mount := (root inner).attach (root outer)
  have houter : Template.compile outer.raw outer.defaults ⟨.reject, false⟩ = .ok outer := by cbv
  have hinner : Template.compile inner.raw inner.defaults ⟨.reject, false⟩ = .ok inner := by cbv
  have hbuilt : mount.Built := .attached (.compiled hinner) (.compiled houter)
  obtain ⟨-, -, hrender, -, -, halone⟩ := render_eq_error_iff hbuilt {}
  have hnames : mount.unresolved {} = ["a", "b"] := by cbv
  have hown : mount.template.unresolved {} = ["b", "a"] := by cbv
  refine ⟨mount, {}, hbuilt, rfl, ?_, ?_⟩
  · exact (hrender ⟨["a", "b"]⟩).mpr ⟨hnames.symm, by simp [hnames]⟩
  · exact (halone ⟨["b", "a"]⟩).mpr ⟨hown.symm, by simp⟩

end Mount
end PathTemplate
