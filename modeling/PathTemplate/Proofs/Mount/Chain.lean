import PathTemplate.Mount
import PathTemplate.Proofs.Template

/-!
# Chains of mounts

A mount comes about by compiling templates and placing mounts under one another, in any order and
any number of times.  Its rendering is one pass over the templates of its chain, outermost first:
either every template is ready and the pass has joined all their texts, or the pass has gathered
what the templates that are not ready lack.
-/

namespace PathTemplate.Mount

/-- The mounts that compiling templates and placing mounts under one another can bring about. -/
inductive Built : Mount → Prop
  | compiled {raw : String} {defaults : Bindings} {settings : Settings} {template : Template}
      (hcompile : Template.compile raw defaults settings = .ok template) : Built (root template)
  | attached {mount parent : Mount} (hmount : Built mount) (hparent : Built parent) :
      Built (mount.attach parent)

theorem template_mem_chain (mount : Mount) : mount.template ∈ mount.chain := by
  cases mount with
  | root template => simp [Mount.template]
  | under parent template => simp [Mount.template]

theorem Built.compiled_of_mem_chain {mount : Mount} (h : mount.Built) {template : Template}
    (hmem : template ∈ mount.chain) : template.Compiled := by
  induction h with
  | compiled hcompile =>
      have htemplate := List.mem_singleton.mp (by simpa using hmem)
      rw [htemplate]
      exact Template.compiled_of_compile_eq_ok hcompile
  | @attached mount parent hmount hparent ihmount ihparent =>
      have hcases : template ∈ parent.chain ∨ template = mount.template := by
        simpa [attach] using hmem
      rcases hcases with houter | rfl
      · exact ihparent houter
      · exact ihmount mount.template_mem_chain

/-- What a rendering comes to, and the entries that it makes, by what the walk has gathered. -/
theorem renderLogged_eq (mount : Mount) (bindings : Bindings) :
    let assembly := mount.assemble bindings
    let path := mount.template.pathOf assembly.joined
    (mount.renderLogged bindings).run =
      if assembly.missing = [] then ⟨.ok path, [.rendered mount.template.raw path]⟩
      else
        ⟨.error ⟨assembly.missing⟩,
          [.missingVariables mount.template.raw assembly.missing]⟩ := by
  intro assembly path
  change ExceptT.run (if assembly.missing ≠ [] then _ else _) = _
  by_cases hmissing : assembly.missing = []
  · rw [if_pos hmissing, if_neg (not_not_intro hmissing)]
    rfl
  · rw [if_neg hmissing, if_pos hmissing]
    rfl

theorem render_eq (mount : Mount) (bindings : Bindings) :
    mount.render bindings =
      if (mount.assemble bindings).missing = [] then
        .ok (mount.template.pathOf (mount.assemble bindings).joined)
      else
        .error ⟨(mount.assemble bindings).missing⟩ := by
  rw [render, renderLogged_eq]
  split <;> rfl

/-- However long the chain is, a rendering makes one entry, which says what it returns and names the
pattern of the mount that is rendered. -/
theorem events_renderLogged (mount : Mount) (bindings : Bindings) :
    (mount.renderLogged bindings).run.events =
      match mount.render bindings with
      | .ok path => [.rendered mount.template.raw path]
      | .error missing => [.missingVariables mount.template.raw missing.names] := by
  rw [render_eq, renderLogged_eq]
  by_cases hmissing : (mount.assemble bindings).missing = []
  · rw [if_pos hmissing, if_pos hmissing]
  · rw [if_neg hmissing, if_neg hmissing]

def fragments (mount : Mount) (bindings : Bindings) : List String :=
  mount.chain.map fun template => template.text bindings

/-- The variables that the chain lacks, outermost template first, each where it comes first. -/
def unresolved (mount : Mount) (bindings : Bindings) : List String :=
  (mount.chain.flatMap fun template => template.unresolved bindings).eraseDups

theorem foldl_add_of_ready {templates : List Template} {bindings : Bindings}
    (hcompiled : ∀ template ∈ templates, template.Compiled)
    (hready : ∀ template ∈ templates, template.Ready bindings) (assembly : Assembly) :
    templates.foldl (Assembly.add bindings) assembly =
      ⟨(templates.map fun template => template.text bindings).foldl Path.join assembly.joined,
        assembly.missing⟩ := by
  induction templates generalizing assembly with
  | nil => rfl
  | cons template templates ih =>
      have hfragment := (hcompiled template List.mem_cons_self).fragment_eq_ok
        (hready template List.mem_cons_self)
      have hrest := ih (fun other hmem => hcompiled other (List.mem_cons_of_mem template hmem))
        (fun other hmem => hready other (List.mem_cons_of_mem template hmem))
      rw [List.foldl_cons, hrest]
      simp [Assembly.add, hfragment]

theorem missing_foldl_add {templates : List Template}
    (hcompiled : ∀ template ∈ templates, template.Compiled) (bindings : Bindings)
    (assembly : Assembly) :
    (templates.foldl (Assembly.add bindings) assembly).missing =
      Names.addAll assembly.missing
        (templates.flatMap fun template => template.unresolved bindings) := by
  induction templates generalizing assembly with
  | nil => rfl
  | cons template templates ih =>
      have htemplate := hcompiled template List.mem_cons_self
      rw [List.foldl_cons,
        ih (fun other hmem => hcompiled other (List.mem_cons_of_mem template hmem)),
        List.flatMap_cons]
      by_cases hready : template.Ready bindings
      · simp [Assembly.add, htemplate.fragment_eq_ok hready,
          Template.unresolved_eq_nil_iff.mpr hready]
      · simp [Assembly.add, htemplate.fragment_eq_error hready, Names.addAll, List.foldl_append]

theorem Built.missing_assemble {mount : Mount} (h : mount.Built) (bindings : Bindings) :
    (mount.assemble bindings).missing = mount.unresolved bindings := by
  unfold assemble unresolved
  rw [missing_foldl_add (fun template hmem => h.compiled_of_mem_chain hmem)]
  exact Names.addAll_nil_left _

theorem mem_unresolved {mount : Mount} {bindings : Bindings} {name : String} :
    name ∈ mount.unresolved bindings ↔
      ∃ template ∈ mount.chain, Segment.var name ∈ template.pattern ∧
        name ∉ bindings ∧ name ∉ template.defaults := by
  simp only [unresolved, List.mem_eraseDups, List.mem_flatMap, Template.mem_unresolved]

theorem unresolved_eq_nil_iff {mount : Mount} {bindings : Bindings} :
    mount.unresolved bindings = [] ↔ ∀ template ∈ mount.chain, template.Ready bindings := by
  rw [unresolved, Names.eraseDups_eq_nil_iff, List.flatMap_eq_nil_iff]
  simp only [Template.unresolved_eq_nil_iff]

theorem Built.render_eq_ok {mount : Mount} (h : mount.Built) {bindings : Bindings}
    (hready : ∀ template ∈ mount.chain, template.Ready bindings) :
    mount.render bindings =
      .ok (mount.template.pathOf ((mount.fragments bindings).foldl Path.join "")) := by
  have hassembly : mount.assemble bindings =
      ⟨(mount.fragments bindings).foldl Path.join "", []⟩ :=
    foldl_add_of_ready (fun template hmem => h.compiled_of_mem_chain hmem) hready Assembly.empty
  rw [render_eq, hassembly, if_pos rfl]

theorem Built.render_eq_error {mount : Mount} (h : mount.Built) {bindings : Bindings}
    (hunresolved : mount.unresolved bindings ≠ []) :
    mount.render bindings = .error ⟨mount.unresolved bindings⟩ := by
  rw [render_eq, h.missing_assemble, if_neg hunresolved]

theorem Built.render_eq_ok_iff {mount : Mount} (h : mount.Built) {bindings : Bindings}
    {path : String} :
    mount.render bindings = .ok path ↔ (∀ template ∈ mount.chain, template.Ready bindings) ∧
      path = mount.template.pathOf ((mount.fragments bindings).foldl Path.join "") := by
  by_cases hready : ∀ template ∈ mount.chain, template.Ready bindings
  · rw [h.render_eq_ok hready, Except.ok.injEq, eq_comm, iff_and_self]
    exact fun _ => hready
  · rw [h.render_eq_error (mt unresolved_eq_nil_iff.mp hready)]
    simp [hready]

theorem Built.renderAlone_eq_ok_iff {mount : Mount} (h : mount.Built) {bindings : Bindings}
    {path : String} :
    mount.renderAlone bindings = .ok path ↔ mount.template.Ready bindings ∧
      path = mount.template.pathOf (mount.template.text bindings) := by
  have hcompiled := h.compiled_of_mem_chain mount.template_mem_chain
  unfold renderAlone
  by_cases hready : mount.template.Ready bindings
  · rw [hcompiled.fragment_eq_ok hready]
    simp [Except.map, hready, eq_comm]
  · rw [hcompiled.fragment_eq_error hready]
    simp [Except.map, hready]

end PathTemplate.Mount
