import Mathlib
import PathTemplate.Proofs.Mount.Composition

/-!
# What is left to supply

What a chain lacks under no bindings at all is all that it can ever ask for.  Bindings take the names
that they bind off this list and do nothing else to it, so a failure tells the caller exactly what
the next attempt has to bind, and no further binding does any harm.
-/

namespace PathTemplate

theorem Template.unresolved_eq_filter (template : Template) (bindings : Bindings) :
    template.unresolved bindings =
      (template.unresolved {}).filter fun name => name ∉ bindings := by
  rw [unresolved, unresolved, Names.filter_eraseDups, List.filter_filter]
  congr 1
  apply List.filter_congr
  intro name _
  simp

namespace Mount

theorem unresolved_eq_filter (mount : Mount) (bindings : Bindings) :
    mount.unresolved bindings =
      (mount.unresolved {}).filter fun name => name ∉ bindings := by
  rw [unresolved, unresolved, Names.filter_eraseDups, List.filter_flatMap]
  simp only [← Template.unresolved_eq_filter]

theorem Built.render_succeeds_iff {mount : Mount} (h : mount.Built) (bindings : Bindings) :
    (∃ path, mount.render bindings = .ok path) ↔ mount.unresolved bindings = [] := by
  rw [unresolved_eq_nil_iff]
  constructor
  · intro hrendered
    obtain ⟨path, hpath⟩ := hrendered
    exact (h.render_eq_ok_iff.mp hpath).1
  · intro hready
    exact ⟨_, h.render_eq_ok hready⟩

/-- Bindings that bind at least the names of others lack what those lack, less what they bind. -/
theorem unresolved_eq_filter_of_forall_mem (mount : Mount) {bindings more : Bindings}
    (hmore : ∀ name ∈ bindings, name ∈ more) :
    mount.unresolved more =
      (mount.unresolved bindings).filter fun name => name ∉ more := by
  rw [mount.unresolved_eq_filter more, mount.unresolved_eq_filter bindings, List.filter_filter]
  apply List.filter_congr
  intro name _
  by_cases hname : name ∈ bindings
  · simp [hname, hmore name hname]
  · simp [hname]

theorem Built.render_succeeds_iff_of_forall_mem {mount : Mount} (h : mount.Built)
    {bindings more : Bindings} (hmore : ∀ name ∈ bindings, name ∈ more) :
    (∃ path, mount.render more = .ok path) ↔
      ∀ name ∈ mount.unresolved bindings, name ∈ more := by
  rw [h.render_succeeds_iff, mount.unresolved_eq_filter_of_forall_mem hmore,
    List.filter_eq_nil_iff]
  simp

/-- The names that a chain lacks under no bindings are a list without repetition.  Under any
bindings the chain lacks those of the list that are not bound, in the same order, and it has a path
exactly if all are bound.  After a failure, bindings that bind at least what was bound before lead to
a path exactly if they bind each name that was reported, whatever the values; after a success they
always do. -/
theorem reported_eq_filter_not_bound {mount : Mount} (hbuilt : mount.Built) :
    let needed := reported (mount.render {})
    needed.Nodup ∧
    (∀ bindings : Bindings,
      let lacking := needed.filter fun name => name ∉ bindings
      reported (mount.render bindings) = lacking ∧
      (∀ missing, mount.render bindings = .error missing ↔
        missing.names = lacking ∧ lacking ≠ []) ∧
      ((∃ path, mount.render bindings = .ok path) ↔ lacking = [])) ∧
    (∀ bindings more : Bindings, (∀ name ∈ bindings, name ∈ more) →
      (∀ missing, mount.render bindings = .error missing →
        ((∃ path, mount.render more = .ok path) ↔ ∀ name ∈ missing.names, name ∈ more)) ∧
      ((∃ path, mount.render bindings = .ok path) → ∃ path, mount.render more = .ok path)) := by
  intro needed
  have hneeded : needed = mount.unresolved {} := hbuilt.reported_render {}
  have hlacking : ∀ bindings : Bindings,
      (needed.filter fun name => name ∉ bindings) = mount.unresolved bindings := by
    intro bindings
    rw [hneeded]
    exact (mount.unresolved_eq_filter bindings).symm
  refine ⟨?_, ?_, ?_⟩
  · rw [hneeded]
    exact Names.nodup_eraseDups _
  · intro bindings lacking
    have hunresolved : lacking = mount.unresolved bindings := hlacking bindings
    rw [hunresolved]
    exact ⟨hbuilt.reported_render bindings,
      fun missing => hbuilt.render_eq_error_iff_unresolved,
      hbuilt.render_succeeds_iff bindings⟩
  · intro bindings more hmore
    have hretry := hbuilt.render_succeeds_iff_of_forall_mem hmore
    constructor
    · intro missing hmissing
      rw [hretry, (hbuilt.render_eq_error_iff_unresolved.mp hmissing).1]
    · intro hrendered
      rw [hretry, (hbuilt.render_succeeds_iff bindings).mp hrendered]
      simp

/-- Both templates require `a`, which only the inner one has a default for, and `c` is required by
the outer template and optional in the inner one. -/
theorem reported_eq_filter_not_bound_of_shared :
    ∃ mount : Mount, ∃ bindings more : Bindings,
      mount.Built ∧ mount.chain.map Template.raw = ["/:a/:c", ":b/:a(/:c)"] ∧
      mount.render {} = .error ⟨["a", "c", "b"]⟩ ∧
      mount.render bindings = .error ⟨["a", "b"]⟩ ∧
      (∀ name ∈ bindings, name ∈ more) ∧
      ∃ path, mount.render more = .ok path := by
  let bindings := Bindings.ofPairs [("c", "3")]
  let more := Bindings.ofPairs [("b", ""), ("c", "3"), ("a", "1")]
  let outer : Template :=
    ⟨"/:a/:c", {}, [.separator, .var "a", .separator, .var "c"], ⟨["a", "c"], []⟩, false⟩
  let inner : Template :=
    ⟨":b/:a(/:c)", Bindings.ofPairs [("a", "0")],
      [.var "b", .separator, .var "a", .group [.separator, .var "c"]],
      ⟨["b", "a"], ["c"]⟩, false⟩
  let mount := (root inner).attach (root outer)
  have hempty : mount.render {} = .error ⟨["a", "c", "b"]⟩ := by decide +kernel +revert
  have hfailed : mount.render bindings = .error ⟨["a", "b"]⟩ := by decide +kernel +revert
  have hnames : ∀ name ∈ ["a", "b"], name ∈ more := by decide +kernel +revert
  have hmore : ∀ name ∈ bindings, name ∈ more := by
    intro name hname
    have heq : "c" = name := by simpa [bindings, Bindings.ofPairs] using hname
    simp [← heq, more, Bindings.ofPairs]
  have houter : Template.compile outer.raw outer.defaults ⟨.reject, false⟩ = .ok outer := by cbv
  have hinner : Template.compile inner.raw inner.defaults ⟨.reject, false⟩ = .ok inner := by cbv
  have hbuilt : mount.Built := .attached (.compiled hinner) (.compiled houter)
  have hretry := (reported_eq_filter_not_bound hbuilt).2.2 bindings more hmore
  exact ⟨mount, bindings, more, hbuilt, rfl, hempty, hfailed, hmore,
    (hretry.1 _ hfailed).mpr hnames⟩

end Mount
end PathTemplate
