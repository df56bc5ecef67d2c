import Mathlib
import PathTemplate.Proofs.Mount.Chain
import PathTemplate.Proofs.Path.Components

/-!
# The path of a chain

The path of a chain is written from the texts of its templates: their components in order, the
outermost template first, with one separator between each two.  Where the texts are joined, and
how many separators they bring to a seam, leaves no trace in it.
-/

namespace PathTemplate

theorem Template.pathOf_eq (template : Template) (joined : String) :
    template.pathOf joined =
      if template.trailingSlash ∧ (Path.normalize joined).path ≠ "/" then
        (Path.normalize joined).path ++ "/"
      else (Path.normalize joined).path := by
  simp only [pathOf, Path.close_normalize]
  by_cases hslash : template.trailingSlash = true
  · by_cases hroot : (Path.normalize joined).path = "/"
    · simp [hslash, hroot]
    · simp [hslash, hroot]
  · simp [hslash]

theorem Template.components_pathOf (template : Template) (joined : String) :
    Path.components (template.pathOf joined) = Path.components joined := by
  unfold pathOf
  split
  · rw [Path.components_close, Path.components_normalize]
  · rw [Path.components_normalize]

namespace Mount

/-- If every template of the chain is ready, the path is the components of all fragments, joined by
single separators and closed by one more where the mount asks for it; nothing is lost, and no
component runs into that of a neighbour. -/
theorem render_eq_lead_append_components {mount : Mount} {bindings : Bindings}
    (hbuilt : mount.Built) (hready : ∀ template ∈ mount.chain, template.Ready bindings) :
    let fragments := mount.fragments bindings
    let components := fragments.flatMap Path.components
    let plain := Path.lead fragments ++ "/".intercalate components
    let path := if mount.template.trailingSlash ∧ plain ≠ "/" then plain ++ "/" else plain
    mount.render bindings = .ok path ∧ Path.components path = components := by
  intro fragments components plain path
  have hplain : (Path.normalize (fragments.foldl Path.join "")).path = plain :=
    Path.normalize_foldl_join fragments
  have hpath : mount.template.pathOf (fragments.foldl Path.join "") = path := by
    rw [Template.pathOf_eq, hplain]
  constructor
  · rw [hbuilt.render_eq_ok hready]
    exact congrArg Except.ok hpath
  · rw [← hpath, Template.components_pathOf, Path.components_foldl_join]
    simp [Path.components, components]

/-- A chain in which the outermost fragment is a separator alone, the next has no text, and a value
brings separators of its own. -/
theorem render_eq_lead_append_components_of_three :
    ∃ mount : Mount, ∃ bindings : Bindings,
      mount.Built ∧ (∀ template ∈ mount.chain, template.Ready bindings) ∧
      mount.chain.map Template.raw = ["/", "(:lang/)", "files//:name(/:kind)"] ∧
      mount.render bindings = .ok "/files/a/b/txt/" := by
  let bindings := Bindings.ofPairs [("name", "/a//b")]
  let outer : Template := ⟨"/", {}, [.separator], ⟨[], []⟩, true⟩
  let middle : Template :=
    ⟨"(:lang/)", {}, [.group [.var "lang", .separator]], ⟨[], ["lang"]⟩, false⟩
  let inner : Template :=
    ⟨"files//:name(/:kind)", Bindings.ofPairs [("kind", "txt")],
      [.text "files", .separator, .separator, .var "name", .group [.separator, .var "kind"]],
      ⟨["name"], ["kind"]⟩, true⟩
  let mount := (root inner).attach ((root middle).attach (root outer))
  have houter : Template.compile "/" {} ⟨.ignore, true⟩ = .ok outer := by cbv
  have hmiddle : Template.compile "(:lang/)" {} ⟨.reject, false⟩ = .ok middle := by cbv
  have hinner : Template.compile inner.raw inner.defaults ⟨.ignore, true⟩ = .ok inner := by cbv
  have hbuilt : mount.Built :=
    .attached (.compiled hinner) (.attached (.compiled hmiddle) (.compiled houter))
  have hready : ∀ template ∈ mount.chain, template.Ready bindings :=
    unresolved_eq_nil_iff.mp (by cbv)
  have hpath := (render_eq_lead_append_components hbuilt hready).1
  exact ⟨mount, bindings, hbuilt, hready, rfl, hpath.trans (by cbv)⟩

end Mount
end PathTemplate
