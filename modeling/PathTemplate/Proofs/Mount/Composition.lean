import Mathlib
import PathTemplate.Proofs.Mount.Missing
import PathTemplate.Proofs.Mount.Paths

/-!
# Rendering under a parent

A mount under a parent renders to the parent's path joined with its own.  The rendering itself joins
the fragments of the chain as they are and normalizes once, so the law says that normalizing and
closing either side before the join leaves no trace in the result.  There is one exception: a parent
that closes its paths makes a separator out of a chain without any text, and to the mounts under it
such a parent contributes nothing.
-/

namespace PathTemplate

namespace Template

/-- The path made from a text depends on its components and its first separator; without components
a template that closes its paths does not even read the latter. -/
theorem pathOf_congr {template : Template} {left right : String}
    (hcomponents : Path.components left = Path.components right)
    (hroot : Path.root left = Path.root right ∨
      template.trailingSlash = true ∧ Path.components right = []) :
    template.pathOf left = template.pathOf right := by
  rcases hroot with hroot | ⟨hslash, hnone⟩
  · rw [pathOf_eq, pathOf_eq, Path.normalize_path, Path.normalize_path, hcomponents, hroot]
  · have hslashOnly : ∀ text, Path.components text = [] → template.pathOf text = "/" := by
      intro text htext
      rw [pathOf_eq, Path.normalize_path, htext]
      unfold Path.root
      split <;> simp [hslash]
    rw [hslashOnly left (hcomponents.trans hnone), hslashOnly right hnone]

theorem root_pathOf (template : Template) (text : String) :
    Path.root (template.pathOf text) =
      if text = "" ∧ template.trailingSlash = true then "/" else Path.root text := by
  rw [pathOf_eq]
  by_cases htext : text = ""
  · subst htext
    by_cases hslash : template.trailingSlash = true
    · simp [hslash, Path.normalize_eq_empty_iff.mpr, Path.root]
    · simp [hslash, Path.root_normalize]
  · have hpath := mt Path.normalize_eq_empty_iff.mp htext
    split
    · rw [Path.root_append hpath, Path.root_normalize]
      simp [htext]
    · rw [Path.root_normalize]
      simp [htext]

theorem pathOf_eq_empty_iff {template : Template} {text : String} :
    template.pathOf text = "" ↔ text = "" ∧ template.trailingSlash = false := by
  rw [pathOf_eq]
  split
  · next h => simp [h.1]
  · next h =>
      rw [Path.normalize_eq_empty_iff]
      constructor
      · intro htext
        subst htext
        simpa [Path.normalize_eq_empty_iff.mpr] using h
      · intro htext
        exact htext.1

/-- What follows a join may be brought into its final form first. -/
theorem pathOf_join_pathOf (template : Template) (before text : String) :
    template.pathOf (Path.join before (template.pathOf text)) =
      template.pathOf (Path.join before text) := by
  have hcomponents : Path.components (Path.join before (template.pathOf text)) =
      Path.components (Path.join before text) := by
    rw [Path.components_join, Path.components_join, components_pathOf]
  apply pathOf_congr hcomponents
  rw [Path.root_join, Path.root_join, root_pathOf]
  by_cases hbefore : before = ""
  · by_cases hclosed : text = "" ∧ template.trailingSlash = true
    · right
      rw [hbefore, hclosed.1]
      exact ⟨hclosed.2, rfl⟩
    · left
      rw [if_neg hclosed]
  · left
    rw [if_neg hbefore, if_neg hbefore]

/-- What comes before a join may be brought into its final form first, except where that makes a
separator out of nothing. -/
theorem pathOf_join_pathOf_left (template outer : Template) {before : String} (text : String)
    (hkept : outer.trailingSlash = false ∨ before ≠ "") :
    template.pathOf (Path.join (outer.pathOf before) text) =
      template.pathOf (Path.join before text) := by
  have hcomponents : Path.components (Path.join (outer.pathOf before) text) =
      Path.components (Path.join before text) := by
    rw [Path.components_join, Path.components_join, components_pathOf]
  have hempty : outer.pathOf before = "" ↔ before = "" := by
    rw [pathOf_eq_empty_iff]
    tauto
  have hroot : Path.root (outer.pathOf before) = Path.root before := by
    rw [root_pathOf, if_neg]
    intro hclosed
    rcases hkept with hopen | htext
    · rw [hclosed.2] at hopen
      cases hopen
    · exact htext hclosed.1
  apply pathOf_congr hcomponents
  left
  rw [Path.root_join, Path.root_join, hroot]
  simp only [hempty]

end Template

namespace Mount

/-- The variables that a rendering reports as missing; a path reports none. -/
def reported : Except MissingVariables String → List String
  | .ok _ => []
  | .error missing => missing.names

theorem Built.parent {mount parent : Mount} (h : mount.Built)
    (hparent : mount.parent? = some parent) : parent.Built := by
  cases h with
  | compiled hcompile => cases hparent
  | attached hmount houter =>
      obtain rfl := Option.some.inj hparent
      exact houter

theorem chain_of_parent? {mount parent : Mount} (h : mount.parent? = some parent) :
    mount.chain = parent.chain ++ [mount.template] := by
  cases mount with
  | root template => cases h
  | under outer template =>
      obtain rfl := Option.some.inj h
      exact chain_under outer template

theorem chain_of_parent?_eq_none {mount : Mount} (h : mount.parent? = none) :
    mount.chain = [mount.template] := by
  cases mount with
  | root template => exact chain_root template
  | under outer template => cases h

theorem unresolved_of_parent? {mount parent : Mount} (h : mount.parent? = some parent)
    (bindings : Bindings) :
    mount.unresolved bindings = parent.unresolved bindings ++
      (mount.template.unresolved bindings).filter fun name =>
        name ∉ parent.unresolved bindings := by
  have hown : (mount.template.unresolved bindings).Nodup := Names.nodup_eraseDups _
  rw [unresolved, chain_of_parent? h, List.flatMap_append, List.flatMap_singleton]
  exact Names.eraseDups_append_of_nodup _ hown

theorem unresolved_of_parent?_eq_none {mount : Mount} (h : mount.parent? = none)
    (bindings : Bindings) : mount.unresolved bindings = mount.template.unresolved bindings := by
  rw [unresolved, chain_of_parent?_eq_none h, List.flatMap_singleton]
  exact Names.eraseDups_eq_self (Names.nodup_eraseDups _)

theorem Built.renderAlone_eq_error_iff_unresolved {mount : Mount} (h : mount.Built)
    {bindings : Bindings} {missing : MissingVariables} :
    mount.renderAlone bindings = .error missing ↔
      missing.names = mount.template.unresolved bindings ∧
        mount.template.unresolved bindings ≠ [] := by
  have hcompiled := h.compiled_of_mem_chain mount.template_mem_chain
  rw [renderAlone_eq_error_iff_fragment, hcompiled.fragment_eq_error_iff, Ne,
    Template.unresolved_eq_nil_iff]

theorem Built.reported_render {mount : Mount} (h : mount.Built) (bindings : Bindings) :
    reported (mount.render bindings) = mount.unresolved bindings := by
  cases hrender : mount.render bindings with
  | ok path =>
      have hready := (h.render_eq_ok_iff.mp hrender).1
      exact (unresolved_eq_nil_iff.mpr hready).symm
  | error missing => exact (h.render_eq_error_iff_unresolved.mp hrender).1

theorem Built.reported_renderAlone {mount : Mount} (h : mount.Built) (bindings : Bindings) :
    reported (mount.renderAlone bindings) = mount.template.unresolved bindings := by
  cases halone : mount.renderAlone bindings with
  | ok path =>
      have hready := (h.renderAlone_eq_ok_iff.mp halone).1
      exact (Template.unresolved_eq_nil_iff.mpr hready).symm
  | error missing => exact (h.renderAlone_eq_error_iff_unresolved.mp halone).1

theorem Built.render_fails_iff {mount : Mount} (h : mount.Built) (bindings : Bindings) :
    (∃ missing, mount.render bindings = .error missing) ↔ mount.unresolved bindings ≠ [] := by
  constructor
  · intro hfails
    rcases hfails with ⟨missing, hmissing⟩
    exact (h.render_eq_error_iff_unresolved.mp hmissing).2
  · intro hne
    exact ⟨⟨mount.unresolved bindings⟩, h.render_eq_error_iff_unresolved.mpr ⟨rfl, hne⟩⟩

theorem Built.renderAlone_fails_iff {mount : Mount} (h : mount.Built) (bindings : Bindings) :
    (∃ missing, mount.renderAlone bindings = .error missing) ↔
      mount.template.unresolved bindings ≠ [] := by
  constructor
  · intro hfails
    rcases hfails with ⟨missing, hmissing⟩
    exact (h.renderAlone_eq_error_iff_unresolved.mp hmissing).2
  · intro hne
    exact ⟨⟨mount.template.unresolved bindings⟩,
      h.renderAlone_eq_error_iff_unresolved.mpr ⟨rfl, hne⟩⟩

theorem Built.render_eq_renderAlone {mount : Mount} (h : mount.Built)
    (hparent : mount.parent? = none) (bindings : Bindings) :
    mount.render bindings = mount.renderAlone bindings := by
  cases halone : mount.renderAlone bindings with
  | ok path =>
      rcases h.renderAlone_eq_ok_iff.mp halone with ⟨hready, rfl⟩
      rw [h.render_eq_ok_iff, fragments, chain_of_parent?_eq_none hparent]
      exact ⟨by simpa using hready, by simp [Path.join]⟩
  | error missing =>
      rw [h.render_eq_error_iff_unresolved, unresolved_of_parent?_eq_none hparent]
      exact h.renderAlone_eq_error_iff_unresolved.mp halone

/-- The joined fragments of a mount under a parent are those of the parent and its own. -/
theorem foldl_join_fragments {mount parent : Mount} (h : mount.parent? = some parent)
    (bindings : Bindings) :
    (mount.fragments bindings).foldl Path.join "" =
      Path.join ((parent.fragments bindings).foldl Path.join "")
        (mount.template.text bindings) := by
  simp [fragments, chain_of_parent? h, List.foldl_append]

theorem Built.render_eq_ok_of_parent? {mount parent : Mount} (h : mount.Built)
    (hparent : mount.parent? = some parent) {bindings : Bindings} {outerPath ownPath : String}
    (houter : parent.render bindings = .ok outerPath)
    (hown : mount.renderAlone bindings = .ok ownPath) :
    mount.render bindings = .ok (mount.template.pathOf
      (Path.join ((parent.fragments bindings).foldl Path.join "")
        (mount.template.text bindings))) := by
  have houterReady := ((h.parent hparent).render_eq_ok_iff.mp houter).1
  have hownReady := (h.renderAlone_eq_ok_iff.mp hown).1
  rw [h.render_eq_ok_iff, foldl_join_fragments hparent, chain_of_parent? hparent]
  refine ⟨?_, rfl⟩
  intro template hmem
  rcases List.mem_append.mp hmem with houterMem | hownMem
  · exact houterReady template houterMem
  · rw [List.mem_singleton.mp hownMem]
    exact hownReady

/-- Rendering by the chain and rendering by composition: a mount without a parent renders as it does
alone.  Under a parent it fails if the parent or the mount alone fails, and lists what the parent
lacks before what it lacks itself; otherwise its path is the parent's path joined with its own, or
its own alone where the parent closes a path without text. -/
theorem render_eq_join_renderAlone {mount : Mount} (hbuilt : mount.Built) (bindings : Bindings) :
    (mount.parent? = none → mount.render bindings = mount.renderAlone bindings) ∧
    ∀ parent, mount.parent? = some parent →
      let outer := parent.render bindings
      let own := mount.renderAlone bindings
      ((∃ missing, mount.render bindings = .error missing) ↔
        (∃ missing, outer = .error missing) ∨ ∃ missing, own = .error missing) ∧
      (∀ missing, mount.render bindings = .error missing →
        missing.names = reported outer ++
          (reported own).filter fun name => name ∉ reported outer) ∧
      ∀ outerPath ownPath, outer = .ok outerPath → own = .ok ownPath →
        (parent.template.trailingSlash = false ∨
            (∃ fragment ∈ parent.fragments bindings, fragment ≠ "") →
          mount.render bindings =
            .ok (mount.template.pathOf (Path.join outerPath ownPath))) ∧
        (parent.template.trailingSlash = true →
            (∀ fragment ∈ parent.fragments bindings, fragment = "") →
          outerPath = "/" ∧ mount.render bindings = .ok ownPath) := by
  apply And.intro fun hparent => hbuilt.render_eq_renderAlone hparent bindings
  intro parent hparent outer own
  have houterBuilt := hbuilt.parent hparent
  have hunresolved := unresolved_of_parent? hparent bindings
  refine ⟨?_, ?_, ?_⟩
  · rw [hbuilt.render_fails_iff, houterBuilt.render_fails_iff, hbuilt.renderAlone_fails_iff,
      hunresolved, Ne, List.append_eq_nil_iff, ← not_and_or]
    apply not_congr
    apply and_congr_right
    intro hnone
    simp [hnone]
  · intro missing hmissing
    rw [houterBuilt.reported_render, hbuilt.reported_renderAlone, ← hunresolved]
    exact (hbuilt.render_eq_error_iff_unresolved.mp hmissing).1
  · intro outerPath ownPath houter hown
    have hrender := hbuilt.render_eq_ok_of_parent? hparent houter hown
    have houterPath := (houterBuilt.render_eq_ok_iff.mp houter).2
    have hownPath := (hbuilt.renderAlone_eq_ok_iff.mp hown).2
    constructor
    · intro hkept
      have hbefore : parent.template.trailingSlash = false ∨
          (parent.fragments bindings).foldl Path.join "" ≠ "" := by
        apply hkept.imp_right
        intro htext
        simpa [Path.foldl_join_eq_empty_iff] using htext
      rw [hrender, houterPath, hownPath, Template.pathOf_join_pathOf,
        Template.pathOf_join_pathOf_left _ _ _ hbefore]
    · intro hslash hnone
      have hbefore : (parent.fragments bindings).foldl Path.join "" = "" :=
        Path.foldl_join_eq_empty_iff.mpr ⟨rfl, hnone⟩
      constructor
      · rw [houterPath, hbefore, Template.pathOf_eq, hslash]
        rfl
      · rw [hrender, hownPath, hbefore]
        simp [Path.join]

/-- The parent has a parent of its own that renders to nothing, and closes its paths, as the mount
under it does. -/
theorem render_eq_join_renderAlone_of_closed :
    ∃ mount parent : Mount, ∃ bindings : Bindings,
      mount.Built ∧ mount.parent? = some parent ∧
      mount.chain.map Template.raw = ["(:site)", ":lang/", ":page(/:kind)"] ∧
      parent.template.trailingSlash = true ∧
      parent.render bindings = .ok "de/" ∧ mount.renderAlone bindings = .ok "home/" ∧
      mount.render bindings = .ok "de/home/" := by
  let bindings := Bindings.ofPairs [("lang", "de"), ("page", "home")]
  let outer : Template := ⟨"(:site)", {}, [.group [.var "site"]], ⟨[], ["site"]⟩, false⟩
  let middle : Template := ⟨":lang/", {}, [.var "lang", .separator], ⟨["lang"], []⟩, true⟩
  let inner : Template :=
    ⟨":page(/:kind)", {}, [.var "page", .group [.separator, .var "kind"]],
      ⟨["page"], ["kind"]⟩, true⟩
  let parent := (root middle).attach (root outer)
  let mount := (root inner).attach parent
  have hparent : parent.render bindings = .ok "de/" := by decide +kernel +revert
  have hown : mount.renderAlone bindings = .ok "home/" := by decide +kernel +revert
  have htext : ∃ fragment ∈ parent.fragments bindings, fragment ≠ "" := by
    decide +kernel +revert
  have hpath : mount.template.pathOf (Path.join "de/" "home/") = "de/home/" := by
    decide +kernel +revert
  have houter : Template.compile "(:site)" {} ⟨.ignore, false⟩ = .ok outer := by cbv
  have hmiddle : Template.compile ":lang/" {} ⟨.ignore, true⟩ = .ok middle := by cbv
  have hinner : Template.compile ":page(/:kind)" {} ⟨.reject, true⟩ = .ok inner := by cbv
  have hbuilt : mount.Built :=
    .attached (.compiled hinner) (.attached (.compiled hmiddle) (.compiled houter))
  have hrender := (((render_eq_join_renderAlone hbuilt bindings).2 parent rfl).2.2
    "de/" "home/" hparent hown).1 (.inr htext)
  rw [hpath] at hrender
  exact ⟨mount, parent, bindings, hbuilt, rfl, rfl, rfl, hparent, hown, hrender⟩

end Mount
end PathTemplate
