import Mathlib
import PathTemplate.Proofs.Mount.Dependence
import PathTemplate.Proofs.Mount.Composition
import PathTemplate.Proofs.Pattern.Source

/-!
# Mounting and writing patterns side by side

Two patterns with a separator between them are a pattern again, whose tree is the two trees with a
separator segment between them.  Filling it in gives what mounting the second pattern under the first
gives: it lacks the same variables, and its path has the same components.  The two paths can differ
only where the first pattern comes out without any text, so that the separator that was written
between them is the first thing in the one and is not there in the other.
-/

namespace PathTemplate

namespace Pattern

theorem Normal.append_separator {left right : Pattern} (hleft : left.Normal)
    (hright : right.Normal) : Pattern.Normal (left ++ .separator :: right) := by
  have hbefore : ∀ segment : Segment, segment.Apart .separator := by
    simp [Segment.Apart, Segment.isRun]
  have hafter : ∀ segment, Segment.separator.Apart segment := by
    simp [Segment.Apart, Segment.isRun]
  constructor
  · intro segment hmem
    rcases List.mem_append.mp hmem with hfirst | hrest
    · exact hleft.1 segment hfirst
    · rcases List.mem_cons.mp hrest with rfl | hlast
      · exact .separator
      · exact hright.1 segment hlast
  · rw [List.isChain_append, List.isChain_cons]
    refine ⟨hleft.2, ⟨fun segment _ => hafter segment, hright.2⟩, ?_⟩
    intro segment _ other hother
    obtain rfl := Option.some.inj hother
    exact hbefore segment

theorem parse_append_separator {leftRaw rightRaw : String} {left right : Pattern}
    (hleft : parse leftRaw = .ok left) (hright : parse rightRaw = .ok right) :
    parse (leftRaw ++ "/" ++ rightRaw) = .ok (left ++ .separator :: right) := by
  have hnormal := (normal_of_parse_eq_ok hleft).append_separator (normal_of_parse_eq_ok hright)
  have hsource : Pattern.source (left ++ .separator :: right) = leftRaw ++ "/" ++ rightRaw := by
    rw [source_append, Pattern.source, Segment.source, source_of_parse_eq_ok hleft,
      source_of_parse_eq_ok hright, String.append_assoc]
  rw [← hsource]
  exact parse_source_eq_ok hnormal

end Pattern

namespace Template

/-- The patterns of two templates side by side make the pattern of the third, and all three have the
same defaults. -/
structure SideBySide (outer inner whole : Template) : Prop where
  pattern : whole.pattern = outer.pattern ++ .separator :: inner.pattern
  outerDefaults : outer.defaults = whole.defaults
  innerDefaults : inner.defaults = whole.defaults

theorem exists_compile_sideBySide {outerRaw innerRaw : String} {outerPattern innerPattern : Pattern}
    (houter : Pattern.parse outerRaw = .ok outerPattern)
    (hinner : Pattern.parse innerRaw = .ok innerPattern) (defaults : Bindings) (slash : Bool) :
    ∃ outer inner whole : Template,
      compile outerRaw defaults ⟨.ignore, slash⟩ = .ok outer ∧
      compile innerRaw defaults ⟨.ignore, slash⟩ = .ok inner ∧
      compile (outerRaw ++ "/" ++ innerRaw) defaults ⟨.ignore, slash⟩ = .ok whole ∧
      SideBySide outer inner whole ∧ whole.trailingSlash = inner.trailingSlash := by
  have hwhole := Pattern.parse_append_separator houter hinner
  exact ⟨_, _, _, compile_ignore_of_parse_eq_ok houter defaults slash, compile_ignore_of_parse_eq_ok hinner defaults slash,
    compile_ignore_of_parse_eq_ok hwhole defaults slash, ⟨rfl, rfl, rfl⟩, rfl⟩

variable {outer inner whole : Template}

theorem SideBySide.text (h : SideBySide outer inner whole) (bindings : Bindings) :
    whole.text bindings = outer.text bindings ++ "/" ++ inner.text bindings := by
  have hscope : outer.scope bindings = whole.scope bindings ∧
      inner.scope bindings = whole.scope bindings := by
    simp [scope, h.outerDefaults, h.innerDefaults]
  simp only [Template.text, hscope, h.pattern, List.filterMap_append, String.join_append]
  rw [List.filterMap_cons_some (by rfl : Segment.separator.render _ = some "/"),
    String.join_cons, String.append_assoc]

theorem SideBySide.unresolved (h : SideBySide outer inner whole) (bindings : Bindings) :
    whole.unresolved bindings =
      (outer.unresolved bindings ++ inner.unresolved bindings).eraseDups := by
  rw [Template.unresolved, Template.unresolved, Template.unresolved,
    Names.eraseDups_eraseDups_append_eraseDups, h.pattern, h.outerDefaults, h.innerDefaults,
    ← List.filter_append]
  congr 2
  simp [Pattern.directNames]

end Template

namespace Mount

open Template (SideBySide)

variable {outer inner whole : Template}

theorem unresolved_of_sideBySide (h : SideBySide outer inner whole) (bindings : Bindings) :
    (root whole).unresolved bindings =
      ((root inner).attach (root outer)).unresolved bindings := by
  rw [unresolved_of_parent?_eq_none rfl]
  simp [unresolved, attach, Mount.template, h.unresolved]

/-- Mounted and written side by side, two patterns have paths with the same components, and the same
path if the first of them has any text. -/
theorem path_of_sideBySide (h : SideBySide outer inner whole)
    (hslash : whole.trailingSlash = inner.trailingSlash) {bindings : Bindings}
    {onePath twoPath : String} (hwhole : (root whole).Built)
    (hchain : ((root inner).attach (root outer)).Built)
    (hone : (root whole).render bindings = .ok onePath)
    (htwo : ((root inner).attach (root outer)).render bindings = .ok twoPath) :
    Path.components onePath = Path.components twoPath ∧
      (outer.text bindings ≠ "" → onePath = twoPath) := by
  have honePath : onePath = whole.pathOf (whole.text bindings) := by
    have hpath := (hwhole.render_eq_ok_iff.mp hone).2
    simpa [fragments, Mount.template, Path.join] using hpath
  have htwoPath : twoPath =
      inner.pathOf (Path.join (outer.text bindings) (inner.text bindings)) := by
    have hpath := (hchain.render_eq_ok_iff.mp htwo).2
    simpa [fragments, Mount.template, attach, Path.join] using hpath
  have hcomponents : Path.components (whole.text bindings) =
      Path.components (Path.join (outer.text bindings) (inner.text bindings)) := by
    rw [h.text, Path.components_append_slash, Path.components_join]
  constructor
  · rw [honePath, htwoPath, Template.components_pathOf, Template.components_pathOf, hcomponents]
  · intro htext
    have hroot : Path.root (whole.text bindings) =
        Path.root (Path.join (outer.text bindings) (inner.text bindings)) := by
      rw [h.text, String.append_assoc, Path.root_append htext, Path.root_join, if_neg htext]
    rw [honePath, htwoPath, Template.pathOf_congr_trailingSlash hslash]
    exact Template.pathOf_congr hcomponents (.inl hroot)

/-- Two texts that compile also do with a separator between them.  The mount that this makes and the
second mounted under the first fail under the same bindings and then lack the same names in the same
order; their paths have the same components, and are the same if the first template has any text. -/
theorem render_append_eq_render_attach {outerRaw innerRaw : String}
    (houter : ∃ pattern, Pattern.parse outerRaw = .ok pattern)
    (hinner : ∃ pattern, Pattern.parse innerRaw = .ok pattern) (defaults : Bindings)
    (slash : Bool) :
    ∃ outer inner whole : Template,
      Template.compile outerRaw defaults ⟨.ignore, slash⟩ = .ok outer ∧
      Template.compile innerRaw defaults ⟨.ignore, slash⟩ = .ok inner ∧
      Template.compile (outerRaw ++ "/" ++ innerRaw) defaults ⟨.ignore, slash⟩ = .ok whole ∧
      whole.pattern = outer.pattern ++ .separator :: inner.pattern ∧
      ∀ bindings : Bindings,
        let one := (root whole).render bindings
        let two := ((root inner).attach (root outer)).render bindings
        (∀ missing, one = .error missing ↔ two = .error missing) ∧
        ∀ onePath twoPath, one = .ok onePath → two = .ok twoPath →
          Path.components onePath = Path.components twoPath ∧
          (outer.fragment bindings ≠ .ok "" → onePath = twoPath) := by
  rcases houter with ⟨outerPattern, houterParse⟩
  rcases hinner with ⟨innerPattern, hinnerParse⟩
  rcases Template.exists_compile_sideBySide houterParse hinnerParse defaults slash with
    ⟨outer, inner, whole, houter, hinner, hwhole, hside, hslash⟩
  have hwholeBuilt : (root whole).Built := .compiled hwhole
  have hchainBuilt : ((root inner).attach (root outer)).Built :=
    .attached (.compiled hinner) (.compiled houter)
  refine ⟨outer, inner, whole, houter, hinner, hwhole, hside.pattern, ?_⟩
  intro bindings one two
  constructor
  · intro missing
    rw [hwholeBuilt.render_eq_error_iff_unresolved, hchainBuilt.render_eq_error_iff_unresolved,
      unresolved_of_sideBySide hside]
  · intro onePath twoPath hone htwo
    have hpaths := path_of_sideBySide hside hslash hwholeBuilt hchainBuilt hone htwo
    have houterReady : outer.Ready bindings :=
      (hchainBuilt.render_eq_ok_iff.mp htwo).1 outer (by simp [attach])
    have hfragment := (Template.compiled_of_compile_eq_ok houter).fragment_eq_ok houterReady
    refine ⟨hpaths.1, ?_⟩
    intro hne
    apply hpaths.2
    intro hempty
    rw [hfragment, hempty] at hne
    exact hne rfl

/-- The first pattern ends, and the second starts, with a group that is left out, and both have the
variable `lang`, which is reported once. -/
theorem render_append_eq_render_attach_of_shared :
    ∃ outer inner whole : Template, ∃ bindings : Bindings,
      Template.compile "/:lang(/:site)" {} ⟨.ignore, true⟩ = .ok outer ∧
      Template.compile "(:kind/):page/:lang" {} ⟨.ignore, true⟩ = .ok inner ∧
      Template.compile "/:lang(/:site)/(:kind/):page/:lang" {} ⟨.ignore, true⟩ = .ok whole ∧
      ((root inner).attach (root outer)).render bindings = .ok "/de/home/de/" ∧
      (root whole).render bindings = .ok "/de/home/de/" ∧
      ((root inner).attach (root outer)).render {} = .error ⟨["lang", "page"]⟩ ∧
      (root whole).render {} = .error ⟨["lang", "page"]⟩ := by
  let bindings := Bindings.ofPairs [("lang", "de"), ("page", "home")]
  let outer : Template :=
    ⟨"/:lang(/:site)", {}, [.separator, .var "lang", .group [.separator, .var "site"]],
      ⟨["lang"], ["site"]⟩, true⟩
  let inner : Template :=
    ⟨"(:kind/):page/:lang", {},
      [.group [.var "kind", .separator], .var "page", .separator, .var "lang"],
      ⟨["page", "lang"], ["kind"]⟩, true⟩
  have htwo : ((root inner).attach (root outer)).render bindings = .ok "/de/home/de/" := by
    decide +kernel +revert
  have hfailed : ((root inner).attach (root outer)).render {} = .error ⟨["lang", "page"]⟩ := by
    decide +kernel +revert
  have htext : outer.fragment bindings ≠ .ok "" := by decide +kernel +revert
  have houter : Template.compile "/:lang(/:site)" {} ⟨.ignore, true⟩ = .ok outer := by cbv
  have hinner : Template.compile "(:kind/):page/:lang" {} ⟨.ignore, true⟩ = .ok inner := by cbv
  have houterParse := (Template.compiled_of_compile_eq_ok houter).parsed
  have hinnerParse := (Template.compiled_of_compile_eq_ok hinner).parsed
  rcases render_append_eq_render_attach ⟨_, houterParse⟩ ⟨_, hinnerParse⟩ {} true with
    ⟨outer', inner', whole, houter', hinner', hwhole, -, hrender⟩
  obtain rfl : outer = outer' := Except.ok.inj (houter.symm.trans houter')
  obtain rfl : inner = inner' := Except.ok.inj (hinner.symm.trans hinner')
  have hone : (root whole).render bindings = .ok "/de/home/de/" := by
    cases hone : (root whole).render bindings with
    | error missing =>
        have herror := ((hrender bindings).1 missing).mp hone
        rw [htwo] at herror
        cases herror
    | ok path => rw [((hrender bindings).2 path _ hone htwo).2 htext]
  exact ⟨outer, inner, whole, bindings, houter, hinner, hwhole, htwo, hone, hfailed,
    ((hrender {}).1 _).mpr hfailed⟩

end Mount
end PathTemplate
