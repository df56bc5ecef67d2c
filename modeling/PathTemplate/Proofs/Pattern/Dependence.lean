import PathTemplate.Proofs.Bindings
import PathTemplate.Proofs.Path.Components
import PathTemplate.Proofs.Pattern.Expansion
import PathTemplate.Proofs.Pattern.Normal

/-!
# The names that a rendering reads

A pattern asks its scope for the names of its own variables and for no others, so two scopes that
agree on these render it alike.  No name is idle: where every variable has a value, each of them is
written out, and a value with more letters makes a text with more letters.
-/

namespace PathTemplate

open Expansion

theorem Pattern.directNames_subset_names (pattern : Pattern) :
    pattern.directNames ⊆ pattern.names :=
  fun _ hname => Variables.mem_names_iff.mpr (.inl hname)

section Agreement

variable {scope other : Scope}

mutual

theorem Segment.render_congr : ∀ segment : Segment,
    (∀ name ∈ segment.names, scope.get? name = other.get? name) →
    segment.render scope = segment.render other
  | .separator, _ => rfl
  | .text _, _ => rfl
  | .var name, hagree => hagree name (List.mem_singleton.mpr rfl)
  | .group children, hagree => by
      have hchildren := Pattern.render_congr children hagree
      have hshown : (Pattern.directNames children).all scope.contains =
          (Pattern.directNames children).all other.contains := by
        rw [Bool.eq_iff_iff, List.all_eq_true, List.all_eq_true]
        apply forall₂_congr
        intro name hname
        have hget := hagree name (Pattern.directNames_subset_names children hname)
        rw [Scope.contains_congr hget]
      rw [Segment.render, Segment.render, hshown, hchildren]

theorem Pattern.render_congr : ∀ pattern : Pattern,
    (∀ name ∈ pattern.names, scope.get? name = other.get? name) →
    pattern.render scope = pattern.render other
  | [], _ => rfl
  | segment :: rest, hagree => by
      have hsegment := Segment.render_congr segment fun name hname =>
        hagree name (List.mem_append_left _ hname)
      have hrest := Pattern.render_congr rest fun name hname =>
        hagree name (List.mem_append_right _ hname)
      rw [Pattern.render, Pattern.render, hsegment, hrest]

end

end Agreement

/-! ## Names and lexemes -/

theorem Pattern.filterMap_named?_lexemes_of_forall {pattern : Pattern}
    (h : ∀ segment ∈ pattern, segment.lexemes.filterMap named? = segment.names) :
    pattern.lexemes.filterMap named? = pattern.names := by
  induction pattern with
  | nil => rfl
  | cons segment rest ih =>
      have hsegment := h segment List.mem_cons_self
      have hrest := ih fun other hmem => h other (List.mem_cons_of_mem segment hmem)
      rw [Pattern.lexemes_cons, List.filterMap_append, hsegment, hrest, Pattern.names]

/-- The names in the tree are those in its lexemes. -/
theorem Segment.Spelled.filterMap_named?_lexemes {segment : Segment} (h : segment.Spelled) :
    segment.lexemes.filterMap named? = segment.names := by
  induction h with
  | separator => rfl
  | text hlexeme hkind => simp [Segment.lexemes, named?_text hkind, Segment.names]
  | var hlexeme => simp [Segment.lexemes, named?, Segment.names]
  | group hchildren ih =>
      have hinner := Pattern.filterMap_named?_lexemes_of_forall ih
      simp [Segment.lexemes, Segment.names, hinner, named?]

theorem Pattern.Spelled.filterMap_named?_lexemes {pattern : Pattern} (h : pattern.Spelled) :
    pattern.lexemes.filterMap named? = pattern.names :=
  Pattern.filterMap_named?_lexemes_of_forall fun segment hmem =>
    (h segment hmem).filterMap_named?_lexemes

/-! ## Values that show -/

/-- With a value for every name, all lexemes are written one after the other. -/
theorem Pattern.Spelled.render_eq_join_written {pattern : Pattern} (h : pattern.Spelled)
    {scope : Scope} (hbound : ∀ name ∈ pattern.names, scope.contains name = true) :
    pattern.render scope = String.join (pattern.lexemes.map (written scope)) := by
  rw [← expand_lexemes h]
  apply expand_eq_join
  intro lexeme hmem hunbound
  rcases hunbound with ⟨name, hname, hvalue⟩
  have hnames : name ∈ pattern.names := by
    rw [← h.filterMap_named?_lexemes]
    exact List.mem_filterMap.mpr ⟨lexeme, hmem, hname⟩
  have hcontains := hbound name hnames
  simp [Scope.contains, hvalue] at hcontains

namespace Expansion

variable {scope other : Scope} {lexeme : List Char}

theorem written_of_named {name : String} (h : name ∈ named? lexeme) :
    written scope lexeme = (scope.get? name).getD "" := by
  have hparens := ne_parens_of_named h
  have hname : named? lexeme = some name := h
  rw [written, if_neg (by simp [hparens]), hname]

theorem written_of_unnamed (h : named? lexeme = none) :
    written scope lexeme = written other lexeme := by
  rw [written, written, h]

theorem letters_written_le
    (h : ∀ name ∈ named? lexeme,
      Path.letters ((scope.get? name).getD "") ≤ Path.letters ((other.get? name).getD "")) :
    Path.letters (written scope lexeme) ≤ Path.letters (written other lexeme) := by
  cases hname : named? lexeme with
  | none => rw [written_of_unnamed hname]
  | some name =>
      rw [written_of_named hname, written_of_named hname]
      exact h name hname

end Expansion

/-- Where every name has a value under both scopes, and none a longer one under the first, the
second writes at least as many letters, and more if it has a longer value for some name. -/
theorem Pattern.Spelled.letters_render {pattern : Pattern} (h : pattern.Spelled)
    {scope other : Scope}
    (hscope : ∀ name ∈ pattern.names, scope.contains name = true)
    (hother : ∀ name ∈ pattern.names, other.contains name = true)
    (hle : ∀ name ∈ pattern.names,
      Path.letters ((scope.get? name).getD "") ≤ Path.letters ((other.get? name).getD "")) :
    Path.letters (pattern.render scope) ≤ Path.letters (pattern.render other) ∧
    ∀ name ∈ pattern.names,
      Path.letters ((scope.get? name).getD "") < Path.letters ((other.get? name).getD "") →
      Path.letters (pattern.render scope) < Path.letters (pattern.render other) := by
  have hlexemes : ∀ lexeme ∈ pattern.lexemes,
      Path.letters (written scope lexeme) ≤ Path.letters (written other lexeme) := by
    intro lexeme hmem
    apply letters_written_le
    intro name hname
    apply hle name
    rw [← h.filterMap_named?_lexemes]
    exact List.mem_filterMap.mpr ⟨lexeme, hmem, hname⟩
  rw [h.render_eq_join_written hscope, h.render_eq_join_written hother, Path.letters_join,
    Path.letters_join, List.map_map, List.map_map]
  constructor
  · exact List.sum_le_sum hlexemes
  · intro name hname hlt
    rw [← h.filterMap_named?_lexemes] at hname
    obtain ⟨lexeme, hmem, hnamed⟩ := List.mem_filterMap.mp hname
    have hwritten : Path.letters (written scope lexeme) < Path.letters (written other lexeme) := by
      rw [written_of_named hnamed, written_of_named hnamed]
      exact hlt
    exact List.sum_lt_sum _ _ hlexemes ⟨lexeme, hmem, hwritten⟩

end PathTemplate
