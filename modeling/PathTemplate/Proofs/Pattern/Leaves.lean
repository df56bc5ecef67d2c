import PathTemplate.Proofs.Pattern.Expansion

/-!
# Leaves of a tree

A tree is written out leaf by leaf, from left to right.  A group is live if each variable that
stands directly in it has a value, and a leaf is written exactly if all groups around it are live: a
group that is not leaves out everything below it, whatever has a value there, and takes nothing away
from what surrounds it.  Every leaf that is written has a text, since a variable without a value
would have made the group around it dead.
-/

namespace PathTemplate

namespace Leaf

inductive Content where
  | separator
  | text (content : String)
  | var (name : String)
  deriving Repr, DecidableEq

def Content.text? (scope : Scope) : Content → Option String
  | separator => some "/"
  | text content => some content
  | var name => scope.get? name

end Leaf

structure Leaf where
  /-- The groups on the way to the leaf, each with all that it holds, the innermost first. -/
  groups : List Pattern
  content : Leaf.Content
  deriving Repr, DecidableEq

mutual

/-- The leaves of a segment that stands in some groups, from left to right. -/
def Segment.leaves (around : List Pattern) : Segment → List Leaf
  | .separator => [⟨around, .separator⟩]
  | .text content => [⟨around, .text content⟩]
  | .var name => [⟨around, .var name⟩]
  | .group children => Pattern.leaves (children :: around) children

def Pattern.leaves (around : List Pattern) : Pattern → List Leaf
  | [] => []
  | segment :: rest => segment.leaves around ++ Pattern.leaves around rest

end

/-- Each variable that stands directly in the group has a value. -/
def Pattern.Live (scope : Scope) (children : Pattern) : Prop :=
  ∀ name, Segment.var name ∈ children → ∃ value, scope.get? name = some value

instance (scope : Scope) (children : Pattern) : Decidable (children.Live scope) :=
  decidable_of_iff (∀ name ∈ children.directNames, scope.contains name = true) (by
    simp only [Pattern.Live, Pattern.mem_directNames, Scope.contains_eq_true_iff])

namespace Leaf

def Written (scope : Scope) (leaf : Leaf) : Prop :=
  ∀ group ∈ leaf.groups, Pattern.Live scope group

instance (scope : Scope) (leaf : Leaf) : Decidable (leaf.Written scope) :=
  inferInstanceAs (Decidable (∀ _ ∈ _, _))

def written (scope : Scope) (leaves : List Leaf) : List Leaf :=
  leaves.filter fun leaf => leaf.Written scope

variable {scope : Scope} {around : List Pattern}

theorem written_append (before after : List Leaf) :
    written scope (before ++ after) = written scope before ++ written scope after :=
  List.filter_append _ _

theorem written_singleton (h : ∀ group ∈ around, Pattern.Live scope group) (content : Content) :
    written scope [⟨around, content⟩] = [⟨around, content⟩] := by
  apply List.filter_eq_self.mpr
  intro leaf hmem
  rw [List.mem_singleton.mp hmem]
  exact decide_eq_true h

end Leaf

/-! ## Groups -/

namespace Pattern

variable {scope : Scope} {children : Pattern}

theorem not_live_iff :
    ¬children.Live scope ↔ ∃ name, Segment.var name ∈ children ∧ scope.get? name = none := by
  simp [Live, Option.eq_none_iff_forall_ne_some]

theorem render_group_of_live (h : children.Live scope) :
    Segment.render scope (.group children) = some (children.render scope) :=
  Expansion.render_group_eq_some (mt not_live_iff.mpr (not_not.mpr h))

theorem render_group_of_not_live (h : ¬children.Live scope) :
    Segment.render scope (.group children) = none :=
  Expansion.render_group_eq_none (not_live_iff.mp h)

end Pattern

/-! ## Leaves under groups -/

mutual

/-- The groups around a segment are among those around its leaves. -/
theorem Segment.subset_groups {around : List Pattern} {leaf : Leaf} :
    ∀ segment : Segment, leaf ∈ segment.leaves around → around ⊆ leaf.groups
  | .separator, hmem => by
      rw [List.mem_singleton.mp hmem]
      exact List.Subset.refl around
  | .text content, hmem => by
      rw [List.mem_singleton.mp hmem]
      exact List.Subset.refl around
  | .var name, hmem => by
      rw [List.mem_singleton.mp hmem]
      exact List.Subset.refl around
  | .group children, hmem =>
      List.subset_of_cons_subset (Pattern.subset_groups children hmem)

theorem Pattern.subset_groups {around : List Pattern} {leaf : Leaf} :
    ∀ pattern : Pattern, leaf ∈ pattern.leaves around → around ⊆ leaf.groups
  | [], hmem => by cases hmem
  | segment :: rest, hmem => by
      rcases List.mem_append.mp hmem with hfirst | hlater
      · exact segment.subset_groups hfirst
      · exact Pattern.subset_groups rest hlater

end

mutual

/-- A variable among the leaves is the segment itself, or stands directly in a group around it. -/
theorem Segment.eq_or_mem_of_var {around groups : List Pattern} {name : String} :
    ∀ segment : Segment, ⟨groups, .var name⟩ ∈ segment.leaves around →
      segment = .var name ∨ ∃ children ∈ groups, Segment.var name ∈ children
  | .separator, hmem => by cases List.mem_singleton.mp hmem
  | .text content, hmem => by cases List.mem_singleton.mp hmem
  | .var other, hmem => by
      cases List.mem_singleton.mp hmem
      exact .inl rfl
  | .group children, hmem => by
      have haround := Pattern.subset_groups children hmem
      have hinside : children ∈ groups := haround List.mem_cons_self
      rcases Pattern.mem_or_mem_of_var children hmem with hdirect | hdeeper
      · exact .inr ⟨children, hinside, hdirect⟩
      · exact .inr hdeeper

theorem Pattern.mem_or_mem_of_var {around groups : List Pattern} {name : String} :
    ∀ pattern : Pattern, ⟨groups, .var name⟩ ∈ pattern.leaves around →
      Segment.var name ∈ pattern ∨ ∃ children ∈ groups, Segment.var name ∈ children
  | [], hmem => by cases hmem
  | segment :: rest, hmem => by
      rcases List.mem_append.mp hmem with hfirst | hlater
      · rcases segment.eq_or_mem_of_var hfirst with rfl | hdeeper
        · exact .inl List.mem_cons_self
        · exact .inr hdeeper
      · rcases Pattern.mem_or_mem_of_var rest hlater with hdirect | hdeeper
        · exact .inl (List.mem_cons_of_mem segment hdirect)
        · exact .inr hdeeper

end

theorem Pattern.mem_leaves_of_var_mem {pattern : Pattern} {name : String}
    (h : Segment.var name ∈ pattern) (around : List Pattern) :
    ⟨around, .var name⟩ ∈ pattern.leaves around := by
  induction pattern with
  | nil => cases h
  | cons segment rest ih =>
      rw [Pattern.leaves, List.mem_append]
      rcases List.mem_cons.mp h with rfl | hrest
      · exact .inl List.mem_cons_self
      · exact .inr (ih hrest)

/-! ## What is written -/

section Written

variable {scope : Scope} {around : List Pattern}

theorem written_leaves_of_not_live {children : Pattern} (hdead : ¬children.Live scope)
    (hmem : children ∈ around) (pattern : Pattern) :
    Leaf.written scope (pattern.leaves around) = [] := by
  apply List.filter_eq_nil_iff.mpr
  intro leaf hleaf hwritten
  have hlive := of_decide_eq_true hwritten children (pattern.subset_groups hleaf hmem)
  exact hdead hlive

mutual

/-- Under live groups, a segment is written as its written leaves one after the other. -/
theorem Segment.render_eq_join_written {around : List Pattern}
    (h : ∀ group ∈ around, Pattern.Live scope group) :
    ∀ segment : Segment, (segment.render scope).getD "" =
      String.join ((Leaf.written scope (segment.leaves around)).map fun leaf =>
        (leaf.content.text? scope).getD "")
  | .separator => by
      rw [Segment.leaves, Leaf.written_singleton h]
      rfl
  | .text content => by
      rw [Segment.leaves, Leaf.written_singleton h]
      simp [Segment.render, Leaf.Content.text?]
  | .var name => by
      rw [Segment.leaves, Leaf.written_singleton h]
      simp [Segment.render, Leaf.Content.text?]
  | .group children => by
      rw [Segment.leaves]
      by_cases hlive : Pattern.Live scope children
      · have haround : ∀ group ∈ children :: around, Pattern.Live scope group := by
          simpa [hlive] using h
        rw [Pattern.render_group_of_live hlive, Option.getD_some,
          Pattern.render_eq_join_written haround children]
      · rw [Pattern.render_group_of_not_live hlive,
          written_leaves_of_not_live hlive List.mem_cons_self]
        rfl

theorem Pattern.render_eq_join_written {around : List Pattern}
    (h : ∀ group ∈ around, Pattern.Live scope group) :
    ∀ pattern : Pattern, pattern.render scope =
      String.join ((Leaf.written scope (pattern.leaves around)).map fun leaf =>
        (leaf.content.text? scope).getD "")
  | [] => rfl
  | segment :: rest => by
      rw [Pattern.render, Segment.render_eq_join_written h segment,
        Pattern.render_eq_join_written h rest, Pattern.leaves, Leaf.written_append, List.map_append,
        String.join_append]

end

/-- A leaf that is written has a text, unless it is a variable without a value and all there is. -/
theorem Segment.exists_text_of_written {segment : Segment} (h : segment.render scope ≠ none)
    {leaf : Leaf} (hmem : leaf ∈ Leaf.written scope (segment.leaves [])) :
    ∃ text, leaf.content.text? scope = some text := by
  obtain ⟨hleaf, hwritten⟩ := List.mem_filter.mp hmem
  rcases leaf with ⟨groups, content⟩
  cases content with
  | separator => exact ⟨"/", rfl⟩
  | text content => exact ⟨content, rfl⟩
  | var name =>
      rcases segment.eq_or_mem_of_var hleaf with rfl | ⟨children, hinside, hdirect⟩
      · exact Option.ne_none_iff_exists'.mp h
      · exact of_decide_eq_true hwritten children hinside name hdirect

theorem Segment.render_eq_none_iff {segment : Segment} :
    segment.render scope = none ↔
      (∃ name, segment = .var name ∧ scope.get? name = none) ∨
      ∃ children, segment = .group children ∧ ¬Pattern.Live scope children := by
  cases segment with
  | separator => simp [Segment.render]
  | text content => simp [Segment.render]
  | var name => simp [Segment.render]
  | group children =>
      by_cases hlive : Pattern.Live scope children
      · simp [Pattern.render_group_of_live hlive, hlive]
      · simp [Pattern.render_group_of_not_live hlive, hlive]

end Written

/-- A segment has no text exactly if it is a variable without a value or a group that is not live.
Otherwise its text is made of the texts, from left to right, of the leaves of which all groups
around them are live, and each of these leaves has one.  So a live group writes each variable that
stands directly in it, whatever becomes of the groups inside it, and a group that is not live writes
nothing of what it holds. -/
theorem Segment.render_eq_join_of_leaves (scope : Scope) (segment : Segment) :
    let survivors := Leaf.written scope (segment.leaves [])
    (segment.render scope = none ↔
      (∃ name, segment = .var name ∧ scope.get? name = none) ∨
      ∃ children, segment = .group children ∧ ¬Pattern.Live scope children) ∧
    (segment.render scope ≠ none → ∃ texts,
      survivors.map (fun leaf => leaf.content.text? scope) = texts.map some ∧
      segment.render scope = some (String.join texts)) ∧
    ∀ children, segment = .group children →
      (Pattern.Live scope children → ∀ name, Segment.var name ∈ children →
        ∃ value, scope.get? name = some value ∧ ⟨[children], .var name⟩ ∈ survivors) ∧
      (¬Pattern.Live scope children → survivors = []) := by
  intro survivors
  refine ⟨Segment.render_eq_none_iff, ?_, ?_⟩
  · intro hrender
    refine ⟨survivors.map fun leaf => (leaf.content.text? scope).getD "", ?_, ?_⟩
    · rw [List.map_map]
      apply List.map_congr_left
      intro leaf hmem
      obtain ⟨text, htext⟩ := segment.exists_text_of_written hrender hmem
      simp [htext]
    · obtain ⟨text, htext⟩ := Option.ne_none_iff_exists'.mp hrender
      have hnone : ∀ group ∈ ([] : List Pattern), Pattern.Live scope group := by simp
      have hjoin := segment.render_eq_join_written hnone
      rw [htext, Option.getD_some] at hjoin
      rw [htext, hjoin]
  · intro children hgroup
    subst hgroup
    constructor
    · intro hlive name hname
      obtain ⟨value, hvalue⟩ := hlive name hname
      have hleaf := Pattern.mem_leaves_of_var_mem hname [children]
      have hwritten : Leaf.Written scope ⟨[children], .var name⟩ := by
        simpa [Leaf.Written] using hlive
      exact ⟨value, hvalue, List.mem_filter.mpr ⟨hleaf, decide_eq_true hwritten⟩⟩
    · intro hdead
      exact written_leaves_of_not_live hdead List.mem_cons_self children

end PathTemplate
