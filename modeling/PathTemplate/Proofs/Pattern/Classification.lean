import PathTemplate.Proofs.Pattern.Leaves

/-!
# Variables by the groups around them

The walk that collects the variables of a pattern puts each name into one of two lists where it is
first met, and withdraws at the end what turned out to be required.  The two lists can be read off
the leaves of the tree, which carry the groups around them: the required names are those of the
variables in no group, and the optional names are those of the variables in some group, without the
required ones.
-/

namespace PathTemplate

namespace Leaf

def Content.name? : Content → Option String
  | separator => none
  | text _ => none
  | var name => some name

/-- The names of the variables among some leaves, in the order of the leaves. -/
def names (leaves : List Leaf) : List String :=
  leaves.filterMap fun leaf => leaf.content.name?

/-- The leaves that are in no group. -/
def outside (leaves : List Leaf) : List Leaf :=
  leaves.filter fun leaf => leaf.groups.isEmpty

/-- The leaves that are in one group or more. -/
def inside (leaves : List Leaf) : List Leaf :=
  leaves.filter fun leaf => !leaf.groups.isEmpty

theorem names_append (before after : List Leaf) :
    names (before ++ after) = names before ++ names after :=
  List.filterMap_append

theorem outside_append (before after : List Leaf) :
    outside (before ++ after) = outside before ++ outside after :=
  List.filter_append _ _

theorem inside_append (before after : List Leaf) :
    inside (before ++ after) = inside before ++ inside after :=
  List.filter_append _ _

end Leaf

mutual

theorem Segment.names_leaves (around : List Pattern) :
    ∀ segment : Segment, Leaf.names (segment.leaves around) = segment.names
  | .separator => rfl
  | .text _ => rfl
  | .var _ => rfl
  | .group children => Pattern.names_leaves (children :: around) children

theorem Pattern.names_leaves (around : List Pattern) :
    ∀ pattern : Pattern, Leaf.names (pattern.leaves around) = pattern.names
  | [] => rfl
  | segment :: rest => by
      rw [Pattern.leaves, Leaf.names_append, Segment.names_leaves around segment,
        Pattern.names_leaves around rest, Pattern.names]

end

/-- What a group holds has that group around it. -/
theorem Pattern.isEmpty_groups {children : Pattern} {leaf : Leaf}
    (h : leaf ∈ children.leaves [children]) : leaf.groups.isEmpty = false := by
  have hmem : children ∈ leaf.groups := children.subset_groups h List.mem_cons_self
  rw [List.isEmpty_eq_false_iff]
  exact List.ne_nil_of_mem hmem

theorem Segment.names_outside_leaves (segment : Segment) :
    Leaf.names (Leaf.outside (segment.leaves [])) = Pattern.directNames [segment] := by
  cases segment with
  | separator => rfl
  | text content => rfl
  | var name => rfl
  | group children =>
      have hnone : Leaf.outside (Pattern.leaves [children] children) = [] := by
        apply List.filter_eq_nil_iff.mpr
        intro leaf hleaf
        rw [Pattern.isEmpty_groups hleaf]
        exact Bool.false_ne_true
      rw [Segment.leaves, hnone]
      rfl

theorem Segment.names_inside_leaves (segment : Segment) :
    Leaf.names (Leaf.inside (segment.leaves [])) = segment.groupedNames := by
  cases segment with
  | separator => rfl
  | text content => rfl
  | var name => rfl
  | group children =>
      have hall : Leaf.inside (Pattern.leaves [children] children) =
          Pattern.leaves [children] children := by
        apply List.filter_eq_self.mpr
        intro leaf hleaf
        rw [Pattern.isEmpty_groups hleaf]
        rfl
      rw [Segment.leaves, hall, Pattern.names_leaves]
      rfl

namespace Pattern

theorem names_outside_leaves (pattern : Pattern) :
    Leaf.names (Leaf.outside (pattern.leaves [])) = pattern.directNames := by
  induction pattern with
  | nil => rfl
  | cons segment rest ih =>
      rw [Pattern.leaves, Leaf.outside_append, Leaf.names_append, segment.names_outside_leaves, ih,
        directNames_cons segment rest]

theorem names_inside_leaves (pattern : Pattern) :
    Leaf.names (Leaf.inside (pattern.leaves [])) = pattern.groupedNames := by
  induction pattern with
  | nil => rfl
  | cons segment rest ih =>
      rw [Pattern.leaves, Leaf.inside_append, Leaf.names_append, segment.names_inside_leaves, ih,
        groupedNames_cons]

end Pattern

namespace Variables

theorem nodup_required_ofPattern (pattern : Pattern) : (ofPattern pattern).required.Nodup := by
  rw [required_ofPattern]
  exact Names.nodup_eraseDups _

theorem nodup_optional_ofPattern (pattern : Pattern) : (ofPattern pattern).optional.Nodup := by
  rw [optional_ofPattern]
  exact (Names.nodup_eraseDups _).filter _

theorem mem_optional_ofPattern {pattern : Pattern} {name : String} :
    name ∈ (ofPattern pattern).optional ↔
      name ∈ pattern.groupedNames ∧ name ∉ (ofPattern pattern).required := by
  simp [optional_ofPattern, required_ofPattern]

/-- The declared variables of any tree: required are the names of the variables in no group, and
optional the names of those in some group, except the required ones; each name is listed once, at
the place where it comes first from left to right.  No name is in both lists, and together they hold
the names of all variables of the tree and nothing else. -/
theorem ofPattern_eq_of_leaves (pattern : Pattern) :
    let declared := ofPattern pattern
    let leaves := pattern.leaves []
    declared.required = (Leaf.names (Leaf.outside leaves)).eraseDups ∧
    declared.optional = (Leaf.names (Leaf.inside leaves)).eraseDups.filter
      (fun name => name ∉ declared.required) ∧
    declared.required.Nodup ∧ declared.optional.Nodup ∧
    declared.required.Disjoint declared.optional ∧
    ∀ name, name ∈ declared.required ∨ name ∈ declared.optional ↔ name ∈ Leaf.names leaves := by
  intro declared leaves
  refine ⟨?_, ?_, nodup_required_ofPattern pattern, nodup_optional_ofPattern pattern, ?_, ?_⟩
  · rw [pattern.names_outside_leaves]
    exact required_ofPattern pattern
  · simp only [declared, leaves, pattern.names_inside_leaves, optional_ofPattern,
      required_ofPattern, List.mem_eraseDups]
  · intro name hrequired hoptional
    exact (mem_optional_ofPattern.mp hoptional).2 hrequired
  · intro name
    rw [pattern.names_leaves, ← contains_ofPattern]
    simp [contains, declared]

/-- A name is optional only until it is met outside every group. -/
example : ofPattern [.group [.var "b", .group [.var "a"]], .separator, .var "b"] =
    ⟨["b"], ["a"]⟩ := by cbv

end Variables
end PathTemplate
