import PathTemplate.Proofs.Names
import PathTemplate.Pattern.Variables

/-!
# Variables that a pattern declares

The walk over the tree threads one record through all segments, those in groups included.  A group
leaves the required names alone, so these are the names that stand directly in the pattern; every
other name of the tree is optional.
-/

namespace PathTemplate

mutual

/-- The names of all variables in the order of the text, those in groups included. -/
def Segment.names : Segment → List String
  | .var name => [name]
  | .group children => Pattern.names children
  | .separator => []
  | .text _ => []

def Pattern.names : Pattern → List String
  | [] => []
  | segment :: rest => segment.names ++ Pattern.names rest

end

def Segment.groupedNames : Segment → List String
  | .group children => Pattern.names children
  | .separator => []
  | .text _ => []
  | .var _ => []

/-- The names of the variables that stand in some group. -/
def Pattern.groupedNames (pattern : Pattern) : List String :=
  pattern.flatMap Segment.groupedNames

theorem Pattern.groupedNames_cons (segment : Segment) (rest : Pattern) :
    Pattern.groupedNames (segment :: rest) =
      segment.groupedNames ++ Pattern.groupedNames rest :=
  List.flatMap_cons

@[simp] theorem Pattern.directNames_nil : Pattern.directNames [] = [] := rfl

theorem Pattern.directNames_cons (segment : Segment) (rest : Pattern) :
    Pattern.directNames (segment :: rest) =
      Pattern.directNames [segment] ++ Pattern.directNames rest :=
  List.filterMap_append (l := [segment])

theorem Pattern.mem_directNames {pattern : Pattern} {name : String} :
    name ∈ Pattern.directNames pattern ↔ Segment.var name ∈ pattern := by
  unfold Pattern.directNames
  rw [List.mem_filterMap]
  constructor
  · intro hexists
    rcases hexists with ⟨segment, hmem, hname⟩
    cases segment with
    | var other =>
        have hother : other = name := by simpa using hname
        rwa [← hother]
    | separator => simp at hname
    | text content => simp at hname
    | group children => simp at hname
  · intro hmem
    exact ⟨.var name, hmem, rfl⟩

namespace Variables

mutual

theorem required_addSegment_grouped (found : Variables) :
    ∀ segment, (addSegment true found segment).required = found.required
  | .separator => rfl
  | .text _ => rfl
  | .var _ => rfl
  | .group children => required_addSegments_grouped found children

theorem required_addSegments_grouped (found : Variables) :
    ∀ pattern, (addSegments true found pattern).required = found.required
  | [] => rfl
  | segment :: rest => by
      rw [addSegments, required_addSegments_grouped, required_addSegment_grouped]

end

theorem required_addSegments (found : Variables) (pattern : Pattern) :
    (addSegments false found pattern).required =
      Names.addAll found.required pattern.directNames := by
  induction pattern generalizing found with
  | nil => simp [addSegments]
  | cons segment rest ih =>
      rw [addSegments, ih, Pattern.directNames_cons]
      cases segment with
      | separator => rfl
      | text content => rfl
      | var name => rfl
      | group children =>
          rw [addSegment, required_addSegments_grouped]
          rfl

theorem required_ofPattern (pattern : Pattern) :
    (ofPattern pattern).required = pattern.directNames.eraseDups := by
  rw [← Names.addAll_nil_left]
  exact required_addSegments empty pattern

mutual

theorem optional_addSegment_grouped (found : Variables) :
    ∀ segment, (addSegment true found segment).optional =
      Names.addAll found.optional segment.names
  | .separator => rfl
  | .text _ => rfl
  | .var _ => rfl
  | .group children => optional_addSegments_grouped found children

theorem optional_addSegments_grouped (found : Variables) :
    ∀ pattern, (addSegments true found pattern).optional =
      Names.addAll found.optional pattern.names
  | [] => rfl
  | segment :: rest => by
      rw [addSegments, optional_addSegments_grouped, optional_addSegment_grouped, Pattern.names,
        Names.addAll, Names.addAll, Names.addAll, List.foldl_append]

end

theorem optional_addSegments (found : Variables) (pattern : Pattern) :
    (addSegments false found pattern).optional =
      Names.addAll found.optional pattern.groupedNames := by
  induction pattern generalizing found with
  | nil => rfl
  | cons segment rest ih =>
      rw [addSegments, ih, Pattern.groupedNames_cons, Names.addAll, Names.addAll,
        List.foldl_append]
      cases segment with
      | separator => rfl
      | text content => rfl
      | var name => rfl
      | group children =>
          rw [addSegment, optional_addSegments_grouped]
          rfl

theorem optional_ofPattern (pattern : Pattern) :
    (ofPattern pattern).optional =
      pattern.groupedNames.eraseDups.filter fun name => name ∉ pattern.directNames := by
  have hoptional : (addSegments false empty pattern).optional =
      pattern.groupedNames.eraseDups := by
    rw [← Names.addAll_nil_left]
    exact optional_addSegments empty pattern
  have hrequired : (addSegments false empty pattern).required =
      pattern.directNames.eraseDups := required_ofPattern pattern
  simp only [ofPattern, hoptional, hrequired, List.mem_eraseDups]

theorem mem_names_iff {pattern : Pattern} {name : String} :
    name ∈ pattern.names ↔ name ∈ pattern.directNames ∨ name ∈ pattern.groupedNames := by
  induction pattern with
  | nil => simp [Pattern.names, Pattern.groupedNames]
  | cons segment rest ih =>
      have hnames : name ∈ segment.names ↔
          name ∈ Pattern.directNames [segment] ∨ name ∈ segment.groupedNames := by
        cases segment <;> simp [Segment.names, Segment.groupedNames, Pattern.directNames]
      rw [Pattern.names, Pattern.directNames_cons, Pattern.groupedNames_cons]
      simp only [List.mem_append, ih, hnames]
      tauto

/-- The declared names are all names of the tree. -/
theorem contains_ofPattern {pattern : Pattern} {name : String} :
    (ofPattern pattern).contains name = true ↔ name ∈ pattern.names := by
  have hcontains : (ofPattern pattern).contains name = true ↔
      name ∈ pattern.directNames ∨ name ∈ pattern.groupedNames ∧ name ∉ pattern.directNames := by
    simp [contains, required_ofPattern, optional_ofPattern]
  rw [hcontains, mem_names_iff]
  tauto

end Variables
end PathTemplate
