import PathTemplate.Names
import PathTemplate.Pattern.Segment

/-!
# Variables of a pattern

A variable is required if it stands outside every group somewhere in the pattern, and optional if it
stands in groups only.  One walk over the tree collects both lists, each name where it is first met.
-/

namespace PathTemplate

structure Variables where
  required : List String
  optional : List String
  deriving Repr, DecidableEq

namespace Variables

def empty : Variables := ⟨[], []⟩

mutual

/-- Adds the variables of a segment; `grouped` says whether the segment stands in a group. -/
def addSegment (grouped : Bool) (found : Variables) : Segment → Variables
  | .var name =>
    if grouped then
      { found with optional := Names.add found.optional name }
    else
      { found with required := Names.add found.required name }
  | .group children => addSegments true found children
  | .separator | .text _ => found

def addSegments (grouped : Bool) (found : Variables) : Pattern → Variables
  | [] => found
  | segment :: rest => addSegments grouped (addSegment grouped found segment) rest

end

/-- A name that is required as well as grouped counts as required only. -/
def ofPattern (pattern : Pattern) : Variables :=
  let found := addSegments false empty pattern
  { found with optional := found.optional.filter fun name => name ∉ found.required }

def contains (declared : Variables) (name : String) : Bool :=
  name ∈ declared.required || name ∈ declared.optional

end Variables
end PathTemplate
