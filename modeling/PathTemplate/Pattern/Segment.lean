import PathTemplate.Bindings

/-!
# Segments: the tree of a pattern

A compiled pattern is a list of segments, and a group holds such a list again.  The tree has two
readings: `source` writes it as pattern text, and `render` fills it in from a scope.  A group is
optional text: it appears only if each variable that stands directly in it has a value.
-/

namespace PathTemplate

inductive Segment where
  | separator
  | text (content : String)
  | var (name : String)
  | group (children : List Segment)
  deriving Repr

abbrev Pattern := List Segment

mutual

def Segment.decEq : (s t : Segment) → Decidable (s = t)
  | .separator, .separator => isTrue rfl
  | .text a, .text b => decidable_of_iff (a = b) (by simp)
  | .var a, .var b => decidable_of_iff (a = b) (by simp)
  | .group cs, .group ds =>
    match Pattern.decEq cs ds with
    | isTrue h => isTrue (by rw [h])
    | isFalse h => isFalse (by simpa using h)
  | .separator, .text _ | .separator, .var _ | .separator, .group _
  | .text _, .separator | .text _, .var _ | .text _, .group _
  | .var _, .separator | .var _, .text _ | .var _, .group _
  | .group _, .separator | .group _, .text _ | .group _, .var _ => isFalse (by simp)

def Pattern.decEq : (p q : Pattern) → Decidable (p = q)
  | [], [] => isTrue rfl
  | [], _ :: _ | _ :: _, [] => isFalse (by simp)
  | s :: p, t :: q =>
    match Segment.decEq s t, Pattern.decEq p q with
    | isTrue hs, isTrue hp => isTrue (by rw [hs, hp])
    | isFalse hs, _ => isFalse (by simp [hs])
    | _, isFalse hp => isFalse (by simp [hp])

end

instance : DecidableEq Segment := Segment.decEq

mutual

def Segment.source : Segment → String
  | .separator => "/"
  | .text content => content
  | .var name => ":" ++ name
  | .group children => "(" ++ Pattern.source children ++ ")"

def Pattern.source : Pattern → String
  | [] => ""
  | segment :: rest => segment.source ++ Pattern.source rest

end

/-- The names of the variables that stand directly in a list of segments, in no inner group. -/
def Pattern.directNames (segments : Pattern) : List String :=
  segments.filterMap fun
    | .var name => some name
    | _ => none

mutual

/-- The text of a segment; a variable without a value has none, nor has a group that is left out. -/
def Segment.render (scope : Scope) : Segment → Option String
  | .separator => some "/"
  | .text content => some content
  | .var name => scope.get? name
  | .group children =>
    if (Pattern.directNames children).all scope.contains then
      some (Pattern.render scope children)
    else
      none

/-- The texts of all segments, one after the other; a segment without text adds nothing. -/
def Pattern.render (scope : Scope) : Pattern → String
  | [] => ""
  | segment :: rest => (segment.render scope).getD "" ++ Pattern.render scope rest

end

end PathTemplate
