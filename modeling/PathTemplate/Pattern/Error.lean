/-!
# Faults of a pattern

A pattern can be wrong in three ways, and each fault is reported at one place: the byte offset, in
the pattern's UTF-8 form, of the parenthesis or of the colon that is at fault.
-/

namespace PathTemplate

inductive PatternError where
  /-- A `)` that no open group is left for. -/
  | strayClose (position : Nat)
  /-- A `(` that the end of the pattern leaves open; of several, the innermost. -/
  | unfinishedGroup (position : Nat)
  /-- A colon with no name after it. -/
  | namelessVariable (position : Nat)
  deriving Repr, DecidableEq

namespace PatternError

def position : PatternError → Nat
  | strayClose position => position
  | unfinishedGroup position => position
  | namelessVariable position => position

def message : PatternError → String
  | strayClose position => "unbalanced ')' at position " ++ toString position
  | unfinishedGroup position => "unclosed '(' opened at position " ++ toString position
  | namelessVariable position => "variable at position " ++ toString position ++ " has no name"

end PatternError
end PathTemplate
