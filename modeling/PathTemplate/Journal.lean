import PathTemplate.Text.Quoted

/-!
# Journal

Compiling and rendering make entries in a journal as they go along.  A template that compiles is
recorded with its size, after a warning if some of its defaults can never be used; a rendering is
recorded with its path or with the variables it lacks.  A template that does not compile leaves no
entry.
-/

namespace PathTemplate

inductive Event where
  | ignoredDefaults (raw : String) (unused : List String)
  | compiled (raw : String) (segments required optional : Nat)
  | missingVariables (raw : String) (missing : List String)
  | rendered (raw path : String)
  deriving Repr, DecidableEq

namespace Event

inductive Field where
  | text (content : String)
  | count (n : Nat)
  | names (list : List String)
  deriving Repr, DecidableEq

/-- The value as it is printed; a list of names is printed with each name quoted. -/
def Field.print : Field → String
  | text content => content
  | count n => toString n
  | names list => Text.quoteList list

def level : Event → String
  | ignoredDefaults .. => "WARN"
  | compiled .. => "DEBUG"
  | missingVariables .. => "DEBUG"
  | rendered .. => "TRACE"

def message : Event → String
  | ignoredDefaults .. => "ignoring defaults for undeclared variables"
  | compiled .. => "compiled url mount"
  | missingVariables .. => "url mount missing required variables"
  | rendered .. => "rendered url mount"

def fields : Event → List (String × Field)
  | ignoredDefaults raw unused => [("raw_path", .text raw), ("unused", .names unused)]
  | compiled raw segments required optional =>
    [("raw_path", .text raw), ("segments", .count segments), ("required", .count required),
      ("optional", .count optional)]
  | missingVariables raw missing => [("raw_path", .text raw), ("missing", .names missing)]
  | rendered raw path => [("raw_path", .text raw), ("path", .text path)]

end Event

/-- A result with the entries made on the way to it. -/
structure Logged (α : Type) where
  result : α
  events : List Event

namespace Logged

instance : Monad Logged where
  pure result := ⟨result, []⟩
  bind start next :=
    let rest := next start.result
    ⟨rest.result, start.events ++ rest.events⟩

def enter (event : Event) : Logged Unit :=
  ⟨(), [event]⟩

end Logged
end PathTemplate
