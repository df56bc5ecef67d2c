/-!
# Rendered paths

A path is text in which `/` separates components.  It is normal when no two separators touch and
when it does not end with one, the path `/` alone excepted.  The operations here join paths, bring
them into normal form, and close them with a separator.
-/

namespace PathTemplate.Path

/-- The outcome of bringing a path into some form: the path as it was, or a new one. -/
inductive Revision where
  | kept (path : String)
  | rebuilt (path : String)
  deriving Repr, DecidableEq

namespace Revision

def path : Revision → String
  | kept path => path
  | rebuilt path => path

def isKept : Revision → Bool
  | kept _ => true
  | rebuilt _ => false

end Revision

def hasEmptyComponent : List Char → Bool
  | [] => false
  | c :: cs => (c == '/' && cs.head? == some '/') || hasEmptyComponent cs

def isNormal (path : String) : Bool :=
  let cs := path.toList
  !hasEmptyComponent cs && (cs == ['/'] || cs.getLast? != some '/')

def squeeze : List Char → List Char
  | [] => []
  | c :: cs => if c = '/' ∧ cs.head? = some '/' then squeeze cs else c :: squeeze cs

/-- Drops a separator at the end, unless it is all there is. -/
def dropTrailingSlash (cs : List Char) : List Char :=
  if 1 < cs.length ∧ cs.getLast? = some '/' then cs.dropLast else cs

def rebuild (path : String) : String :=
  String.ofList (dropTrailingSlash (squeeze path.toList))

/-- The normal form of a path; a path that has it is kept. -/
def normalize (path : String) : Revision :=
  if isNormal path then .kept path else .rebuilt (rebuild path)

def close (path : String) : Revision :=
  if path.toList.getLast? = some '/' then .kept path else .rebuilt (path ++ "/")

/-- Appends a fragment, with a separator between the two where both have text and neither brings
one to the seam. -/
def join (base fragment : String) : String :=
  if base = "" ∨ fragment = "" ∨ base.toList.getLast? = some '/'
      ∨ fragment.toList.head? = some '/' then
    base ++ fragment
  else
    base ++ "/" ++ fragment

end PathTemplate.Path
