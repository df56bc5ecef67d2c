import PathTemplate.Proofs.Path.NormalForm

/-!
# Joining and normal form

Joining is associative, and a path without text changes nothing on either side: whether a separator
comes between two texts is seen from the two characters at the seam, and these stay the same when
more is joined at the far ends.  The normal form of a join depends on the normal forms of its two
sides only.

So several fragments have one normal form, however they are put together: the joins may be bracketed
in any way, and any path made on the way may be normalized early.
-/

namespace PathTemplate.Path

/-! ## Seams -/

/-- What a join puts between two texts. -/
def seam (base fragment : String) : String :=
  if base = "" ∨ fragment = "" ∨ base.toList.getLast? = some '/'
      ∨ fragment.toList.head? = some '/' then
    ""
  else
    "/"

theorem join_eq_append_seam (base fragment : String) :
    join base fragment = base ++ seam base fragment ++ fragment := by
  unfold join seam
  split
  · rw [String.append_empty]
  · rfl

@[simp] theorem empty_join (fragment : String) : join "" fragment = fragment := by
  simp [join]

@[simp] theorem join_empty (base : String) : join base "" = base := by
  simp [join]

theorem getLast?_join {fragment : String} (h : fragment ≠ "") (base : String) :
    (join base fragment).toList.getLast? = fragment.toList.getLast? := by
  have htext : fragment.toList ≠ [] := mt String.toList_eq_nil_iff.mp h
  rw [join_eq_append_seam, String.toList_append, List.getLast?_append_of_ne_nil _ htext]

theorem head?_join {base : String} (h : base ≠ "") (fragment : String) :
    (join base fragment).toList.head? = base.toList.head? := by
  have htext : base.toList ≠ [] := mt String.toList_eq_nil_iff.mp h
  rw [join_eq_append_seam, String.append_assoc, String.toList_append,
    List.head?_append_of_ne_nil _ htext]

theorem seam_join_left {fragment : String} (h : fragment ≠ "") (base last : String) :
    seam (join base fragment) last = seam fragment last := by
  simp only [seam, join_eq_empty_iff, getLast?_join h, h, and_false]

theorem seam_join_right {fragment : String} (h : fragment ≠ "") (base last : String) :
    seam base (join fragment last) = seam base fragment := by
  simp only [seam, join_eq_empty_iff, head?_join h, h, false_and]

theorem join_assoc (base fragment last : String) :
    join (join base fragment) last = join base (join fragment last) := by
  by_cases h : fragment = ""
  · rw [h, join_empty, empty_join]
  · calc
      join (join base fragment) last =
          join base fragment ++ seam fragment last ++ last := by
        rw [join_eq_append_seam, seam_join_left h]
      _ = base ++ seam base fragment ++ (fragment ++ seam fragment last ++ last) := by
        rw [join_eq_append_seam base, String.append_assoc, String.append_assoc, String.append_assoc,
          String.append_assoc, String.append_assoc]
      _ = join base (join fragment last) := by
        rw [join_eq_append_seam base, seam_join_right h, join_eq_append_seam fragment]

instance : Std.Associative join := ⟨join_assoc⟩

/-! ## Normal form of a join -/

theorem normalize_join (base fragment : String) :
    (normalize (join base fragment)).path =
      (normalize (join (normalize base).path (normalize fragment).path)).path := by
  rw [normalize_path_eq_iff]
  constructor
  · rw [root_join, root_join, root_normalize, root_normalize]
    simp only [normalize_eq_empty_iff]
  · rw [components_join, components_join, components_normalize, components_normalize]

/-! ## Plans -/

/-- A way to put fragments together in their order: two neighbours are joined at a time, in any
bracketing, and a path on the way is normalized or left as it is. -/
inductive Plan where
  | nothing
  | fragment (text : String)
  | joined (left right : Plan)
  | normalized (inner : Plan)

namespace Plan

/-- The fragments that a plan puts together, from left to right. -/
def fragments : Plan → List String
  | nothing => []
  | fragment text => [text]
  | joined left right => left.fragments ++ right.fragments
  | normalized inner => inner.fragments

def result : Plan → String
  | nothing => ""
  | fragment text => text
  | joined left right => join left.result right.result
  | normalized inner => (normalize inner.result).path

end Plan

theorem foldl_join_append (before after : List String) :
    (before ++ after).foldl join "" = join (before.foldl join "") (after.foldl join "") := by
  calc
    (before ++ after).foldl join "" = after.foldl join (join (before.foldl join "") "") := by
      rw [List.foldl_append, join_empty]
    _ = join (before.foldl join "") (after.foldl join "") := List.foldl_assoc

theorem Plan.normalize_result (plan : Plan) :
    (normalize plan.result).path = (normalize (plan.fragments.foldl join "")).path := by
  induction plan with
  | nothing => rfl
  | fragment text => simp [result, fragments]
  | joined left right ihLeft ihRight =>
      calc
        (normalize (join left.result right.result)).path =
            (normalize (join (normalize left.result).path (normalize right.result).path)).path :=
          normalize_join _ _
        _ = (normalize (join (left.fragments.foldl join "")
              (right.fragments.foldl join ""))).path := by
          rw [ihLeft, ihRight, ← normalize_join]
        _ = (normalize ((left.fragments ++ right.fragments).foldl join "")).path := by
          rw [foldl_join_append]
  | normalized inner ih => rw [result, normalize_normalize, ih, fragments]

/-- Joining is associative, a path without text is neutral on both sides, and the sides of a join
may be normalized before it.  So every plan for some fragments ends in the normal form that they
have when they are joined one after the other and normalized once. -/
theorem join_assoc_and_normalize_of_plan :
    (∀ base fragment last,
      join (join base fragment) last = join base (join fragment last)) ∧
    (∀ path, join "" path = path ∧ join path "" = path) ∧
    (∀ base fragment, (normalize (join base fragment)).path =
      (normalize (join (normalize base).path (normalize fragment).path)).path) ∧
    ∀ plan : Plan,
      (normalize plan.result).path = (normalize (plan.fragments.foldl join "")).path :=
  ⟨join_assoc, fun path => ⟨empty_join path, join_empty path⟩, normalize_join,
    Plan.normalize_result⟩

end PathTemplate.Path
