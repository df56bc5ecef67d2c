import PathTemplate.Proofs.Path.Components

/-!
# The normal form of a path

A path is brought into normal form in one pass over its characters: a separator is passed over where
what has been written so far ends with one, and a separator at the end is dropped unless it is all
there is.  At any point of the pass, what has been written is what has been read with every run of
separators squeezed to one.

What comes out is the split of the path at its separators, joined again with single ones.  A path
that is normal already comes out as it went in, so it may as well be kept without the pass, and the
normal paths are exactly those that normalizing does not change.
-/

namespace PathTemplate.Path

/-! ## One pass over the characters -/

/-- Writes one more character, unless it is a separator and what is written ends with one. -/
def write (written : List Char) (c : Char) : List Char :=
  if c = '/' ∧ written.getLast? = some '/' then written else written ++ [c]

/-- The pass over the characters of any path, also of one that is normal already. -/
def collapse (path : String) : String :=
  String.ofList (dropTrailingSlash (path.toList.foldl write []))

theorem write_cons {written : List Char} (h : written ≠ []) (first c : Char) :
    write (first :: written) c = first :: write written c := by
  obtain ⟨second, rest, rfl⟩ := List.exists_cons_of_ne_nil h
  unfold write
  rw [List.getLast?_cons_cons]
  split <;> rfl

theorem squeeze_ne_nil {cs : List Char} (h : cs ≠ []) : squeeze cs ≠ [] := by
  rw [Ne, ← List.head?_eq_none_iff, head?_squeeze, List.head?_eq_none_iff]
  exact h

/-- Reading one more character writes it to what has been squeezed before. -/
theorem squeeze_concat (cs : List Char) (c : Char) :
    squeeze (cs ++ [c]) = write (squeeze cs) c := by
  induction cs with
  | nil => simp [squeeze, write]
  | cons d ds ih =>
      cases ds with
      | nil =>
          by_cases hd : d = '/'
          · by_cases hc : c = '/' <;> simp [squeeze, write, hd, hc]
          · simp [squeeze, write, hd]
      | cons e es =>
          have hne : squeeze (e :: es) ≠ [] := squeeze_ne_nil (List.cons_ne_nil e es)
          rw [List.cons_append, squeeze, squeeze, ih, List.cons_append, List.head?_cons,
            List.head?_cons]
          split
          · rfl
          · exact (write_cons hne d c).symm

theorem foldl_write (cs : List Char) : cs.foldl write [] = squeeze cs := by
  induction cs using List.reverseRecOn with
  | nil => rfl
  | append_singleton cs c ih => rw [List.foldl_concat, ih, squeeze_concat]

theorem collapse_eq_rebuild (path : String) : collapse path = rebuild path := by
  rw [collapse, foldl_write, rebuild]

/-! ## Paths that are kept -/

theorem squeeze_eq_self {cs : List Char} (h : hasEmptyComponent cs = false) :
    squeeze cs = cs := by
  induction cs with
  | nil => rfl
  | cons c cs ih =>
      rw [hasEmptyComponent, Bool.or_eq_false_iff] at h
      have hfirst : ¬(c = '/' ∧ cs.head? = some '/') := by
        simpa using h.1
      rw [squeeze, if_neg hfirst, ih h.2]

theorem Normal.dropTrailingSlash_eq_self {cs : List Char} (h : Normal cs) :
    dropTrailingSlash cs = cs := by
  rw [dropTrailingSlash, if_neg]
  intro hdropped
  obtain ⟨hlength, hlast⟩ := hdropped
  rcases h.2 with rfl | hopen
  · simp at hlength
  · exact hopen hlast

theorem rebuild_eq_self {path : String} (h : isNormal path = true) : rebuild path = path := by
  have hnormal := (isNormal_iff path).mp h
  rw [rebuild, squeeze_eq_self hnormal.1, hnormal.dropTrailingSlash_eq_self, String.ofList_toList]

theorem normalize_eq_kept_iff {path : String} :
    normalize path = .kept path ↔ isNormal path = true := by
  unfold normalize
  split
  · next h => simp [h]
  · next h => simp [h]

theorem rebuild_eq_normalize (path : String) : rebuild path = (normalize path).path := by
  by_cases h : isNormal path = true
  · rw [normalize_eq_kept_iff.mpr h, rebuild_eq_self h, Revision.path]
  · rw [normalize, if_neg h, Revision.path]

theorem isKept_normalize (path : String) : (normalize path).isKept = isNormal path := by
  unfold normalize
  split
  · next h => rw [h, Revision.isKept]
  · next h => rw [Bool.eq_false_of_not_eq_true h, Revision.isKept]

theorem isNormal_normalize (path : String) : isNormal (normalize path).path = true :=
  (isNormal_iff _).mpr (normal_normalize path)

theorem normalize_path_eq_self_iff {path : String} :
    (normalize path).path = path ↔ isNormal path = true := by
  constructor
  · intro hself
    rw [← hself]
    exact isNormal_normalize path
  · intro hnormal
    rw [normalize_eq_kept_iff.mpr hnormal, Revision.path]

theorem normalize_normalize (path : String) :
    (normalize (normalize path).path).path = (normalize path).path :=
  normalize_path_eq_self_iff.mpr (isNormal_normalize path)

/-- A path is normal if no two separators touch in it and if none stands at its end, or if it is a
separator alone. -/
theorem isNormal_iff_infix {path : String} :
    isNormal path = true ↔
      ¬['/', '/'] <:+: path.toList ∧ (path = "/" ∨ ¬['/'] <:+ path.toList) := by
  have hslash : path.toList = ['/'] ↔ path = "/" := by
    rw [← String.toList_inj]
    rfl
  have hlast : path.toList.getLast? = some '/' ↔ ['/'] <:+ path.toList := by
    rw [List.getLast?_eq_some_iff, List.IsSuffix]
    simp only [eq_comm]
  rw [isNormal_iff, Normal, hasEmptyComponent_eq_false_iff, hslash, Ne, hlast]

/-- The pass over all characters and the normal form agree on every path, so a normal path may be
kept without the pass.  What comes out is normal, and it is kept when it is normalized again.  That
a path is normal, that normalizing does not change it, that it is kept, and that some path has it as
its normal form are all the same. -/
theorem normalize_keeps_exactly_normal (path : String) :
    collapse path = (normalize path).path ∧
    isNormal (normalize path).path = true ∧
    normalize (normalize path).path = .kept (normalize path).path ∧
    (isNormal path = true ↔
      ¬['/', '/'] <:+: path.toList ∧ (path = "/" ∨ ¬['/'] <:+ path.toList)) ∧
    (isNormal path = true ↔ (normalize path).path = path) ∧
    (isNormal path = true ↔ (normalize path).isKept = true) ∧
    (isNormal path = true ↔ ∃ other, (normalize other).path = path) := by
  have hnormal := isNormal_normalize path
  refine ⟨?_, hnormal, normalize_eq_kept_iff.mpr hnormal, isNormal_iff_infix,
    normalize_path_eq_self_iff.symm, ?_, ?_⟩
  · rw [collapse_eq_rebuild, rebuild_eq_normalize]
  · rw [isKept_normalize]
  · constructor
    · intro h
      exact ⟨path, normalize_path_eq_self_iff.mpr h⟩
    · intro hreached
      rcases hreached with ⟨other, rfl⟩
      exact isNormal_normalize other

/-! ## Splitting and joining -/

theorem root_eq_root_iff {left right : String} :
    root left = root right ↔
      (left.toList.head? = some '/' ↔ right.toList.head? = some '/') := by
  unfold root
  by_cases hleft : left.toList.head? = some '/' <;>
    by_cases hright : right.toList.head? = some '/' <;> simp [hleft, hright]

theorem normalize_path_eq_iff {left right : String} :
    (normalize left).path = (normalize right).path ↔
      root left = root right ∧ components left = components right := by
  constructor
  · intro h
    constructor
    · rw [← root_normalize left, h, root_normalize]
    · rw [← components_normalize left, h, components_normalize]
  · intro h
    obtain ⟨hroot, hcomponents⟩ := h
    rw [normalize_path, normalize_path, hroot, hcomponents]

/-- The normal form of a path is its split at the separators joined again: the separator that it
starts with, if it does, and then the stretches that hold any text with one separator between each
two.  So two paths have one normal form exactly if both or neither start with a separator and their
components are the same. -/
theorem normalize_eq_join_of_split (path : String) :
    let stretches := (path.toList.splitOn '/').filter fun stretch => !stretch.isEmpty
    let start := if path.toList.head? = some '/' then "/" else ""
    (normalize path).path = start ++ "/".intercalate (stretches.map String.ofList) ∧
    ∀ other, (normalize path).path = (normalize other).path ↔
      (path.toList.head? = some '/' ↔ other.toList.head? = some '/') ∧
        components path = components other := by
  intro stretches start
  constructor
  · exact normalize_path path
  · intro other
    rw [normalize_path_eq_iff, root_eq_root_iff]

end PathTemplate.Path
