import Mathlib.Tactic
import PathTemplate.Path

/-!
# Components of a path

A path is determined by two things: whether it starts with a separator, and the list of its
components, the stretches between separators that hold any text.  Normal form is the one way to
write them down: normalizing changes neither, joining appends the lists of components, and a text
in normal form can be read off its start and its components.  The components hold all characters but
the separators, so neither operation changes how many of these there are.
-/

namespace PathTemplate.Path

/-- The stretches between separators that hold any text. -/
def pieces (cs : List Char) : List (List Char) :=
  (cs.splitOn '/').filter fun piece => !piece.isEmpty

def components (path : String) : List String :=
  (pieces path.toList).map String.ofList

/-- The separator that a path starts with, if it starts with one. -/
def root (path : String) : String :=
  if path.toList.head? = some '/' then "/" else ""

/-- The separator that joined fragments start with; the first fragment with text decides. -/
def lead : List String → String
  | [] => ""
  | fragment :: rest => if fragment = "" then lead rest else root fragment

/-- What `isNormal` tests, for the characters of a path. -/
def Normal (cs : List Char) : Prop :=
  hasEmptyComponent cs = false ∧ (cs = ['/'] ∨ cs.getLast? ≠ some '/')

theorem isNormal_iff (path : String) :
    isNormal path = true ↔ Normal path.toList := by
  simp [isNormal, Normal]

/-! ## Components and separators -/

@[simp] theorem pieces_nil : pieces [] = [] := by
  simp [pieces]

theorem pieces_append_slash (before after : List Char) :
    pieces (before ++ '/' :: after) = pieces before ++ pieces after := by
  simp [pieces, List.splitOn_append_cons_self, List.filter_append]

@[simp] theorem pieces_slash_cons (cs : List Char) :
    pieces ('/' :: cs) = pieces cs := by
  simpa using pieces_append_slash [] cs

theorem pieces_cons {c : Char} (hc : c ≠ '/') (cs : List Char) :
    pieces (c :: cs) =
      if cs.head? = none ∨ cs.head? = some '/' then [c] :: pieces cs
      else (pieces cs).modifyHead (List.cons c) := by
  cases cs with
  | nil => simp [pieces, List.splitOn_cons_eq_if_modifyHead, hc]
  | cons d ds =>
      by_cases hd : d = '/'
      · simp [pieces, List.splitOn_cons_eq_if_modifyHead, hc, hd]
      · cases hds : ds.splitOn '/' with
        | nil => exact absurd hds (List.splitOn_ne_nil '/' ds)
        | cons first rest =>
            simp [pieces, List.splitOn_cons_eq_if_modifyHead, hc, hd, hds]

theorem pieces_cons_ne_nil {c : Char} (hc : c ≠ '/') (cs : List Char) :
    pieces (c :: cs) ≠ [] := by
  induction cs generalizing c with
  | nil => simp [pieces_cons hc]
  | cons d ds ih =>
      rw [pieces_cons hc]
      by_cases hd : d = '/'
      · simp [hd]
      · simp [hd, ih hd]

/-! ## Normal form -/

theorem hasEmptyComponent_append (as bs : List Char) :
    hasEmptyComponent (as ++ bs) = false ↔
      hasEmptyComponent as = false ∧ hasEmptyComponent bs = false ∧
        ¬(as.getLast? = some '/' ∧ bs.head? = some '/') := by
  induction as with
  | nil => simp [hasEmptyComponent]
  | cons a as ih =>
      cases as with
      | nil => simp [hasEmptyComponent]; tauto
      | cons b as =>
          simp only [List.cons_append, hasEmptyComponent, Bool.or_eq_false_iff,
            List.head?_cons, List.getLast?_cons_cons] at ih ⊢
          tauto

/-- A component is empty where two separators touch. -/
theorem hasEmptyComponent_eq_false_iff {cs : List Char} :
    hasEmptyComponent cs = false ↔ ¬['/', '/'] <:+: cs := by
  induction cs with
  | nil => simp [hasEmptyComponent]
  | cons c cs ih =>
      have hfirst : ['/', '/'] <+: c :: cs ↔ c = '/' ∧ cs.head? = some '/' := by
        cases cs with
        | nil => simp [List.cons_prefix_cons]
        | cons d ds => simp [List.cons_prefix_cons, eq_comm]
      rw [List.infix_cons_iff, hfirst, not_or, ← ih, hasEmptyComponent, Bool.or_eq_false_iff]
      simp

/-- A text in normal form is its leading separator and its components with one separator between
each two. -/
theorem Normal.eq_append_intercalate {cs : List Char} (h : Normal cs) :
    cs = (if cs.head? = some '/' then ['/'] else []) ++ ['/'].intercalate (pieces cs) := by
  obtain ⟨hempty, rfl | hlast⟩ := h
  · simp
  induction cs with
  | nil => simp
  | cons c cs ih =>
      cases cs with
      | nil =>
          have hc : c ≠ '/' := by simpa using hlast
          simp [pieces_cons hc, hc]
      | cons d ds =>
          have hstep : hasEmptyComponent (d :: ds) = false ∧ ¬(c = '/' ∧ d = '/') := by
            simp only [hasEmptyComponent, List.head?_cons] at hempty ⊢
            simp_all
          have hrest := ih hstep.1 (by simpa using hlast)
          by_cases hc : c = '/'
          · have hd : d ≠ '/' := fun hd => hstep.2 ⟨hc, hd⟩
            simp only [List.head?_cons, Option.some.injEq, hd, if_false, List.nil_append] at hrest
            rw [hc, pieces_slash_cons, ← hrest]
            simp
          by_cases hd : d = '/'
          · subst d
            have hds : ds = ['/'].intercalate (pieces ds) := by simpa using hrest
            have hne : pieces ds ≠ [] := by
              intro hnil
              rw [hnil] at hds
              simp [hds] at hlast
            obtain ⟨piece, others, hpieces⟩ := List.exists_cons_of_ne_nil hne
            rw [hpieces] at hds
            rw [pieces_cons hc, pieces_slash_cons, hpieces]
            simp [hc, ← hds]
          · obtain ⟨piece, others, hpieces⟩ :=
              List.exists_cons_of_ne_nil (pieces_cons_ne_nil hd ds)
            rw [hpieces] at hrest
            rw [pieces_cons hc, hpieces]
            cases others with
            | nil => simpa [hc, hd] using hrest
            | cons other others => simpa [hc, hd] using hrest

theorem head?_squeeze (cs : List Char) : (squeeze cs).head? = cs.head? := by
  induction cs with
  | nil => simp [squeeze]
  | cons c cs ih =>
      rw [squeeze]
      split
      · next h => rw [ih, h.2, h.1, List.head?_cons]
      · simp

theorem pieces_squeeze (cs : List Char) : pieces (squeeze cs) = pieces cs := by
  induction cs with
  | nil => simp [squeeze]
  | cons c cs ih =>
      rw [squeeze]
      split
      · next h => rw [ih, h.1, pieces_slash_cons]
      · by_cases hc : c = '/'
        · rw [hc, pieces_slash_cons, pieces_slash_cons, ih]
        · rw [pieces_cons hc, pieces_cons hc, head?_squeeze, ih]

theorem hasEmptyComponent_squeeze (cs : List Char) :
    hasEmptyComponent (squeeze cs) = false := by
  induction cs with
  | nil => simp [squeeze, hasEmptyComponent]
  | cons c cs ih =>
      rw [squeeze]
      split
      · exact ih
      · next h =>
          have hfirst : ¬(c = '/' ∧ (squeeze cs).head? = some '/') := by
            rwa [head?_squeeze]
          simp only [hasEmptyComponent, ih, Bool.or_false, Bool.and_eq_false_iff]
          by_cases hc : c = '/'
          · right
            simpa using fun hhead => hfirst ⟨hc, hhead⟩
          · left
            simpa using hc

/-- A text of two characters or more that ends with a separator, taken apart at that separator. -/
private theorem eq_append_slash {cs : List Char} (hlast : cs.getLast? = some '/') :
    cs = cs.dropLast ++ ['/'] := by
  obtain ⟨front, rfl⟩ := List.getLast?_eq_some_iff.mp hlast
  simp

theorem pieces_dropTrailingSlash (cs : List Char) :
    pieces (dropTrailingSlash cs) = pieces cs := by
  unfold dropTrailingSlash
  split
  · next h =>
      conv_rhs => rw [eq_append_slash h.2]
      rw [pieces_append_slash, pieces_nil, List.append_nil]
  · rfl

theorem head?_dropTrailingSlash (cs : List Char) :
    (dropTrailingSlash cs).head? = cs.head? := by
  unfold dropTrailingSlash
  split
  · next h =>
      obtain ⟨hlength, hlast⟩ := h
      match cs, hlength with
      | c :: d :: ds, _ => simp
  · rfl

theorem normal_dropTrailingSlash {cs : List Char} (hempty : hasEmptyComponent cs = false) :
    Normal (dropTrailingSlash cs) := by
  unfold dropTrailingSlash
  split
  · next h =>
      obtain ⟨hlength, hlast⟩ := h
      rw [eq_append_slash hlast, hasEmptyComponent_append] at hempty
      refine ⟨hempty.1, Or.inr fun hslash => ?_⟩
      exact hempty.2.2 ⟨hslash, by simp⟩
  · next h =>
      refine ⟨hempty, ?_⟩
      match cs with
      | [] => simp
      | [c] => by_cases hc : c = '/' <;> simp [hc]
      | c :: d :: ds =>
          right
          intro hlast
          exact h ⟨by simp, hlast⟩

theorem normal_normalize (path : String) : Normal (normalize path).path.toList := by
  unfold normalize
  split
  · next h => exact (isNormal_iff path).mp h
  · simp only [Revision.path, rebuild, String.toList_ofList]
    exact normal_dropTrailingSlash (hasEmptyComponent_squeeze path.toList)

theorem pieces_normalize (path : String) :
    pieces (normalize path).path.toList = pieces path.toList := by
  unfold normalize
  split
  · rfl
  · simp only [Revision.path, rebuild, String.toList_ofList]
    rw [pieces_dropTrailingSlash, pieces_squeeze]

theorem head?_normalize (path : String) :
    (normalize path).path.toList.head? = path.toList.head? := by
  unfold normalize
  split
  · rfl
  · simp only [Revision.path, rebuild, String.toList_ofList]
    rw [head?_dropTrailingSlash, head?_squeeze]

theorem root_normalize (path : String) : root (normalize path).path = root path := by
  rw [root, root, head?_normalize]

theorem normalize_eq_empty_iff {path : String} : (normalize path).path = "" ↔ path = "" := by
  rw [← String.toList_inj, ← String.toList_inj, String.toList_empty, ← List.head?_eq_none_iff,
    ← List.head?_eq_none_iff, head?_normalize]

theorem components_normalize (path : String) :
    components (normalize path).path = components path := by
  simp [components, pieces_normalize]

theorem normalize_path (path : String) :
    (normalize path).path = root path ++ "/".intercalate (components path) := by
  have hnormal := (normal_normalize path).eq_append_intercalate
  rw [head?_normalize, pieces_normalize] at hnormal
  have hmap : (components path).map String.toList = pieces path.toList := by
    simp [components, Function.comp_def]
  rw [← String.toList_inj, hnormal, String.toList_append, String.toList_intercalate, hmap]
  unfold root
  split <;> simp

theorem close_path (path : String) :
    (close path).path = if path.toList.getLast? = some '/' then path else path ++ "/" := by
  unfold close
  split <;> rfl

theorem components_close (path : String) : components (close path).path = components path := by
  rw [close_path]
  split
  · rfl
  · simp [components, pieces_append_slash]

/-- A path in normal form ends with a separator only if it is the separator alone. -/
theorem close_normalize (path : String) :
    (close (normalize path).path).path =
      if (normalize path).path = "/" then "/" else (normalize path).path ++ "/" := by
  rw [close_path]
  by_cases hroot : (normalize path).path = "/"
  · simp [hroot]
  · have hlast : (normalize path).path.toList.getLast? ≠ some '/' := by
      rcases (normal_normalize path).2 with hslash | hlast
      · exact absurd (String.toList_inj.mp hslash) hroot
      · exact hlast
    rw [if_neg hlast, if_neg hroot]

theorem root_append {before : String} (h : before ≠ "") (after : String) :
    root (before ++ after) = root before := by
  obtain ⟨c, cs, hcs⟩ := List.exists_cons_of_ne_nil (mt String.toList_eq_nil_iff.mp h)
  simp [root, hcs]

theorem root_close {path : String} (h : path ≠ "") : root (close path).path = root path := by
  rw [close_path]
  split
  · rfl
  · exact root_append h "/"

/-- A normal path that is closed ends with exactly one separator, and no others touch in it. -/
theorem exists_close_normalize_eq (path : String) :
    ∃ front, (close (normalize path).path).path = front ++ "/" ∧
      front.toList.getLast? ≠ some '/' ∧ hasEmptyComponent front.toList = false := by
  rw [close_normalize]
  split
  · exact ⟨"", by simp, by simp, rfl⟩
  · next hroot =>
      rcases normal_normalize path with ⟨hempty, hslash | hlast⟩
      · exact absurd (String.toList_inj.mp hslash) hroot
      · exact ⟨_, rfl, hlast, hempty⟩

/-- Closing a normal path is undone by bringing it into normal form again. -/
theorem normalize_close_normalize {path : String} (h : (normalize path).path ≠ "") :
    (normalize (close (normalize path).path).path).path = (normalize path).path := by
  rw [normalize_path (close _).path, root_close h, components_close, root_normalize,
    components_normalize, ← normalize_path]

/-! ## Joining -/

theorem components_append_slash (before after : String) :
    components (before ++ "/" ++ after) = components before ++ components after := by
  simp [components, pieces_append_slash]

theorem components_join (base fragment : String) :
    components (join base fragment) = components base ++ components fragment := by
  unfold join
  split
  · next h =>
      rcases h with rfl | rfl | hbase | hfragment
      · simp [components]
      · simp [components]
      · obtain ⟨front, hfront⟩ := List.getLast?_eq_some_iff.mp hbase
        simp [components, hfront, pieces_append_slash]
      · obtain ⟨back, hback⟩ := List.head?_eq_some_iff.mp hfragment
        simp [components, hback, pieces_append_slash]
  · simp [components, pieces_append_slash]

theorem lead_join_cons (base fragment : String) (rest : List String) :
    lead (join base fragment :: rest) = lead (base :: fragment :: rest) := by
  by_cases hbase : base = ""
  · simp [join, hbase, lead]
  · have htext : base.toList ≠ [] := by simpa using hbase
    obtain ⟨c, cs, hcs⟩ := List.exists_cons_of_ne_nil htext
    have hjoin : ∃ more, (join base fragment).toList = c :: more := by
      unfold join
      split <;> simp [hcs]
    obtain ⟨more, hmore⟩ := hjoin
    have hne : join base fragment ≠ "" := by
      intro hnil
      simp [hnil] at hmore
    simp [lead, hbase, hne, root, hmore, hcs]

theorem root_join (base fragment : String) :
    root (join base fragment) = if base = "" then root fragment else root base := by
  have hlead : ∀ path, lead [path] = root path := by
    intro path
    by_cases hpath : path = ""
    · simp [lead, root, hpath]
    · simp [lead, hpath]
  have hjoin := lead_join_cons base fragment []
  rw [hlead] at hjoin
  rw [hjoin, lead, hlead]

theorem join_eq_empty_iff {base fragment : String} :
    join base fragment = "" ↔ base = "" ∧ fragment = "" := by
  unfold join
  split
  · simp
  · next h =>
      rw [not_or] at h
      simp [h.1]

theorem foldl_join_eq_empty_iff {fragments : List String} {base : String} :
    fragments.foldl join base = "" ↔ base = "" ∧ ∀ fragment ∈ fragments, fragment = "" := by
  induction fragments generalizing base with
  | nil => simp
  | cons fragment rest ih => simp [ih, join_eq_empty_iff, and_assoc]

theorem components_foldl_join (fragments : List String) (base : String) :
    components (fragments.foldl join base) =
      components base ++ fragments.flatMap components := by
  induction fragments generalizing base with
  | nil => simp
  | cons fragment rest ih =>
      rw [List.foldl_cons, ih, components_join, List.flatMap_cons, List.append_assoc]

theorem root_foldl_join (fragments : List String) (base : String) :
    root (fragments.foldl join base) = lead (base :: fragments) := by
  induction fragments generalizing base with
  | nil =>
      by_cases hbase : base = ""
      · simp [lead, hbase, root]
      · simp [lead, hbase]
  | cons fragment rest ih => rw [List.foldl_cons, ih, lead_join_cons]

theorem normalize_foldl_join (fragments : List String) :
    (normalize (fragments.foldl join "")).path =
      lead fragments ++ "/".intercalate (fragments.flatMap components) := by
  rw [normalize_path, root_foldl_join, components_foldl_join]
  simp [lead, components]

/-! ## Letters -/

/-- How many characters of a path are no separators. -/
def letters (path : String) : ℕ := path.toList.countP (· ≠ '/')

theorem letters_append (before after : String) :
    letters (before ++ after) = letters before + letters after := by
  rw [letters, String.toList_append, List.countP_append, letters, letters]

theorem letters_join (texts : List String) :
    letters (String.join texts) = (texts.map letters).sum := by
  induction texts with
  | nil => simp [letters]
  | cons text rest ih => rw [String.join_cons, letters_append, ih, List.map_cons, List.sum_cons]

theorem countP_eq_sum_pieces (cs : List Char) :
    cs.countP (· ≠ '/') = ((pieces cs).map List.length).sum := by
  induction cs with
  | nil => simp
  | cons c cs ih =>
      by_cases hc : c = '/'
      · rw [hc, pieces_slash_cons, ← ih]
        simp
      · have hcount : (c :: cs).countP (· ≠ '/') = cs.countP (· ≠ '/') + 1 := by simp [hc]
        rw [hcount, ih, pieces_cons hc]
        cases cs with
        | nil => simp
        | cons d ds =>
            by_cases hd : d = '/'
            · simp [hd, Nat.add_comm]
            · obtain ⟨piece, others, hpieces⟩ :=
                List.exists_cons_of_ne_nil (pieces_cons_ne_nil hd ds)
              simp [hd, hpieces]
              omega

/-- The components hold all characters but the separators. -/
theorem letters_eq_sum_components (path : String) :
    letters path = ((components path).map String.length).sum := by
  rw [letters, countP_eq_sum_pieces, components, List.map_map]
  congr 2
  funext piece
  simp

theorem letters_foldl_join (fragments : List String) (base : String) :
    letters (fragments.foldl join base) = letters base + (fragments.map letters).sum := by
  simp only [letters_eq_sum_components, components_foldl_join, List.map_append, List.sum_append]
  congr 1
  induction fragments with
  | nil => simp
  | cons fragment rest ih => simp [ih, letters_eq_sum_components]

end PathTemplate.Path
