import Mathlib.Data.List.Chain
import Mathlib.Tactic
import PathTemplate.Proofs.Pattern.Outline

/-!
# Trees that can be read back

The text of a tree falls apart into the lexemes of the tree, provided that no two runs of unreserved
characters meet in it, and that no name or text in it is read as something else.  Trees that are
normal in this sense, segment by segment and seam by seam, are those whose lexemes are the lexemes
of their text.
-/

namespace PathTemplate

open Token

/-- Texts and variables are written without reserved characters. -/
def Segment.isRun : Segment → Bool
  | .text _ => true
  | .var _ => true
  | .separator => false
  | .group _ => false

def Segment.Apart (left right : Segment) : Prop :=
  ¬(left.isRun = true ∧ right.isRun = true)

/-- Names and texts that are read as what they are, and no two runs side by side. -/
inductive Segment.Normal : Segment → Prop
  | separator : Normal .separator
  | text {content : String} (hne : content ≠ "")
      (hplain : ∀ c ∈ content.toList, isReserved c = false)
      (hcolon : content.toList.head? ≠ some ':') : Normal (.text content)
  | var {name : String} (hne : name ≠ "") (hplain : ∀ c ∈ name.toList, isReserved c = false) :
      Normal (.var name)
  | group {children : Pattern} (hchildren : ∀ segment ∈ children, Normal segment)
      (hapart : children.IsChain Segment.Apart) : Normal (.group children)

def Pattern.Normal (pattern : Pattern) : Prop :=
  (∀ segment ∈ pattern, segment.Normal) ∧ pattern.IsChain Segment.Apart

/-! ## The lexemes of a tree -/

mutual

theorem Segment.toList_source : ∀ segment : Segment,
    segment.source.toList = segment.lexemes.flatten
  | .separator => by simp [Segment.source, Segment.lexemes]
  | .text content => by simp [Segment.source, Segment.lexemes]
  | .var name => by simp [Segment.source, Segment.lexemes]
  | .group children => by
      simp [Segment.source, Segment.lexemes, Pattern.toList_source children]

theorem Pattern.toList_source : ∀ pattern : Pattern,
    pattern.source.toList = pattern.lexemes.flatten
  | [] => by simp [Pattern.source]
  | segment :: rest => by
      simp [Pattern.source, Segment.toList_source segment, Pattern.toList_source rest]

end

theorem Pattern.source_append (left right : Pattern) :
    Pattern.source (left ++ right) = left.source ++ right.source := by
  induction left with
  | nil => simp [Pattern.source]
  | cons segment rest ih =>
      rw [List.cons_append, Pattern.source, ih, Pattern.source, String.append_assoc]

theorem Segment.lexemes_ne_nil (segment : Segment) : segment.lexemes ≠ [] := by
  cases segment <;> simp [Segment.lexemes]

theorem Pattern.lexemes_eq_flatten (pattern : Pattern) :
    pattern.lexemes = (pattern.map Segment.lexemes).flatten := by
  induction pattern with
  | nil => simp
  | cons segment rest ih => simp [ih]

theorem Pattern.isLexeme_of_mem_of_forall {pattern : Pattern}
    (h : ∀ segment ∈ pattern, ∀ lexeme ∈ segment.lexemes, IsLexeme lexeme) :
    ∀ lexeme ∈ pattern.lexemes, IsLexeme lexeme := by
  intro lexeme hmem
  rw [lexemes_eq_flatten] at hmem
  rcases List.mem_flatten.mp hmem with ⟨lexemes, hlexemes, hlexeme⟩
  rcases List.mem_map.mp hlexemes with ⟨segment, hsegment, rfl⟩
  exact h segment hsegment lexeme hlexeme

theorem Segment.Spelled.isLexeme_of_mem {segment : Segment} (h : segment.Spelled) :
    ∀ lexeme ∈ segment.lexemes, IsLexeme lexeme := by
  induction h with
  | separator => simpa [Segment.lexemes] using .inl ⟨'/', rfl, rfl⟩
  | text hlexeme hkind => simpa [Segment.lexemes] using hlexeme
  | var hlexeme => simpa [Segment.lexemes] using hlexeme
  | @group children hchildren ih =>
      intro lexeme hmem
      have hcases : lexeme = ['('] ∨ lexeme ∈ Pattern.lexemes children ∨ lexeme = [')'] := by
        simpa [Segment.lexemes] using hmem
      rcases hcases with rfl | hinner | rfl
      · exact .inl ⟨'(', rfl, rfl⟩
      · exact Pattern.isLexeme_of_mem_of_forall ih lexeme hinner
      · exact .inl ⟨')', rfl, rfl⟩

/-! ## Seams -/

namespace Token

/-- The lexemes can stand side by side without being read as one. -/
def Seam (left right : List Char) : Prop :=
  ∃ hleft hright, isReserved (left.getLast hleft) = true ∨ isReserved (right.head hright) = true

theorem IsLexeme.isReserved_iff {lexeme : List Char} (h : IsLexeme lexeme) {c : Char}
    (hc : c ∈ lexeme) : isReserved c = true ↔ ¬∀ d ∈ lexeme, isReserved d = false := by
  rcases h with ⟨d, hd, rfl⟩ | ⟨-, hplain⟩
  · rw [List.mem_singleton.mp hc]
    simp [hd]
  · simp only [hplain c hc, Bool.false_eq_true, false_iff, not_not]
    exact hplain

theorem seam_iff {left right : List Char} (hleft : IsLexeme left) (hright : IsLexeme right) :
    Seam left right ↔
      ¬((∀ c ∈ left, isReserved c = false) ∧ ∀ c ∈ right, isReserved c = false) := by
  have hleftNe := (isLexeme_iff.mp hleft).1
  have hrightNe := (isLexeme_iff.mp hright).1
  rw [not_and_or, ← hleft.isReserved_iff (left.getLast_mem hleftNe),
    ← hright.isReserved_iff (right.head_mem hrightNe)]
  constructor
  · intro hseam
    rcases hseam with ⟨_, _, hreserved⟩
    exact hreserved
  · intro hreserved
    exact ⟨hleftNe, hrightNe, hreserved⟩

theorem ofLexeme?_eq_text {content : String}
    (hplain : ∀ c ∈ content.toList, isReserved c = false)
    (hcolon : content.toList.head? ≠ some ':') :
    Kind.ofLexeme? content.toList = some (.text content) := by
  unfold Kind.ofLexeme?
  split
  next heq => simp [heq, isReserved] at hplain
  next heq => simp [heq, isReserved] at hplain
  next heq => simp [heq, isReserved] at hplain
  next heq => simp [heq] at hcolon
  next name heq => simp [heq] at hcolon
  next => rw [String.ofList_toList]

theorem ofLexeme?_eq_var {name : String} (hne : name ≠ "") :
    Kind.ofLexeme? (':' :: name.toList) = some (.var name) := by
  obtain ⟨c, cs, hname⟩ := List.exists_cons_of_ne_nil (mt String.toList_eq_nil_iff.mp hne)
  rw [hname, Kind.ofLexeme?, ← hname, String.ofList_toList]
  simp

theorem isLexeme_colon_cons_iff {name : List Char} :
    IsLexeme (':' :: name) ↔ ∀ c ∈ name, isReserved c = false := by
  constructor
  · intro hlexeme
    rcases hlexeme with ⟨c, hc, heq⟩ | ⟨-, hall⟩
    · rw [← (List.cons.inj heq).1] at hc
      cases hc
    · exact fun c hc => hall c (List.mem_cons_of_mem ':' hc)
  · intro hname
    exact .inr ⟨by simp, by simpa [isReserved] using hname⟩

theorem forall_not_reserved_of_text {content : String} (hlexeme : IsLexeme content.toList)
    (hkind : Kind.ofLexeme? content.toList = some (.text content)) :
    ∀ c ∈ content.toList, isReserved c = false := by
  rcases hlexeme with ⟨c, hc, hcontent⟩ | ⟨-, hplain⟩
  · have hcases : c = '/' ∨ c = '(' ∨ c = ')' := by simpa [isReserved, or_assoc] using hc
    rw [hcontent] at hkind
    rcases hcases with rfl | rfl | rfl
    · cases hkind
    · cases hkind
    · cases hkind
  · exact hplain

end Token

/-- The outermost lexemes of a segment are plain exactly if the segment is a run. -/
theorem Segment.Spelled.isRun_iff {segment : Segment} (h : segment.Spelled) {lexeme : List Char}
    (hedge : lexeme ∈ segment.lexemes.getLast? ∨ lexeme ∈ segment.lexemes.head?) :
    segment.isRun = true ↔ ∀ c ∈ lexeme, isReserved c = false := by
  cases h with
  | separator =>
      have hlexeme : lexeme = ['/'] := by simpa [Segment.lexemes, eq_comm] using hedge
      simp [Segment.isRun, hlexeme, isReserved]
  | @text content hcontent hkind =>
      have hlexeme : lexeme = content.toList := by simpa [Segment.lexemes, eq_comm] using hedge
      simpa [Segment.isRun, hlexeme] using forall_not_reserved_of_text hcontent hkind
  | @var name hname =>
      have hlexeme : lexeme = ':' :: name.toList := by
        simpa [Segment.lexemes, eq_comm] using hedge
      have hcolon := hname.isReserved_iff List.mem_cons_self
      rw [hlexeme]
      simpa [Segment.isRun, isReserved, and_assoc] using hcolon
  | @group children hchildren =>
      have hlast : (Segment.group children).lexemes.getLast? = some [')'] := by
        rw [Segment.lexemes]
        exact List.getLast?_concat
      have hlexeme : lexeme = [')'] ∨ lexeme = ['('] := by
        rw [hlast] at hedge
        simpa [Segment.lexemes, eq_comm] using hedge
      rcases hlexeme with rfl | rfl
      · simp [Segment.isRun, isReserved]
      · simp [Segment.isRun, isReserved]

namespace Pattern

theorem Spelled.isLexeme_of_mem {pattern : Pattern} (h : pattern.Spelled) :
    ∀ lexeme ∈ pattern.lexemes, IsLexeme lexeme :=
  isLexeme_of_mem_of_forall fun segment hmem => (h segment hmem).isLexeme_of_mem

/-- The seams in a list of segments are those inside the segments and those between neighbours. -/
theorem Spelled.isChain_lexemes_iff {pattern : Pattern} (h : pattern.Spelled) :
    pattern.lexemes.IsChain Seam ↔
      (∀ segment ∈ pattern, segment.lexemes.IsChain Seam) ∧ pattern.IsChain Segment.Apart := by
  have hne : [] ∉ pattern.map Segment.lexemes := by
    intro hmem
    rcases List.mem_map.mp hmem with ⟨segment, -, hnil⟩
    exact segment.lexemes_ne_nil hnil
  rw [lexemes_eq_flatten, List.isChain_flatten hne, List.forall_mem_map, List.isChain_map]
  apply and_congr_right
  intro _
  apply List.IsChain.iff_of_mem_imp
  intro left right hleft hright
  have hleftSpelled := h left hleft
  have hrightSpelled := h right hright
  obtain ⟨x, hx⟩ := Option.ne_none_iff_exists'.mp
    (mt List.getLast?_eq_none_iff.mp left.lexemes_ne_nil)
  obtain ⟨y, hy⟩ := Option.ne_none_iff_exists'.mp
    (mt List.head?_eq_none_iff.mp right.lexemes_ne_nil)
  have hxLexeme := hleftSpelled.isLexeme_of_mem x (List.mem_of_getLast? hx)
  have hyLexeme := hrightSpelled.isLexeme_of_mem y (List.mem_of_head? hy)
  simp only [hx, hy, Option.mem_def, Option.some.injEq, forall_eq']
  rw [seam_iff hxLexeme hyLexeme, ← hleftSpelled.isRun_iff (.inl hx),
    ← hrightSpelled.isRun_iff (.inr hy)]
  rfl

/-- The lexemes of the tree are lexemes of its text as well, and none of them is a lone colon. -/
structure Legible (pattern : Pattern) : Prop where
  spelled : pattern.Spelled
  colon : [':'] ∉ pattern.lexemes
  seams : pattern.lexemes.IsChain Seam

theorem legible_iff {pattern : Pattern} :
    pattern.Legible ↔
      (∀ segment ∈ pattern, Legible [segment]) ∧ pattern.IsChain Segment.Apart := by
  have hspelled : ∀ segment, Spelled [segment] ↔ segment.Spelled := by simp [Spelled]
  have hcolon : [':'] ∉ pattern.lexemes ↔ ∀ segment ∈ pattern, [':'] ∉ segment.lexemes := by
    simp [lexemes_eq_flatten]
  constructor
  · intro h
    rcases h.spelled.isChain_lexemes_iff.mp h.seams with ⟨hseams, hapart⟩
    refine ⟨fun segment hmem => ⟨?_, ?_, ?_⟩, hapart⟩
    · exact (hspelled segment).mpr (h.spelled segment hmem)
    · simpa using hcolon.mp h.colon segment hmem
    · simpa using hseams segment hmem
  · intro h
    rcases h with ⟨hsegments, hapart⟩
    have hall : pattern.Spelled :=
      fun segment hmem => (hspelled segment).mp (hsegments segment hmem).spelled
    refine ⟨hall, ?_, ?_⟩
    · apply hcolon.mpr
      intro segment hmem
      simpa using (hsegments segment hmem).colon
    · apply hall.isChain_lexemes_iff.mpr
      refine ⟨?_, hapart⟩
      intro segment hmem
      simpa using (hsegments segment hmem).seams

theorem legible_group_iff {children : Pattern} :
    Legible [.group children] ↔ children.Legible := by
  have hspelled : Spelled [.group children] ↔ children.Spelled := by
    constructor
    · intro h
      cases h (.group children) (List.mem_singleton.mpr rfl) with
      | group hchildren => exact hchildren
    · intro h
      simpa [Spelled] using Segment.Spelled.group h
  have hlexemes : Pattern.lexemes [.group children] = ['('] :: (children.lexemes ++ [[')']]) := by
    simp [Segment.lexemes]
  have hcolon : [':'] ∉ Pattern.lexemes [.group children] ↔ [':'] ∉ children.lexemes := by
    simp [hlexemes]
  have hseams : children.Spelled →
      ((Pattern.lexemes [.group children]).IsChain Seam ↔ children.lexemes.IsChain Seam) := by
    intro h
    have hne : ∀ lexeme ∈ children.lexemes, lexeme ≠ [] :=
      fun lexeme hmem => (isLexeme_iff.mp (h.isLexeme_of_mem lexeme hmem)).1
    have hopen : ∀ lexeme ∈ (children.lexemes ++ [[')']]).head?, Seam ['('] lexeme := by
      intro lexeme hhead
      rcases List.mem_append.mp (List.mem_of_head? hhead) with hinner | hclose
      · exact ⟨by simp, hne lexeme hinner, .inl rfl⟩
      · exact ⟨by simp, by simp [List.mem_singleton.mp hclose], .inl rfl⟩
    have hclose : ∀ lexeme ∈ children.lexemes.getLast?, Seam lexeme [')'] :=
      fun lexeme hlast => ⟨hne lexeme (List.mem_of_getLast? hlast), by simp, .inr rfl⟩
    rw [hlexemes, List.isChain_cons, List.isChain_append]
    constructor
    · intro hchain
      exact hchain.2.1
    · intro hchain
      refine ⟨hopen, hchain, List.isChain_singleton _, ?_⟩
      intro left hleft right hright
      obtain rfl : [')'] = right := Option.some.inj hright
      exact hclose left hleft
  constructor
  · intro h
    have hchildren := hspelled.mp h.spelled
    exact ⟨hchildren, hcolon.mp h.colon, (hseams hchildren).mp h.seams⟩
  · intro h
    exact ⟨hspelled.mpr h.spelled, hcolon.mpr h.colon, (hseams h.spelled).mpr h.seams⟩

theorem legible_text_iff {content : String} :
    Legible [.text content] ↔ content ≠ "" ∧
      (∀ c ∈ content.toList, isReserved c = false) ∧ content.toList.head? ≠ some ':' := by
  constructor
  · intro h
    cases h.spelled (.text content) (List.mem_singleton.mpr rfl) with
    | text hlexeme hkind =>
        refine ⟨?_, forall_not_reserved_of_text hlexeme hkind, ?_⟩
        · intro hempty
          subst hempty
          exact (isLexeme_iff.mp hlexeme).1 rfl
        · intro hcolon
          rcases List.head?_eq_some_iff.mp hcolon with ⟨rest, hrest⟩
          rw [hrest] at hkind
          cases rest with
          | nil => cases hkind
          | cons c cs => cases hkind
  · intro h
    rcases h with ⟨hne, hplain, hcolon⟩
    have hlexeme : IsLexeme content.toList := .inr ⟨mt String.toList_eq_nil_iff.mp hne, hplain⟩
    refine ⟨?_, ?_, ?_⟩
    · intro segment hmem
      rw [List.mem_singleton.mp hmem]
      exact .text hlexeme (ofLexeme?_eq_text hplain hcolon)
    · intro hmem
      have hcontent : content.toList = [':'] := by simpa [Segment.lexemes, eq_comm] using hmem
      exact hcolon (by rw [hcontent, List.head?_cons])
    · simp [Segment.lexemes]

theorem legible_var_iff {name : String} :
    Legible [.var name] ↔ name ≠ "" ∧ ∀ c ∈ name.toList, isReserved c = false := by
  constructor
  · intro h
    cases h.spelled (.var name) (List.mem_singleton.mpr rfl) with
    | var hlexeme =>
        refine ⟨?_, isLexeme_colon_cons_iff.mp hlexeme⟩
        intro hempty
        subst hempty
        exact h.colon (by simp [Segment.lexemes])
  · intro h
    rcases h with ⟨hne, hname⟩
    refine ⟨?_, ?_, ?_⟩
    · intro segment hmem
      rw [List.mem_singleton.mp hmem]
      exact .var (isLexeme_colon_cons_iff.mpr hname)
    · intro hmem
      have hempty : name.toList = [] := by simpa [Segment.lexemes] using hmem
      exact hne (String.toList_eq_nil_iff.mp hempty)
    · simp [Segment.lexemes]

end Pattern

theorem Segment.normal_iff {segment : Segment} :
    segment.Normal ↔ Pattern.Legible [segment] := by
  constructor
  · intro h
    induction h with
    | separator =>
        refine ⟨?_, by simp [Segment.lexemes], by simp [Segment.lexemes]⟩
        intro segment hmem
        rw [List.mem_singleton.mp hmem]
        exact .separator
    | text hne hplain hcolon => exact Pattern.legible_text_iff.mpr ⟨hne, hplain, hcolon⟩
    | var hne hplain => exact Pattern.legible_var_iff.mpr ⟨hne, hplain⟩
    | group hchildren hapart ih =>
        exact Pattern.legible_group_iff.mpr (Pattern.legible_iff.mpr ⟨ih, hapart⟩)
  · intro h
    have hspelled := h.spelled segment (List.mem_singleton.mpr rfl)
    induction hspelled with
    | separator => exact .separator
    | text hlexeme hkind =>
        rcases Pattern.legible_text_iff.mp h with ⟨hne, hplain, hcolon⟩
        exact .text hne hplain hcolon
    | var hlexeme =>
        rcases Pattern.legible_var_iff.mp h with ⟨hne, hplain⟩
        exact .var hne hplain
    | group hchildren ih =>
        rcases Pattern.legible_iff.mp (Pattern.legible_group_iff.mp h) with ⟨hall, hapart⟩
        exact .group (fun segment hmem => ih segment hmem (hall segment hmem)) hapart

theorem Pattern.normal_iff {pattern : Pattern} : pattern.Normal ↔ pattern.Legible := by
  rw [legible_iff, Normal]
  simp only [Segment.normal_iff]

theorem Pattern.Legible.lexemes_source {pattern : Pattern} (h : pattern.Legible) :
    Token.lexemes pattern.source.toList = pattern.lexemes :=
  lexemes_eq_iff.mpr ⟨pattern.toList_source.symm, h.spelled.isLexeme_of_mem, h.seams⟩

end PathTemplate
