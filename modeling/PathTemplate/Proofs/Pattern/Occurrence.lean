import PathTemplate.Proofs.Pattern.Source

/-!
# Variables as they occur in the text

A text is read from left to right, one character at a time, with a counter of the groups that are
open.  Where a run of unreserved characters starts with a colon, the rest of the run is the name of
a variable, which occurs at the depth that the counter shows.

The tree of a pattern has the same occurrences in the same order, since the text of a segment leaves
the counter as it was and that of a group is read with one more group open.  The names that occur at
depth zero are therefore the required ones, and the names that only occur further down are optional.
-/

namespace PathTemplate

structure Occurrence where
  /-- The number of groups that the variable stands in. -/
  depth : ℤ
  name : String
  deriving Repr, DecidableEq

namespace Occurrence

/-- Reads a text from some depth on.  A run may start where `fresh` is true, which is at the start
of the text and after each reserved character. -/
def ofText (depth : ℤ) (fresh : Bool) : List Char → List Occurrence
  | [] => []
  | c :: rest =>
    let later := ofText (depth + parens.weight c) (isReserved c) rest
    if fresh = true ∧ c = ':' then
      ⟨depth, String.ofList (rest.takeWhile fun d => !isReserved d)⟩ :: later
    else
      later

/-- The names at depth zero, in the order of the text. -/
def namesOutside (text : List Char) : List String :=
  ((ofText 0 true text).filter fun occurrence => occurrence.depth = 0).map name

/-- The names at depth one or more, in the order of the text. -/
def namesInside (text : List Char) : List String :=
  ((ofText 0 true text).filter fun occurrence => 0 < occurrence.depth).map name

mutual

def ofSegment (depth : ℤ) : Segment → List Occurrence
  | .var name => [⟨depth, name⟩]
  | .group children => ofPattern (depth + 1) children
  | .separator => []
  | .text _ => []

def ofPattern (depth : ℤ) : Pattern → List Occurrence
  | [] => []
  | segment :: rest => ofSegment depth segment ++ ofPattern depth rest

end

/-! ## Runs -/

/-- What comes before the text ends there, since no run goes on into it. -/
def StartsReserved (text : List Char) : Prop :=
  ∀ c ∈ text.head?, isReserved c = true

theorem ofText_fresh {after : List Char} (h : StartsReserved after) (depth : ℤ) :
    ofText depth false after = ofText depth true after := by
  cases after with
  | nil => rfl
  | cons c rest =>
      have hc : isReserved c = true := h c rfl
      have hcolon : c ≠ ':' := by
        intro heq
        subst heq
        cases hc
      simp [ofText, hcolon]

theorem weight_eq_zero {c : Char} (h : isReserved c = false) : parens.weight c = 0 := by
  have hne : c ≠ '(' ∧ c ≠ ')' := by
    constructor <;>
    · intro heq
      subst heq
      cases h
  simp [Parens.weight, parens, hne]

/-- Within a run nothing occurs. -/
theorem ofText_run {run after : List Char} (hrun : ∀ c ∈ run, isReserved c = false)
    (hafter : StartsReserved after) (depth : ℤ) :
    ofText depth false (run ++ after) = ofText depth true after := by
  induction run with
  | nil => exact ofText_fresh hafter depth
  | cons c rest ih =>
      have hc : isReserved c = false := hrun c List.mem_cons_self
      rw [List.cons_append, ofText, weight_eq_zero hc, hc, add_zero,
        ih (fun d hd => hrun d (List.mem_cons_of_mem c hd))]
      simp

theorem takeWhile_run {run after : List Char} (hrun : ∀ c ∈ run, isReserved c = false)
    (hafter : StartsReserved after) :
    ((run ++ after).takeWhile fun d => !isReserved d) = run := by
  have hplain : ∀ c ∈ run, (!isReserved c) = true := by simpa using hrun
  rw [List.takeWhile_append_of_pos hplain]
  cases after with
  | nil => simp
  | cons c rest =>
      have hc : isReserved c = true := hafter c rfl
      simp [hc]

/-! ## The text and the tree -/

theorem startsReserved_source {segment : Segment} (h : segment.isRun = false)
    (after : List Char) : StartsReserved (segment.source.toList ++ after) := by
  cases segment with
  | separator => simp [StartsReserved, Segment.source, isReserved]
  | text content => cases h
  | var name => cases h
  | group children => simp [StartsReserved, Segment.source, isReserved]

theorem ofText_source_of_forall {pattern : Pattern}
    (h : ∀ segment ∈ pattern, ∀ depth after,
      (segment.isRun = true → StartsReserved after) →
      ofText depth true (segment.source.toList ++ after) =
        ofSegment depth segment ++ ofText depth true after)
    (hapart : pattern.IsChain Segment.Apart) (depth : ℤ) {after : List Char}
    (hafter : StartsReserved after) :
    ofText depth true (pattern.source.toList ++ after) =
      ofPattern depth pattern ++ ofText depth true after := by
  induction pattern with
  | nil => simp [Pattern.source, ofPattern]
  | cons segment rest ih =>
      have hnext : segment.isRun = true →
          StartsReserved ((Pattern.source rest).toList ++ after) := by
        intro hrun
        cases rest with
        | nil => simpa [Pattern.source] using hafter
        | cons next more =>
            have hneighbour := (List.isChain_cons_cons.mp hapart).1
            have hother : next.isRun = false := by simpa [Segment.Apart, hrun] using hneighbour
            rw [Pattern.source, String.toList_append, List.append_assoc]
            exact startsReserved_source hother _
      have hrest := ih (fun other hmem => h other (List.mem_cons_of_mem segment hmem)) hapart.tail
      rw [Pattern.source, String.toList_append, List.append_assoc,
        h segment List.mem_cons_self depth _ hnext, hrest, ofPattern, List.append_assoc]

theorem ofText_source_segment {segment : Segment} (h : segment.Normal) :
    ∀ depth after, (segment.isRun = true → StartsReserved after) →
      ofText depth true (segment.source.toList ++ after) =
        ofSegment depth segment ++ ofText depth true after := by
  induction h with
  | separator =>
      intro depth after hafter
      simp [Segment.source, ofText, ofSegment, isReserved, Parens.weight, parens]
  | @text content hne hplain hcolon =>
      intro depth after hafter
      obtain ⟨c, rest, hcontent⟩ := List.exists_cons_of_ne_nil (mt String.toList_eq_nil_iff.mp hne)
      rw [hcontent] at hplain hcolon
      have hc : c ≠ ':' := by simpa using hcolon
      have hreserved : isReserved c = false := hplain c List.mem_cons_self
      have hrest := ofText_run (fun d hd => hplain d (List.mem_cons_of_mem c hd)) (hafter rfl) depth
      rw [Segment.source, hcontent, List.cons_append, ofText, weight_eq_zero hreserved, hreserved,
        add_zero, hrest]
      simp [hc, ofSegment]
  | @var name hne hplain =>
      intro depth after hafter
      have hcolon : isReserved ':' = false := rfl
      have hrest := ofText_run hplain (hafter rfl) depth
      have hsource : (Segment.var name).source.toList ++ after = ':' :: (name.toList ++ after) := by
        simp [Segment.source]
      rw [hsource, ofText, weight_eq_zero hcolon, hcolon, add_zero, hrest,
        takeWhile_run hplain (hafter rfl)]
      simp [ofSegment]
  | @group children hchildren hapart ih =>
      intro depth after hafter
      have hclosing : StartsReserved (')' :: after) := by simp [StartsReserved, isReserved]
      have hinner := ofText_source_of_forall ih hapart (depth + 1) hclosing
      have hsource : (Segment.group children).source.toList ++ after =
          '(' :: ((Pattern.source children).toList ++ ')' :: after) := by
        simp [Segment.source]
      have hopen : parens.weight '(' = 1 ∧ isReserved '(' = true := ⟨rfl, rfl⟩
      have hclose : parens.weight ')' = -1 ∧ isReserved ')' = true := ⟨rfl, rfl⟩
      rw [hsource, ofText, hopen.1, hopen.2, hinner, ofText, hclose.1, hclose.2]
      simp [ofSegment]

theorem ofText_source {pattern : Pattern} (h : pattern.Normal) (depth : ℤ) :
    ofText depth true pattern.source.toList = ofPattern depth pattern := by
  have hempty : StartsReserved [] := by simp [StartsReserved]
  simpa [ofText] using ofText_source_of_forall
    (fun segment hmem => ofText_source_segment (h.1 segment hmem)) h.2 depth hempty

/-! ## Names by depth -/

mutual

theorem map_name_ofSegment (depth : ℤ) :
    ∀ segment, (ofSegment depth segment).map name = segment.names
  | .separator => rfl
  | .text _ => rfl
  | .var _ => rfl
  | .group children => map_name_ofPattern (depth + 1) children

theorem map_name_ofPattern (depth : ℤ) :
    ∀ pattern, (ofPattern depth pattern).map name = Pattern.names pattern
  | [] => rfl
  | segment :: rest => by
      rw [ofPattern, List.map_append, map_name_ofSegment depth segment,
        map_name_ofPattern depth rest, Pattern.names]

end

mutual

theorem le_depth_of_mem_ofSegment {depth : ℤ} {occurrence : Occurrence} :
    ∀ segment, occurrence ∈ ofSegment depth segment → depth ≤ occurrence.depth
  | .separator, hmem => by simp [ofSegment] at hmem
  | .text _, hmem => by simp [ofSegment] at hmem
  | .var name, hmem => by
      rw [ofSegment, List.mem_singleton] at hmem
      rw [hmem]
  | .group children, hmem => by
      have hinner : depth + 1 ≤ occurrence.depth := le_depth_of_mem_ofPattern children hmem
      omega

theorem le_depth_of_mem_ofPattern {depth : ℤ} {occurrence : Occurrence} :
    ∀ pattern, occurrence ∈ ofPattern depth pattern → depth ≤ occurrence.depth
  | [], hmem => by simp [ofPattern] at hmem
  | segment :: rest, hmem => by
      rcases List.mem_append.mp hmem with hfirst | hlater
      · exact le_depth_of_mem_ofSegment segment hfirst
      · exact le_depth_of_mem_ofPattern rest hlater

end

/-- What the segment adds to the names at depth zero, and to those below. -/
theorem filter_ofSegment (segment : Segment) :
    ((ofSegment 0 segment).filter fun occurrence => occurrence.depth = 0).map name =
        Pattern.directNames [segment] ∧
      ((ofSegment 0 segment).filter fun occurrence => 0 < occurrence.depth).map name =
        segment.groupedNames := by
  cases segment with
  | separator => exact ⟨rfl, rfl⟩
  | text content => exact ⟨rfl, rfl⟩
  | var name => exact ⟨rfl, rfl⟩
  | group children =>
      have hdepth : ∀ occurrence ∈ ofPattern 1 children, 1 ≤ occurrence.depth :=
        fun occurrence => le_depth_of_mem_ofPattern children
      have houtside :
          (ofPattern 1 children).filter (fun occurrence => occurrence.depth = 0) = [] := by
        apply List.filter_eq_nil_iff.mpr
        intro occurrence hmem
        have hle := hdepth occurrence hmem
        simp only [decide_eq_true_eq]
        omega
      have hinside : (ofPattern 1 children).filter (fun occurrence => 0 < occurrence.depth) =
          ofPattern 1 children := by
        apply List.filter_eq_self.mpr
        intro occurrence hmem
        have hle := hdepth occurrence hmem
        simp only [decide_eq_true_eq]
        omega
      rw [ofSegment, zero_add, houtside, hinside, map_name_ofPattern]
      exact ⟨rfl, rfl⟩

theorem filter_ofPattern (pattern : Pattern) :
    ((ofPattern 0 pattern).filter fun occurrence => occurrence.depth = 0).map name =
        pattern.directNames ∧
      ((ofPattern 0 pattern).filter fun occurrence => 0 < occurrence.depth).map name =
        pattern.groupedNames := by
  induction pattern with
  | nil => exact ⟨rfl, rfl⟩
  | cons segment rest ih =>
      obtain ⟨houtside, hinside⟩ := filter_ofSegment segment
      rw [ofPattern, List.filter_append, List.filter_append, List.map_append, List.map_append,
        houtside, hinside, ih.1, ih.2, Pattern.directNames_cons segment rest,
        Pattern.groupedNames_cons]
      exact ⟨rfl, rfl⟩

theorem names_of_parse {raw : String} {pattern : Pattern} (h : Pattern.parse raw = .ok pattern) :
    namesOutside raw.toList = pattern.directNames ∧
      namesInside raw.toList = pattern.groupedNames := by
  have htext : ofText 0 true raw.toList = ofPattern 0 pattern := by
    rw [← Pattern.source_of_parse_eq_ok h, ofText_source (Pattern.normal_of_parse_eq_ok h)]
  rw [namesOutside, namesInside, htext]
  exact filter_ofPattern pattern

end Occurrence

open Occurrence

/-- A pattern can be compiled with any defaults, and the variables that it then declares can be read
off its text with a counter of the open groups.  The required ones are those that occur at depth
zero, the optional ones those that occur further down and nowhere at depth zero, before or after;
each is listed where it occurs first. -/
theorem Template.declared_eq_of_text {raw : String} {pattern : Pattern}
    (hparse : Pattern.parse raw = .ok pattern) :
    let outside := namesOutside raw.toList
    let inside := namesInside raw.toList
    (∀ defaults slash, ∃ template, compile raw defaults ⟨.ignore, slash⟩ = .ok template) ∧
    ∀ defaults settings template, compile raw defaults settings = .ok template →
      template.declared.required = outside.eraseDups ∧
      template.declared.optional = inside.eraseDups.filter fun name => name ∉ outside := by
  intro outside inside
  obtain ⟨houtside, hinside⟩ := names_of_parse hparse
  constructor
  · intro defaults slash
    exact ⟨_, compile_ignore_of_parse_eq_ok hparse defaults slash⟩
  · intro defaults settings template hcompile
    obtain ⟨other, hother, rfl⟩ := eq_of_compile_eq_ok hcompile
    obtain rfl := Except.ok.inj (hparse.symm.trans hother)
    rw [Variables.required_ofPattern, Variables.optional_ofPattern, ← houtside, ← hinside]
    exact ⟨rfl, rfl⟩

/-- A name that occurs in a group before it occurs outside, and one with a colon inside. -/
theorem Template.declared_eq_of_text_of_nested :
    ∃ template, compile "(/:b(:a)é/:c:d)/:c(:c:d(:b))" {} .default = .ok template ∧
      namesInside "(/:b(:a)é/:c:d)/:c(:c:d(:b))".toList = ["b", "a", "c:d", "c:d", "b"] ∧
      template.declared.required = ["c"] ∧ template.declared.optional = ["b", "a", "c:d"] := by
  have hparse : Pattern.parse "(/:b(:a)é/:c:d)/:c(:c:d(:b))" =
      .ok [.group [.separator, .var "b", .group [.var "a"], .text "é", .separator, .var "c:d"],
        .separator, .var "c", .group [.var "c:d", .group [.var "b"]]] := by
    decide +kernel
  obtain ⟨hcompiles, hdeclared⟩ := declared_eq_of_text hparse
  obtain ⟨template, htemplate⟩ := hcompiles {} false
  obtain ⟨hrequired, hoptional⟩ := hdeclared {} .default template htemplate
  have houtside : namesOutside "(/:b(:a)é/:c:d)/:c(:c:d(:b))".toList = ["c"] := by decide +kernel
  have hinside : namesInside "(/:b(:a)é/:c:d)/:c(:c:d(:b))".toList =
      ["b", "a", "c:d", "c:d", "b"] := by decide +kernel
  refine ⟨template, htemplate, hinside, ?_, ?_⟩
  · rw [hrequired, houtside]
    rfl
  · rw [hoptional, hinside, houtside]
    rfl

end PathTemplate
