import Mathlib
import PathTemplate.Proofs.Pattern.Diagnosis
import PathTemplate.Proofs.Pattern.Normal

/-!
# Patterns and their source

Parsing and writing a tree as text are inverse to each other.  Reading the tokens of a tree adds the
tree, segment by segment, to whatever has been read before, so the text of a normal tree parses to
the tree; and as the lexemes of a tree that has been parsed are those of the text, the tree is normal
and its text is the one that it came from.
-/

namespace PathTemplate

open Token

/-! ## Reading the tokens of a tree -/

theorem Token.Spells.exists_append {position : ℕ} {tokens : List Token}
    {before after : List (List Char)} (h : Spells position tokens (before ++ after)) :
    ∃ front back later, tokens = front ++ back ∧ Spells position front before ∧
      Spells later back after := by
  induction before generalizing position tokens with
  | nil => exact ⟨[], tokens, position, rfl, .nil, h⟩
  | cons lexeme rest ih =>
      cases h with
      | @cons position kind lexeme tokens parts hkind hrest =>
          rcases ih hrest with ⟨front, back, later, rfl, hfront, hback⟩
          exact ⟨⟨kind, position⟩ :: front, back, later, rfl, .cons hkind hfront, hback⟩

theorem Token.Spells.eq_singleton {position : ℕ} {tokens : List Token} {lexeme : List Char}
    (h : Spells position tokens [lexeme]) {kind : Kind}
    (hkind : Kind.ofLexeme? lexeme = some kind) : tokens = [⟨kind, position⟩] := by
  cases h with
  | cons hother hrest =>
      cases hrest with
      | nil =>
          obtain rfl := Option.some.inj (hother.symm.trans hkind)
          rfl

namespace Outline

theorem foldl_add_top (content : Array Segment) (segments : Pattern) :
    segments.foldl add ⟨content, []⟩ = ⟨(content.toList ++ segments).toArray, []⟩ := by
  induction segments generalizing content with
  | nil => simp
  | cons segment rest ih =>
      rw [List.foldl_cons]
      simpa [add] using ih (content.push segment)

theorem foldl_add_group (top content : Array Segment) (start : ℕ) (outer : List PartialGroup)
    (segments : Pattern) :
    segments.foldl add ⟨top, ⟨start, content⟩ :: outer⟩ =
      ⟨top, ⟨start, (content.toList ++ segments).toArray⟩ :: outer⟩ := by
  induction segments generalizing content with
  | nil => simp
  | cons segment rest ih =>
      rw [List.foldl_cons]
      simpa [add] using ih (content.push segment)

/-- A group that is opened, filled and closed has become a segment of what surrounds it. -/
theorem leaveGroup?_foldl_add (outline : Outline) (start : ℕ) (children : Pattern) :
    (children.foldl add (outline.enterGroup start)).leaveGroup? =
      some (outline.add (.group children)) := by
  rw [enterGroup, foldl_add_group]
  simp [leaveGroup?]

theorem complete_foldl_add (pattern : Pattern) :
    (pattern.foldl add empty).complete = .ok pattern := by
  rw [empty, foldl_add_top]
  simp [complete]

theorem foldlM_step_of_forall {pattern : Pattern}
    (h : ∀ segment ∈ pattern, ∀ {position tokens}, Spells position tokens segment.lexemes →
      ∀ outline, tokens.foldlM step outline = .ok (outline.add segment))
    {position : ℕ} {tokens : List Token} (hspells : Spells position tokens pattern.lexemes)
    (outline : Outline) : tokens.foldlM step outline = .ok (pattern.foldl add outline) := by
  induction pattern generalizing position tokens outline with
  | nil =>
      rw [Pattern.lexemes_nil] at hspells
      cases hspells with
      | nil => rfl
  | cons segment rest ih =>
      rw [Pattern.lexemes_cons] at hspells
      rcases hspells.exists_append with ⟨front, back, later, rfl, hfront, hback⟩
      have hfirst := h segment List.mem_cons_self hfront outline
      have hrest := ih (fun other hmem => h other (List.mem_cons_of_mem segment hmem)) hback
        (outline.add segment)
      rw [List.foldlM_append, hfirst]
      exact hrest

/-- Reading the tokens of a segment adds the segment, whatever groups are open at the time. -/
theorem foldlM_step_segment {segment : Segment} (h : segment.Normal) :
    ∀ {position tokens}, Spells position tokens segment.lexemes →
      ∀ outline, tokens.foldlM step outline = .ok (outline.add segment) := by
  -- the tokens of a group open it around an outline of its own, to which the members are added
  induction h with
  | separator =>
      intro position tokens hspells outline
      have hslash : Kind.ofLexeme? ['/'] = some .separator := rfl
      have htokens := hspells.eq_singleton hslash
      subst htokens
      rfl
  | text hne hplain hcolon =>
      intro position tokens hspells outline
      obtain rfl := hspells.eq_singleton (ofLexeme?_eq_text hplain hcolon)
      rfl
  | var hne hplain =>
      intro position tokens hspells outline
      obtain rfl := hspells.eq_singleton (ofLexeme?_eq_var hne)
      rfl
  | @group children hchildren hapart ih =>
      intro position tokens hspells outline
      have hsplit : (Segment.group children).lexemes =
          [['(']] ++ (children.lexemes ++ [[')']]) := by
        simp [Segment.lexemes]
      rw [hsplit] at hspells
      rcases hspells.exists_append with ⟨front, back, later, rfl, hopen, hrest⟩
      rcases hrest.exists_append with ⟨inner, last, final, rfl, hinner, hclose⟩
      have hopening : Kind.ofLexeme? ['('] = some .groupOpen := rfl
      have hclosing : Kind.ofLexeme? [')'] = some .groupClose := rfl
      have hfront := hopen.eq_singleton hopening
      have hlast := hclose.eq_singleton hclosing
      subst hfront hlast
      have hfilled := foldlM_step_of_forall ih hinner (outline.enterGroup position)
      have hleave := leaveGroup?_foldl_add outline position children
      have hentered : List.foldlM step outline [⟨.groupOpen, position⟩] =
          .ok (outline.enterGroup position) := rfl
      have hleft : List.foldlM step (children.foldl add (outline.enterGroup position))
          [⟨.groupClose, final⟩] = .ok (outline.add (.group children)) := by
        rw [List.foldlM_cons, step, hleave]
        rfl
      rw [List.foldlM_append, hentered]
      change List.foldlM step (outline.enterGroup position) (inner ++ [_]) = _
      rw [List.foldlM_append, hfilled]
      exact hleft

end Outline

namespace Pattern

theorem foldlM_step {pattern : Pattern} (h : pattern.Normal) {position : ℕ} {tokens : List Token}
    (hspells : Spells position tokens pattern.lexemes) (outline : Outline) :
    tokens.foldlM Outline.step outline = .ok (pattern.foldl Outline.add outline) :=
  Outline.foldlM_step_of_forall
    (fun segment hmem => Outline.foldlM_step_segment (h.1 segment hmem)) hspells outline

theorem parse_source_eq_ok {pattern : Pattern} (h : pattern.Normal) :
    parse pattern.source = .ok pattern := by
  have hlegible := normal_iff.mp h
  have hlexemes := hlegible.lexemes_source
  have hcolon : [':'] ∉ Token.lexemes pattern.source.toList := by
    rw [hlexemes]
    exact hlegible.colon
  rcases scan_eq_ok hcolon with ⟨tokens, hscan, hspells⟩
  rw [hlexemes] at hspells
  have hrun := foldlM_step h hspells Outline.empty
  rw [parse, hscan]
  change tokens.foldlM Outline.step Outline.empty >>= Outline.complete = _
  rw [hrun]
  exact Outline.complete_foldl_add pattern

theorem source_of_parse_eq_ok {raw : String} {pattern : Pattern} (h : parse raw = .ok pattern) :
    pattern.source = raw := by
  have hlexemes := (spelled_of_parse_eq_ok h).2
  rw [← String.toList_inj, toList_source, hlexemes, flatten_lexemes]

theorem normal_of_parse_eq_ok {raw : String} {pattern : Pattern} (h : parse raw = .ok pattern) :
    pattern.Normal := by
  have hverdict := verdict_parse raw
  rw [h] at hverdict
  cases hverdict with
  | wellFormed hcolon hspelled hlexemes =>
      refine normal_iff.mpr ⟨hspelled, ?_, ?_⟩
      · rw [hlexemes, ← exists_loneColon_iff]
        exact hcolon
      · rw [hlexemes]
        exact (lexemes_eq_iff.mp rfl).2.2

/-- The trees that parsing brings about are the normal ones, and each of them is what its text
parses to. -/
theorem exists_parse_eq_ok_iff_normal (pattern : Pattern) :
    ((∃ raw, parse raw = .ok pattern) ↔ pattern.Normal) ∧
      (pattern.Normal → parse pattern.source = .ok pattern) := by
  refine ⟨⟨?_, ?_⟩, parse_source_eq_ok⟩
  · intro hparsed
    rcases hparsed with ⟨raw, hparse⟩
    exact normal_of_parse_eq_ok hparse
  · intro hnormal
    exact ⟨pattern.source, parse_source_eq_ok hnormal⟩

/-- A tree is written as the text that it was parsed from, character for character, so two texts
never parse to one tree. -/
theorem source_eq_of_parse {raw : String} {pattern : Pattern} (h : parse raw = .ok pattern) :
    pattern.source = raw ∧ ∀ other, parse other = .ok pattern → other = raw := by
  have hsource := source_of_parse_eq_ok h
  refine ⟨hsource, ?_⟩
  intro other hother
  rw [← source_of_parse_eq_ok hother, hsource]

/-- Separators side by side, an empty group, and a name that starts with a colon. -/
theorem source_eq_of_parse_nested :
    ∃ pattern, parse "//a:b()((é/::c):d)" = .ok pattern ∧
      pattern.source = "//a:b()((é/::c):d)" := by
  have hparse : parse "//a:b()((é/::c):d)" =
      .ok [.separator, .separator, .text "a:b", .group [],
        .group [.group [.text "é", .separator, .var ":c"], .var "d"]] := by
    decide +kernel
  exact ⟨_, hparse, (source_eq_of_parse hparse).1⟩

end Pattern

end PathTemplate
