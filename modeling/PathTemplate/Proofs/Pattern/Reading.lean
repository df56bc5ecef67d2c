import Mathlib
import PathTemplate.Proofs.Pattern.Tokens

/-!
# What an outline keeps of the tokens read

An outline can be written as text at any time, its open groups without the parentheses that would
close them.  Each step adds the source of its token to the end of that text, also where a closing
parenthesis moves a group into what surrounds it.  So nothing that has been read is lost, and the
offsets kept with the open groups are those of the parentheses in the text read so far that nothing
in it closes.
-/

namespace PathTemplate

open Token

/-! ## Outlines as text -/

/-- The text of an open group, as far as it has been read. -/
def PartialGroup.source (group : PartialGroup) : String :=
  "(" ++ Pattern.source group.content.toList

theorem Pattern.source_push (content : Array Segment) (segment : Segment) :
    Pattern.source (content.push segment).toList =
      Pattern.source content.toList ++ segment.source := by
  rw [Array.toList_push, source_append]
  simp [Pattern.source]

namespace Outline

/-- The text of the top level, and then that of each open group, the outermost first. -/
def source (outline : Outline) : String :=
  Pattern.source outline.top.toList ++
    String.join (outline.groups.reverse.map PartialGroup.source)

/-- The offsets kept with the open groups, the outermost first. -/
def starts (outline : Outline) : List ℕ :=
  outline.groups.reverse.map PartialGroup.start

@[simp] theorem source_empty : empty.source = "" := by
  simp [source, empty, Pattern.source]

theorem source_of_no_group (top : Array Segment) :
    source ⟨top, []⟩ = Pattern.source top.toList := by
  simp [source]

theorem source_of_group (top : Array Segment) (group : PartialGroup)
    (outer : List PartialGroup) :
    source ⟨top, group :: outer⟩ = source ⟨top, outer⟩ ++ group.source := by
  simp [source, String.append_assoc]

theorem source_add (outline : Outline) (segment : Segment) :
    (outline.add segment).source = outline.source ++ segment.source := by
  rcases outline with ⟨top, groups⟩
  cases groups with
  | nil =>
      have hadded : add ⟨top, []⟩ segment = ⟨top.push segment, []⟩ := rfl
      rw [hadded, source_of_no_group, source_of_no_group, Pattern.source_push]
  | cons group outer =>
      have hadded : add ⟨top, group :: outer⟩ segment =
          ⟨top, ⟨group.start, group.content.push segment⟩ :: outer⟩ := rfl
      rw [hadded, source_of_group, source_of_group, PartialGroup.source, Pattern.source_push,
        PartialGroup.source, String.append_assoc, String.append_assoc]

theorem source_enterGroup (outline : Outline) (start : ℕ) :
    (outline.enterGroup start).source = outline.source ++ "(" := by
  have hentered : outline.enterGroup start = ⟨outline.top, ⟨start, #[]⟩ :: outline.groups⟩ := rfl
  rw [hentered, source_of_group, PartialGroup.source]
  simp [Pattern.source]

/-- The group that is closed moves into what surrounds it, where its text already stood. -/
theorem source_leaveGroup {outline outer : Outline} (h : outline.leaveGroup? = some outer) :
    outer.source = outline.source ++ ")" := by
  rcases outline with ⟨top, groups⟩
  cases groups with
  | nil => cases h
  | cons group groups =>
      obtain rfl := Option.some.inj h
      rw [source_add, source_of_group, Segment.source, PartialGroup.source]
      simp only [String.append_assoc]

/-! ## Reading tokens -/

/-- One token: whatever it is, and however many groups are open, its source is added at the end. -/
theorem source_step {outline next : Outline} {token : Token}
    (h : outline.step token = .ok next) : next.source = outline.source ++ token.source := by
  rcases token with ⟨kind, position⟩
  cases kind with
  | separator =>
      obtain rfl := Except.ok.inj h
      exact outline.source_add .separator
  | text content =>
      obtain rfl := Except.ok.inj h
      exact outline.source_add (.text content)
  | var name =>
      obtain rfl := Except.ok.inj h
      exact outline.source_add (.var name)
  | groupOpen =>
      obtain rfl := Except.ok.inj h
      exact outline.source_enterGroup position
  | groupClose =>
      cases hleave : outline.leaveGroup? with
      | none => simp [step, hleave] at h
      | some outer =>
          simp only [step, hleave] at h
          obtain rfl := Except.ok.inj h
          exact source_leaveGroup hleave

/-- All tokens: what they spell is added at the end. -/
theorem source_foldlM {outline final : Outline} {tokens : List Token}
    (h : tokens.foldlM step outline = .ok final) :
    final.source = outline.source ++ textOf tokens := by
  induction tokens generalizing outline with
  | nil =>
      obtain rfl := Except.ok.inj h
      simp
  | cons token rest ih =>
      rw [List.foldlM_cons] at h
      cases hstep : outline.step token with
      | error fault =>
          rw [hstep] at h
          cases h
      | ok next =>
          rw [hstep] at h
          rw [ih h, source_step hstep, textOf_cons, String.append_assoc]

end Outline

theorem byteSize_lt_of_concat_prefix {before text : List Char} {c : Char}
    (h : before ++ [c] <+: text) : byteSize before < byteSize text := by
  rcases h with ⟨rest, rfl⟩
  have hpos : 0 < byteSize [c] := byteSize_pos (List.cons_ne_nil c [])
  rw [byteSize_append, byteSize_append]
  omega

/-- The first tokens of a text spell lexemes from its start on, wherever they are cut off. -/
theorem Token.Cuts.spells_left {before after : List Token} {raw : String}
    (h : Cuts (before ++ after) raw) : Spells 0 before (spellings before) := by
  apply spells_of_placed
  · intro token hmem
    exact h.legible token (List.mem_append_left after hmem)
  · intro first token rest hsplit
    have hplace := h.placed first token (rest ++ after) (by simp [hsplit])
    rw [hplace, Nat.zero_add]

namespace Outline

theorem reads_of_scan {raw : String} {before after : List Token} {outline : Outline}
    (hscan : scan raw = .ok (before ++ after))
    (hread : before.foldlM step empty = .ok outline) : outline.Reads (spellings before) := by
  have hcuts := scan_eq_ok_iff_cuts.mp hscan
  have hlexemes := isLexeme_of_mem_spellings fun token hmem =>
    hcuts.legible token (List.mem_append_left after hmem)
  rcases reads_empty.foldlM hcuts.spells_left rfl hlexemes with
    ⟨final, hfinal, hreads⟩ | ⟨_, _, _, _, hfault⟩
  · obtain rfl := Except.ok.inj (hread.symm.trans hfinal)
    exact hreads
  · rw [hread] at hfault
    cases hfault

/-! ## Groups left open -/

theorem Reads.exists_starts_eq {outline : Outline} {done : List (List Char)}
    (h : outline.Reads done) :
    ∃ fronts, parens.Cut done.flatten fronts ∧ outline.starts = (fronts.map byteSize).reverse := by
  rcases h.exists_cut with ⟨fronts, hcut, hstarts⟩
  refine ⟨fronts, hcut, ?_⟩
  rw [starts, List.map_reverse, hstarts]

theorem Reads.pairwise_starts {outline : Outline} {done : List (List Char)}
    (h : outline.Reads done) : outline.starts.Pairwise (· < ·) := by
  rcases h.exists_starts_eq with ⟨fronts, hcut, hstarts⟩
  rw [hstarts, List.pairwise_reverse, List.pairwise_map]
  exact hcut.pairwise_fronts.imp byteSize_lt_of_concat_prefix

theorem Reads.mem_starts_iff {outline : Outline} {done : List (List Char)}
    (h : outline.Reads done) (position : ℕ) :
    position ∈ outline.starts ↔ ∃ place, parens.Unclosed done.flatten place ∧
      position = byteSize (done.flatten.take place) := by
  rcases h.exists_starts_eq with ⟨fronts, hcut, hstarts⟩
  rw [hstarts, List.mem_reverse]
  -- the place of an unclosed parenthesis is the length of what stands before it
  constructor
  · intro hmem
    rcases List.mem_map.mp hmem with ⟨front, hfront, rfl⟩
    have hplace := (hcut.mem_iff_unclosed front.length).mp (List.mem_map_of_mem hfront)
    exact ⟨front.length, hplace, by rw [hcut.take_length hfront]⟩
  · intro hunclosed
    rcases hunclosed with ⟨place, hplace, rfl⟩
    rcases List.mem_map.mp ((hcut.mem_iff_unclosed place).mpr hplace) with ⟨front, hfront, rfl⟩
    rw [hcut.take_length hfront]
    exact List.mem_map_of_mem hfront

/-- Wherever the reading of a text stands, the outline is written as the text read so far, and what
the tokens to come spell is the rest of the text.  The offsets kept with the open groups, the
outermost first, are in increasing order those of the opening parentheses that nothing in the text
read so far closes. -/
theorem source_and_starts_of_foldlM {raw : String} {before after : List Token}
    {outline : Outline} (hscan : scan raw = .ok (before ++ after))
    (hread : before.foldlM step empty = .ok outline) :
    let done := (textOf before).toList
    outline.source = textOf before ∧ outline.source ++ textOf after = raw ∧
      outline.starts.Pairwise (· < ·) ∧
      ∀ position, position ∈ outline.starts ↔
        ∃ place, parens.Unclosed done place ∧ position = byteSize (done.take place) := by
  intro done
  have hsource : outline.source = textOf before := by
    rw [source_foldlM hread, source_empty, String.empty_append]
  have hraw : outline.source ++ textOf after = raw := by
    rw [hsource, ← textOf_append]
    exact (scan_eq_ok_iff_cuts.mp hscan).spelled
  have hreads := reads_of_scan hscan hread
  have hstarts := hreads.mem_starts_iff
  rw [flatten_spellings] at hstarts
  exact ⟨hsource, hraw, hreads.pairwise_starts, hstarts⟩

/-- A group that is closed again between two that are not, and characters of two bytes. -/
theorem source_and_starts_of_foldlM_of_nested :
    ∃ before after : List Token, ∃ outline : Outline,
      scan "é(a(:b)/ü(:c/)" = .ok (before ++ after) ∧
      before.foldlM step empty = .ok outline ∧
      outline.source = "é(a(:b)/ü(:c" ∧ "é(a(:b)/ü(:c" ++ textOf after = "é(a(:b)/ü(:c/)" ∧
      outline.starts = [2, 11] ∧
      ∀ position, position ∈ [2, 11] ↔ ∃ place, parens.Unclosed "é(a(:b)/ü(:c".toList place ∧
        position = byteSize ("é(a(:b)/ü(:c".toList.take place) := by
  let before : List Token :=
    [⟨.text "é", 0⟩, ⟨.groupOpen, 2⟩, ⟨.text "a", 3⟩, ⟨.groupOpen, 4⟩, ⟨.var "b", 5⟩,
      ⟨.groupClose, 7⟩, ⟨.separator, 8⟩, ⟨.text "ü", 9⟩, ⟨.groupOpen, 11⟩, ⟨.var "c", 12⟩]
  let after : List Token := [⟨.separator, 14⟩, ⟨.groupClose, 15⟩]
  let outline : Outline :=
    ⟨#[.text "é"], [⟨11, #[.var "c"]⟩,
      ⟨2, #[.text "a", .group [.var "b"], .separator, .text "ü"]⟩]⟩
  have hscan : scan "é(a(:b)/ü(:c/)" = .ok (before ++ after) := by cbv
  have hread : before.foldlM step empty = .ok outline := rfl
  have hstarts : outline.starts = [2, 11] := rfl
  have htext : textOf before = "é(a(:b)/ü(:c" := by decide
  rcases source_and_starts_of_foldlM hscan hread with ⟨hsource, hraw, -, hopen⟩
  rw [htext] at hsource hopen
  rw [hsource] at hraw
  rw [hstarts] at hopen
  exact ⟨before, after, outline, hscan, hread, hsource, hraw, hstarts, hopen⟩

end Outline

end PathTemplate
