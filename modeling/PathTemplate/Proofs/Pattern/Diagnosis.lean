import PathTemplate.Proofs.Pattern.Outline
import PathTemplate.Proofs.Template

/-!
# What parsing makes of a text

The text alone decides how parsing ends.  A lone colon is reported before anything else; then the
first closing parenthesis that has nothing to close, even if groups are left open later; then, of
the groups left open, the last.  Every other text is a pattern, and the lexemes of its tree are
those of the text.
-/

namespace PathTemplate

open Token

/-- The prefix of the text closes more groups than it opens. -/
def Overclosed (text : List Char) (place : ℕ) : Prop :=
  (text.take place).count '(' < (text.take place).count ')'

theorem overclosed_iff {text : List Char} {place : ℕ} :
    Overclosed text place ↔ parens.depth text place < 0 := by
  have hcount : parens.depth text place =
      ((text.take place).count '(' : ℤ) - (text.take place).count ')' :=
    parens.depth_eq_count_sub_count text place
  unfold Overclosed
  omega

theorem count_lt_count_iff {text : List Char} :
    text.count ')' < text.count '(' ↔ 0 < parens.depth text text.length := by
  have hcount : parens.depth text text.length =
      ((text.take text.length).count '(' : ℤ) - (text.take text.length).count ')' :=
    parens.depth_eq_count_sub_count text text.length
  rw [List.take_length] at hcount
  omega

theorem isLeast_stray {text : List Char} {place : ℕ} (hclose : text[place]? = some ')')
    (hbalanced : parens.Balanced (text.take place)) :
    IsLeast {place | text[place]? = some ')' ∧ Overclosed text (place + 1)} place := by
  have hbefore : ∀ earlier ≤ place, 0 ≤ parens.depth text earlier := by
    intro earlier hearlier
    rw [← parens.depth_take text hearlier]
    exact hbalanced.nonneg earlier
  constructor
  · refine ⟨hclose, overclosed_iff.mpr ?_⟩
    have hsettled := hbalanced.settled
    rcases List.getElem?_eq_some_iff.mp hclose with ⟨hlt, -⟩
    rw [List.length_take, min_eq_left hlt.le, parens.depth_take text le_rfl] at hsettled
    have hfall := parens.depth_succ hclose
    have hweight : parens.weight ')' = -1 := parens.weight_closing
    omega
  · intro other hstray
    rcases hstray with ⟨-, hother⟩
    have hdeep := overclosed_iff.mp hother
    by_contra hlt
    have hnonneg := hbefore (other + 1) (by omega)
    omega

namespace Pattern

/-- How parsing ends, as the text decides it. -/
inductive Verdict (text : List Char) : Except PatternError Pattern → Prop
  | nameless {place : ℕ} (hfirst : IsLeast {place | LoneColon text place} place) :
      Verdict text (.error (.namelessVariable (byteSize (text.take place))))
  | stray {place : ℕ} (hcolon : ¬∃ place, LoneColon text place)
      (hclose : text[place]? = some ')') (hbalanced : parens.Balanced (text.take place)) :
      Verdict text (.error (.strayClose (byteSize (text.take place))))
  | unfinished {front : List Char} {fronts : List (List Char)}
      (hcolon : ¬∃ place, LoneColon text place) (hcut : parens.Cut text (front :: fronts)) :
      Verdict text (.error (.unfinishedGroup (byteSize (text.take front.length))))
  | wellFormed {pattern : Pattern} (hcolon : ¬∃ place, LoneColon text place)
      (hspelled : pattern.Spelled) (hlexemes : pattern.lexemes = Token.lexemes text) :
      Verdict text (.ok pattern)

theorem verdict_of_reads {text : List Char} {outline : Outline}
    (hcolon : ¬∃ place, LoneColon text place) (hreads : outline.Reads (Token.lexemes text)) :
    Verdict text outline.complete := by
  rcases hreads.exists_cut with ⟨fronts, hcut, hstarts⟩
  rw [flatten_lexemes] at hcut
  rcases outline with ⟨top, groups⟩
  cases groups with
  | nil =>
      rcases hreads.of_groups_eq_nil rfl with ⟨hspelled, hlexemes⟩
      exact .wellFormed hcolon hspelled hlexemes
  | cons group outer =>
      cases fronts with
      | nil => cases hstarts
      | cons front fronts =>
          have hstart : group.start = byteSize front := (List.cons.inj hstarts).1
          rw [← hcut.take_length List.mem_cons_self] at hstart
          simp only [Outline.complete, hstart]
          exact .unfinished hcolon hcut

theorem verdict_of_scan {raw : String} {tokens : List Token}
    (hcolon : ¬∃ place, LoneColon raw.toList place) (hscan : scan raw = .ok tokens)
    (hspells : Spells 0 tokens (Token.lexemes raw.toList)) :
    Verdict raw.toList (parse raw) := by
  have hparse : parse raw = tokens.foldlM Outline.step Outline.empty >>= Outline.complete := by
    rw [parse, hscan]
    rfl
  rw [hparse]
  rcases Outline.reads_empty.foldlM hspells rfl (fun lexeme => isLexeme_of_mem) with
    ⟨final, hfinal, hreads⟩ | ⟨before, after, hsplit, hbalanced, hfault⟩
  · rw [hfinal]
    exact verdict_of_reads hcolon hreads
  · rw [hfault, List.nil_append]
    rw [List.nil_append] at hbalanced
    have htext : raw.toList = before.flatten ++ ')' :: after.flatten := by
      rw [← flatten_lexemes raw.toList, hsplit]
      simp
    have hclose : raw.toList[before.flatten.length]? = some ')' := by simp [htext]
    have htake : raw.toList.take before.flatten.length = before.flatten := by
      rw [htext, List.take_left]
    rw [← htake] at hbalanced
    have hverdict := Verdict.stray hcolon hclose hbalanced
    rwa [htake] at hverdict

theorem verdict_parse (raw : String) : Verdict raw.toList (parse raw) := by
  by_cases hcolon : ∃ place, LoneColon raw.toList place
  · obtain ⟨before, after, hsplit, hfirst⟩ :=
      List.eq_append_cons_of_mem (exists_loneColon_iff.mp hcolon)
    have hparse : parse raw = .error (.namelessVariable (byteSize before.flatten)) := by
      rw [parse, scan_eq_error hsplit hfirst]
      rfl
    have htake : raw.toList.take before.flatten.length = before.flatten := by
      rw [← flatten_lexemes raw.toList, hsplit, List.flatten_append, List.take_left]
    have hverdict := Verdict.nameless (isLeast_loneColon hsplit hfirst)
    rwa [htake, ← hparse] at hverdict
  · rcases scan_eq_ok (mt exists_loneColon_iff.mpr hcolon) with ⟨tokens, hscan, hspells⟩
    exact verdict_of_scan hcolon hscan hspells

theorem spelled_of_parse_eq_ok {raw : String} {pattern : Pattern}
    (h : parse raw = .ok pattern) :
    pattern.Spelled ∧ pattern.lexemes = Token.lexemes raw.toList := by
  have hverdict := verdict_parse raw
  rw [h] at hverdict
  cases hverdict with
  | wellFormed hcolon hspelled hlexemes => exact ⟨hspelled, hlexemes⟩

theorem not_overclosed_of_nonneg {text : List Char}
    (h : ∀ place, 0 ≤ parens.depth text place) : ¬∃ place, Overclosed text place := by
  intro hover
  rcases hover with ⟨place, hplace⟩
  have hneg := overclosed_iff.mp hplace
  have hnonneg := h place
  omega

/-- Parsing and its diagnosis: a lone colon comes before every fault of the parentheses, and a
closing parenthesis too many before groups left open; a text without any of them is accepted.  Each
fault is reported with the byte offset of its place, and compiling passes it on as it is. -/
theorem parse_eq_of_faults (raw : String) :
    let text := raw.toList
    let nameless := ∃ place, LoneColon text place
    let stray := ∃ place, Overclosed text place
    let unfinished := text.count ')' < text.count '('
    (nameless → ∃ place, IsLeast {place | LoneColon text place} place ∧
      parse raw = .error (.namelessVariable (byteSize (text.take place)))) ∧
    (¬nameless → stray → ∃ place,
      IsLeast {place | text[place]? = some ')' ∧ Overclosed text (place + 1)} place ∧
      parse raw = .error (.strayClose (byteSize (text.take place)))) ∧
    (¬nameless → ¬stray → unfinished → ∃ place,
      IsGreatest {place | parens.Unclosed text place} place ∧
      parse raw = .error (.unfinishedGroup (byteSize (text.take place)))) ∧
    ((∃ pattern, parse raw = .ok pattern) ↔ ¬nameless ∧ ¬stray ∧ ¬unfinished) ∧
    ∀ defaults settings fault,
      Template.compile raw defaults settings = .error (.malformed fault) ↔
        parse raw = .error fault := by
  intro text nameless stray unfinished
  have hcompile : ∀ defaults settings fault,
      Template.compile raw defaults settings = .error (.malformed fault) ↔
        parse raw = .error fault := fun _ _ _ => Template.compile_eq_malformed_iff
  have hverdict : Verdict text (parse raw) := verdict_parse raw
  generalize parse raw = outcome at hverdict hcompile
  cases hverdict with
  | @nameless place hfirst =>
      have hlone : nameless := ⟨place, hfirst.1⟩
      refine ⟨fun _ => ⟨place, hfirst, rfl⟩, fun hnot => absurd hlone hnot,
        fun hnot => absurd hlone hnot, ?_, hcompile⟩
      simp [hlone]
  | @stray place hcolon hclose hbalanced =>
      have hleast := isLeast_stray hclose hbalanced
      have hover : stray := ⟨place + 1, hleast.1.2⟩
      refine ⟨fun hlone => absurd hlone hcolon, fun _ _ => ⟨place, hleast, rfl⟩,
        fun _ hnot => absurd hover hnot, ?_, hcompile⟩
      simp [hover]
  | @unfinished front fronts hcolon hcut =>
      have hnostray : ¬stray := not_overclosed_of_nonneg hcut.depth_nonneg
      have hopen : unfinished := by
        apply count_lt_count_iff.mpr
        rw [hcut.depth_length, List.length_cons]
        omega
      refine ⟨fun hlone => absurd hlone hcolon, fun _ hover => absurd hover hnostray,
        fun _ _ _ => ⟨front.length, hcut.isGreatest_unclosed, rfl⟩, ?_, hcompile⟩
      simp [hopen]
  | @wellFormed pattern hcolon hspelled hlexemes =>
      have hbalanced := hspelled.balanced_flatten
      rw [hlexemes, flatten_lexemes] at hbalanced
      have hnostray : ¬stray := not_overclosed_of_nonneg hbalanced.nonneg
      have hclosed : ¬unfinished := by
        intro hopen
        have hdeep := count_lt_count_iff.mp hopen
        rw [hbalanced.settled] at hdeep
        omega
      refine ⟨fun hlone => absurd hlone hcolon, fun _ hover => absurd hover hnostray,
        fun _ _ hopen => absurd hopen hclosed, ?_, hcompile⟩
      simp only [hclosed, hnostray, not_false_eq_true, and_true]
      exact ⟨fun _ => hcolon, fun _ => ⟨pattern, rfl⟩⟩

end Pattern
end PathTemplate
