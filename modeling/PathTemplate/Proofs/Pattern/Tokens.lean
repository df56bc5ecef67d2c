import Mathlib
import PathTemplate.Proofs.Pattern.Normal

/-!
# The tokens of a text

A text that scanning accepts is the sources of its tokens one after the other, and its tokens are
the only list of tokens that cuts the text up in this way: names and texts have characters, none of
them reserved, no two such runs are neighbours, and each token stands at the byte offset at which
its source starts.
-/

namespace PathTemplate
namespace Token

/-! ## Kinds of tokens that can be read back -/

/-- Names and texts are spelled by runs of unreserved characters. -/
def Kind.isRun : Kind → Bool
  | .var _ => true
  | .text _ => true
  | .separator => false
  | .groupOpen => false
  | .groupClose => false

inductive Kind.Legible : Kind → Prop
  | separator : Legible .separator
  | groupOpen : Legible .groupOpen
  | groupClose : Legible .groupClose
  | var {name : String} (hne : name ≠ "") (hplain : ∀ c ∈ name.toList, isReserved c = false) :
      Legible (.var name)
  | text {content : String} (hne : content ≠ "")
      (hplain : ∀ c ∈ content.toList, isReserved c = false)
      (hcolon : content.toList.head? ≠ some ':') : Legible (.text content)

theorem Kind.ofLexeme?_source {kind : Kind} (h : kind.Legible) :
    Kind.ofLexeme? kind.source.toList = some kind := by
  cases h with
  | separator => rfl
  | groupOpen => rfl
  | groupClose => rfl
  | var hne hplain => simpa [Kind.source] using ofLexeme?_eq_var hne
  | text hne hplain hcolon => exact ofLexeme?_eq_text hplain hcolon

theorem Kind.isLexeme_source {kind : Kind} (h : kind.Legible) : IsLexeme kind.source.toList := by
  cases h with
  | separator => exact .inl ⟨'/', rfl, rfl⟩
  | groupOpen => exact .inl ⟨'(', rfl, rfl⟩
  | groupClose => exact .inl ⟨')', rfl, rfl⟩
  | var hne hplain => simpa [Kind.source] using isLexeme_colon_cons_iff.mpr hplain
  | text hne hplain hcolon => exact .inr ⟨mt String.toList_eq_nil_iff.mp hne, hplain⟩

theorem Kind.legible_of_ofLexeme? {lexeme : List Char} {kind : Kind} (hlexeme : IsLexeme lexeme)
    (hkind : Kind.ofLexeme? lexeme = some kind) : kind.Legible := by
  have hsource := Kind.toList_source_of_ofLexeme? hkind
  subst hsource
  cases kind with
  | separator => exact .separator
  | groupOpen => exact .groupOpen
  | groupClose => exact .groupClose
  | var name =>
      have hname : (Kind.var name).source.toList = ':' :: name.toList := by simp [Kind.source]
      rw [hname] at hlexeme hkind
      refine .var ?_ (isLexeme_colon_cons_iff.mp hlexeme)
      intro hempty
      subst hempty
      cases hkind
  | text content =>
      refine .text ?_ (forall_not_reserved_of_text hlexeme hkind) ?_
      · intro hempty
        subst hempty
        exact (isLexeme_iff.mp hlexeme).1 rfl
      · intro hcolon
        rcases List.head?_eq_some_iff.mp hcolon with ⟨name, hname⟩
        rw [Kind.source, hname] at hkind
        cases name with
        | nil => cases hkind
        | cons c cs => cases hkind

theorem Kind.isRun_iff {kind : Kind} (h : kind.Legible) :
    kind.isRun = true ↔ ∀ c ∈ kind.source.toList, isReserved c = false := by
  cases h with
  | separator => simp [Kind.isRun, Kind.source, isReserved]
  | groupOpen => simp [Kind.isRun, Kind.source, isReserved]
  | groupClose => simp [Kind.isRun, Kind.source, isReserved]
  | var hne hplain => simpa [Kind.isRun, Kind.source, isReserved] using hplain
  | text hne hplain hcolon => simpa [Kind.isRun, Kind.source] using hplain

/-! ## Cutting up a text -/

/-- The text that tokens spell. -/
def textOf (tokens : List Token) : String :=
  String.join (tokens.map source)

@[simp] theorem textOf_nil : textOf [] = "" := rfl

@[simp] theorem textOf_cons (token : Token) (rest : List Token) :
    textOf (token :: rest) = token.source ++ textOf rest := by
  simp [textOf]

@[simp] theorem textOf_append (before after : List Token) :
    textOf (before ++ after) = textOf before ++ textOf after := by
  simp [textOf]

/-- The tokens spell the text, each from its own place on and as far as its run goes. -/
structure Cuts (tokens : List Token) (raw : String) : Prop where
  spelled : textOf tokens = raw
  placed : ∀ before token after, tokens = before ++ token :: after →
    token.position = (textOf before).utf8ByteSize
  legible : ∀ token ∈ tokens, token.kind.Legible
  apart : tokens.IsChain fun left right =>
    ¬(left.kind.isRun = true ∧ right.kind.isRun = true)

/-- The lexemes that tokens spell. -/
def spellings (tokens : List Token) : List (List Char) :=
  tokens.map fun token => token.source.toList

theorem flatten_spellings (tokens : List Token) :
    (spellings tokens).flatten = (textOf tokens).toList := by
  induction tokens with
  | nil => simp [spellings]
  | cons token rest ih =>
      rw [textOf_cons, String.toList_append, ← ih]
      rfl

theorem byteSize_source (token : Token) :
    byteSize token.source.toList = token.source.utf8ByteSize := by
  rw [byteSize, String.ofList_toList]

/-- Scanning gives tokens that spell the lexemes one by one, and no others. -/
theorem ofLexemes_eq_ok_iff {position : ℕ} {parts : List (List Char)} {tokens : List Token} :
    ofLexemes position parts = .ok tokens ↔ Spells position tokens parts := by
  constructor
  · intro h
    by_cases hcolon : [':'] ∈ parts
    · rcases List.eq_append_cons_of_mem hcolon with ⟨before, after, rfl, hfirst⟩
      rw [ofLexemes_eq_error hfirst] at h
      cases h
    · rcases ofLexemes_eq_ok hcolon position with ⟨others, hothers, hspells⟩
      obtain rfl := Except.ok.inj (hothers.symm.trans h)
      exact hspells
  · intro h
    induction h with
    | nil => rfl
    | cons hkind hrest ih =>
        rw [byteSize] at ih
        simp only [ofLexemes, hkind, ih]
        rfl

theorem Spells.spellings_eq {position : ℕ} {tokens : List Token} {parts : List (List Char)}
    (h : Spells position tokens parts) : spellings tokens = parts := by
  induction h with
  | nil => rfl
  | cons hkind hrest ih =>
      rw [spellings, List.map_cons, source, Kind.toList_source_of_ofLexeme? hkind]
      exact congrArg _ ih

theorem Spells.position_eq {position : ℕ} {before after : List Token} {token : Token}
    {parts : List (List Char)} (h : Spells position (before ++ token :: after) parts) :
    token.position = position + (textOf before).utf8ByteSize := by
  induction before generalizing position parts with
  | nil =>
      cases h with
      | cons hkind hrest => simp
  | cons first before ih =>
      cases h with
      | @cons position kind lexeme tokens rest hkind hrest =>
          have hsource : byteSize lexeme = (⟨kind, position⟩ : Token).source.utf8ByteSize := by
            rw [← byteSize_source, source, Kind.toList_source_of_ofLexeme? hkind]
          rw [ih hrest, hsource, textOf_cons, String.utf8ByteSize_append, Nat.add_assoc]

theorem Spells.legible {position : ℕ} {tokens : List Token} {parts : List (List Char)}
    (h : Spells position tokens parts) (hparts : ∀ lexeme ∈ parts, IsLexeme lexeme) :
    ∀ token ∈ tokens, token.kind.Legible := by
  induction h with
  | nil => simp
  | @cons position kind lexeme tokens rest hkind hrest ih =>
      rw [List.forall_mem_cons] at hparts ⊢
      exact ⟨Kind.legible_of_ofLexeme? hparts.1 hkind, ih hparts.2⟩

theorem spells_of_placed {position : ℕ} {tokens : List Token}
    (hlegible : ∀ token ∈ tokens, token.kind.Legible)
    (hplaced : ∀ before token after, tokens = before ++ token :: after →
      token.position = position + (textOf before).utf8ByteSize) :
    Spells position tokens (spellings tokens) := by
  induction tokens generalizing position with
  | nil => exact .nil
  | cons token rest ih =>
      rw [List.forall_mem_cons] at hlegible
      rcases token with ⟨kind, place⟩
      obtain rfl : place = position := by simpa using hplaced [] ⟨kind, place⟩ rest rfl
      refine .cons (Kind.ofLexeme?_source hlegible.1) (ih hlegible.2 ?_)
      intro before other after hrest
      rw [hplaced (⟨kind, place⟩ :: before) other after (by rw [hrest, List.cons_append]),
        textOf_cons, String.utf8ByteSize_append, byteSize_source, Nat.add_assoc]

theorem isLexeme_of_mem_spellings {tokens : List Token}
    (hlegible : ∀ token ∈ tokens, token.kind.Legible) :
    ∀ lexeme ∈ spellings tokens, IsLexeme lexeme := by
  intro lexeme hmem
  rcases List.mem_map.mp hmem with ⟨token, htoken, rfl⟩
  exact Kind.isLexeme_source (hlegible token htoken)

theorem isChain_spellings_iff {tokens : List Token}
    (hlegible : ∀ token ∈ tokens, token.kind.Legible) :
    (spellings tokens).IsChain Seam ↔
      tokens.IsChain fun left right => ¬(left.kind.isRun = true ∧ right.kind.isRun = true) := by
  rw [spellings, List.isChain_map]
  apply List.IsChain.iff_of_mem_imp
  intro left right hleft hright
  have hleftLegible := hlegible left hleft
  have hrightLegible := hlegible right hright
  rw [source, source, seam_iff (Kind.isLexeme_source hleftLegible) (Kind.isLexeme_source hrightLegible),
    ← Kind.isRun_iff hleftLegible, ← Kind.isRun_iff hrightLegible]

theorem lexemes_eq_spellings_iff {raw : String} {tokens : List Token}
    (hlegible : ∀ token ∈ tokens, token.kind.Legible) :
    lexemes raw.toList = spellings tokens ↔ textOf tokens = raw ∧
      tokens.IsChain fun left right => ¬(left.kind.isRun = true ∧ right.kind.isRun = true) := by
  rw [lexemes_eq_iff, flatten_spellings, String.toList_inj, ← isChain_spellings_iff hlegible]
  exact and_congr_right fun _ => and_iff_right (isLexeme_of_mem_spellings hlegible)

theorem scan_eq_ok_iff_cuts {raw : String} {tokens : List Token} :
    scan raw = .ok tokens ↔ Cuts tokens raw := by
  rw [scan, ofLexemes_eq_ok_iff]
  constructor
  · intro h
    have hlegible := h.legible fun lexeme => isLexeme_of_mem
    rcases (lexemes_eq_spellings_iff hlegible).mp h.spellings_eq.symm with ⟨hspelled, hapart⟩
    refine ⟨hspelled, ?_, hlegible, hapart⟩
    intro before token after hsplit
    subst hsplit
    rw [h.position_eq, Nat.zero_add]
  · intro h
    rw [(lexemes_eq_spellings_iff h.legible).mpr ⟨h.spelled, h.apart⟩]
    apply spells_of_placed h.legible
    intro before token after hsplit
    rw [h.placed before token after hsplit, Nat.zero_add]

/-! ## Places -/

theorem byteSize_pos {lexeme : List Char} (h : lexeme ≠ []) : 0 < byteSize lexeme := by
  rw [byteSize, Nat.pos_iff_ne_zero, Ne, String.utf8ByteSize_eq_zero_iff]
  simpa using h

theorem Spells.pairwise_position {position : ℕ} {tokens : List Token} {parts : List (List Char)}
    (h : Spells position tokens parts) (hparts : ∀ lexeme ∈ parts, IsLexeme lexeme) :
    (∀ token ∈ tokens, position ≤ token.position) ∧
      tokens.Pairwise fun left right => left.position < right.position := by
  induction h with
  | nil => simp
  | @cons position kind lexeme tokens rest hkind hrest ih =>
      rw [List.forall_mem_cons] at hparts
      rcases ih hparts.2 with ⟨hle, hpairwise⟩
      have hpos : 0 < byteSize lexeme := byteSize_pos (isLexeme_iff.mp hparts.1).1
      constructor
      · intro token hmem
        rcases List.mem_cons.mp hmem with rfl | hlater
        · exact le_rfl
        · have hplace := hle token hlater
          omega
      · apply List.Pairwise.cons _ hpairwise
        intro token hmem
        have hplace := hle token hmem
        dsimp only
        omega

theorem Cuts.isValid_position {tokens : List Token} {raw : String} (h : Cuts tokens raw)
    {token : Token} (hmem : token ∈ tokens) :
    (⟨token.position⟩ : String.Pos.Raw).IsValid raw := by
  rcases List.append_of_mem hmem with ⟨before, after, hsplit⟩
  have hraw : raw = textOf before ++ textOf (token :: after) := by
    rw [← h.spelled, hsplit, textOf_append]
  rw [String.Pos.Raw.isValid_iff_exists_append]
  refine ⟨textOf before, textOf (token :: after), hraw, ?_⟩
  rw [h.placed before token after hsplit]
  rfl

/-- Scanning a text gives the one list of tokens that spells the text, in which each token stands at
the size in UTF-8 of all that comes before it, names and texts are not empty and hold no reserved
character, a text does not start with a colon, and no two names or texts are neighbours.  The places
of the tokens are boundaries of characters, one after the other. -/
theorem scan_eq_ok_iff_only_cut (raw : String) :
    (∀ tokens, scan raw = .ok tokens ↔ Cuts tokens raw) ∧
    ∀ tokens, scan raw = .ok tokens →
      (tokens.Pairwise fun left right => left.position < right.position) ∧
      ∀ token ∈ tokens, (⟨token.position⟩ : String.Pos.Raw).IsValid raw := by
  refine ⟨fun _ => scan_eq_ok_iff_cuts, ?_⟩
  intro tokens h
  have hcuts := scan_eq_ok_iff_cuts.mp h
  have hspells := ofLexemes_eq_ok_iff.mp h
  exact ⟨(hspells.pairwise_position fun lexeme => isLexeme_of_mem).2,
    fun token => hcuts.isValid_position⟩

/-- A name that starts with a colon, colons inside a name, and characters of two bytes. -/
theorem scan_eq_ok_iff_only_cut_of_colons :
    ∃ tokens : List Token,
      tokens.map (fun token => (token.position, token.kind)) =
        [(0, .separator), (1, .text "é"), (3, .groupOpen), (4, .var "ü.:b"), (10, .separator),
          (11, .separator), (12, .var ":x"), (15, .groupClose)] ∧
      scan "/é(:ü.:b//::x)" = .ok tokens ∧ Cuts tokens "/é(:ü.:b//::x)" ∧
      (tokens.Pairwise fun left right => left.position < right.position) ∧
      ∀ token ∈ tokens, (⟨token.position⟩ : String.Pos.Raw).IsValid "/é(:ü.:b//::x)" := by
  let tokens : List Token :=
    [⟨.separator, 0⟩, ⟨.text "é", 1⟩, ⟨.groupOpen, 3⟩, ⟨.var "ü.:b", 4⟩, ⟨.separator, 10⟩,
      ⟨.separator, 11⟩, ⟨.var ":x", 12⟩, ⟨.groupClose, 15⟩]
  have hscan : scan "/é(:ü.:b//::x)" = .ok tokens := by cbv
  obtain ⟨honly, hplaces⟩ := scan_eq_ok_iff_only_cut "/é(:ü.:b//::x)"
  exact ⟨tokens, rfl, hscan, (honly tokens).mp hscan, hplaces tokens hscan⟩

end Token
end PathTemplate
