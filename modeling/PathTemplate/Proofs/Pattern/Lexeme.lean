import Mathlib.Data.List.SplitBy
import Mathlib.Tactic
import PathTemplate.Pattern.Token

/-!
# Lexemes of a pattern

The lexemes of a text are its reserved characters, each alone, and the longest runs of other
characters between them.  Scanning turns each lexeme into one token, and the only lexeme that it
refuses is a lone colon: the first lone colon of the text is what scanning reports, and where there
is none the tokens spell the text.
-/

namespace PathTemplate

/-- The length of a text in UTF-8. -/
def byteSize (text : List Char) : ℕ :=
  (String.ofList text).utf8ByteSize

theorem byteSize_append (before after : List Char) :
    byteSize (before ++ after) = byteSize before + byteSize after := by
  rw [byteSize, String.ofList_append, String.utf8ByteSize_append]
  rfl

namespace Token

/-! ## What a lexeme looks like -/

theorem flatten_lexemes (text : List Char) : (lexemes text).flatten = text :=
  List.flatten_splitBy joins text

theorem joins_eq_false_iff {left right : Char} :
    joins left right = false ↔ isReserved left = true ∨ isReserved right = true := by
  cases hleft : isReserved left <;> cases hright : isReserved right <;>
    simp [joins, hleft, hright]

theorem lexemes_append {before after : List Char}
    (h : ∀ x ∈ before.getLast?, ∀ y ∈ after.head?, joins x y = false) :
    lexemes (before ++ after) = lexemes before ++ lexemes after :=
  List.splitBy_append h

/-- A reserved character by itself, or some characters of which none is reserved. -/
def IsLexeme (lexeme : List Char) : Prop :=
  (∃ c, isReserved c = true ∧ lexeme = [c]) ∨
    lexeme ≠ [] ∧ ∀ c ∈ lexeme, isReserved c = false

theorem forall_not_reserved_of_isChain {x : Char} {rest : List Char}
    (h : (x :: rest).IsChain fun left right => joins left right = true)
    (hx : isReserved x = false) : ∀ c ∈ x :: rest, isReserved c = false := by
  induction rest generalizing x with
  | nil => simpa using hx
  | cons y rest ih =>
      rcases List.isChain_cons_cons.mp h with ⟨hjoins, htail⟩
      have hy : isReserved y = false := by
        simp only [joins, Bool.and_eq_true, Bool.not_eq_true'] at hjoins
        exact hjoins.2
      intro c hc
      rcases List.mem_cons.mp hc with rfl | hrest
      · exact hx
      · exact ih htail hy c hrest

theorem isLexeme_iff {lexeme : List Char} :
    IsLexeme lexeme ↔
      lexeme ≠ [] ∧ lexeme.IsChain fun left right => joins left right = true := by
  constructor
  · intro hlexeme
    rcases hlexeme with ⟨c, -, rfl⟩ | ⟨hne, hplain⟩
    · exact ⟨by simp, .singleton c⟩
    · have hjoins : ∀ left ∈ lexeme, ∀ right ∈ lexeme, joins left right = true := by
        intro left hleft right hright
        simp [joins, hplain left hleft, hplain right hright]
      exact ⟨hne, (List.pairwise_of_forall_mem_list hjoins).isChain⟩
  · intro hlexeme
    rcases hlexeme with ⟨hne, hchain⟩
    rcases List.exists_cons_of_ne_nil hne with ⟨x, rest, rfl⟩
    cases hx : isReserved x with
    | false => exact .inr ⟨hne, forall_not_reserved_of_isChain hchain hx⟩
    | true =>
        cases rest with
        | nil => exact .inl ⟨x, hx, rfl⟩
        | cons y rest =>
            have hjoins := (List.isChain_cons_cons.mp hchain).1
            simp [joins, hx] at hjoins

/-- The lexemes of a text are the only way to cut it into lexemes of which no two neighbours are
runs of unreserved characters. -/
theorem lexemes_eq_iff {text : List Char} {parts : List (List Char)} :
    lexemes text = parts ↔
      parts.flatten = text ∧ (∀ lexeme ∈ parts, IsLexeme lexeme) ∧
        parts.IsChain fun left right => ∃ hleft hright,
          isReserved (left.getLast hleft) = true ∨ isReserved (right.head hright) = true := by
  rw [lexemes, List.splitBy_eq_iff]
  have hlexemes : (∀ lexeme ∈ parts, IsLexeme lexeme) ↔ [] ∉ parts ∧
      ∀ lexeme ∈ parts, lexeme.IsChain fun left right => joins left right = true := by
    simp only [isLexeme_iff]
    constructor
    · intro h
      exact ⟨fun hnil => (h [] hnil).1 rfl, fun lexeme hmem => (h lexeme hmem).2⟩
    · intro hparts lexeme hmem
      rcases hparts with ⟨hnil, hchain⟩
      exact ⟨ne_of_mem_of_not_mem hmem hnil, hchain lexeme hmem⟩
  simp only [hlexemes, joins_eq_false_iff, eq_comm (a := text), and_assoc]

theorem isLexeme_of_mem {text lexeme : List Char} (h : lexeme ∈ lexemes text) :
    IsLexeme lexeme :=
  (lexemes_eq_iff.mp rfl).2.1 lexeme h

/-- A reserved character occurs in no lexeme but its own. -/
theorem IsLexeme.eq_singleton {lexeme : List Char} (h : IsLexeme lexeme) {c : Char}
    (hc : isReserved c = true) (hmem : c ∈ lexeme) : lexeme = [c] := by
  rcases h with ⟨d, -, rfl⟩ | ⟨-, hplain⟩
  · rw [List.mem_singleton.mp hmem]
  · have hnot := hplain c hmem
    rw [hc] at hnot
    cases hnot

/-! ## Lone colons -/

/-- The character at the place is a colon, and no neighbour of it belongs to the same lexeme. -/
def LoneColon (text : List Char) (place : ℕ) : Prop :=
  text[place]? = some ':' ∧ (∀ c ∈ (text.take place).getLast?, isReserved c = true) ∧
    ∀ c ∈ text[place + 1]?, isReserved c = true

theorem LoneColon.lexemes_eq {text : List Char} {place : ℕ} (h : LoneColon text place) :
    lexemes text = lexemes (text.take place) ++ [':'] :: lexemes (text.drop (place + 1)) := by
  rcases h with ⟨hcolon, hbefore, hafter⟩
  have htext : text.take place ++ ([':'] ++ text.drop (place + 1)) = text := by
    rcases List.getElem?_eq_some_iff.mp hcolon with ⟨hlt, hget⟩
    rw [← hget, List.singleton_append, List.getElem_cons_drop, List.take_append_drop]
  have hleft : lexemes (text.take place ++ ([':'] ++ text.drop (place + 1))) =
      lexemes (text.take place) ++ lexemes ([':'] ++ text.drop (place + 1)) := by
    apply lexemes_append
    intro x hx y hy
    exact joins_eq_false_iff.mpr (.inl (hbefore x hx))
  have hright : lexemes ([':'] ++ text.drop (place + 1)) =
      lexemes [':'] ++ lexemes (text.drop (place + 1)) := by
    apply lexemes_append
    intro x hx y hy
    rw [List.head?_drop] at hy
    exact joins_eq_false_iff.mpr (.inr (hafter y hy))
  rw [htext, hright] at hleft
  exact hleft

theorem loneColon_of_lexemes_eq {text : List Char} {before after : List (List Char)}
    (h : lexemes text = before ++ [':'] :: after) : LoneColon text before.flatten.length := by
  rcases lexemes_eq_iff.mp h with ⟨htext, -, hseams⟩
  rw [List.flatten_append, List.flatten_cons, List.singleton_append] at htext
  have hcolon : isReserved ':' = false := rfl
  refine ⟨by simp [← htext], ?_, ?_⟩
  · rw [← htext, List.take_left]
    intro c hc
    cases hlast : before.reverse with
    | nil =>
        have hnil : before = [] := by simpa using hlast
        simp [hnil] at hc
    | cons lexeme rest =>
        obtain rfl : before = rest.reverse ++ [lexeme] := by
          rw [← List.reverse_reverse before, hlast, List.reverse_cons]
        rw [List.append_assoc, List.singleton_append] at hseams
        obtain ⟨hne, hright, hseam⟩ :=
          (List.isChain_cons_cons.mp (List.isChain_append.mp hseams).2.1).1
        rw [List.flatten_append, List.flatten_singleton, List.getLast?_append_of_ne_nil _ hne,
          List.getLast?_eq_some_getLast hne] at hc
        have hgetLast : lexeme.getLast hne = c := by simpa using hc
        simpa [hgetLast, hcolon] using hseam
  · intro c hc
    cases after with
    | nil => simp [← htext] at hc
    | cons lexeme rest =>
        obtain ⟨hleft, hne, hseam⟩ :=
          (List.isChain_cons_cons.mp (List.isChain_append.mp hseams).2.1).1
        rcases List.exists_cons_of_ne_nil hne with ⟨d, lexeme, rfl⟩
        have hd : c = d := by
          simpa [← htext, eq_comm] using hc
        simpa [hd, hcolon] using hseam

theorem exists_loneColon_iff {text : List Char} :
    (∃ place, LoneColon text place) ↔ [':'] ∈ lexemes text := by
  constructor
  · intro hcolon
    rcases hcolon with ⟨place, hplace⟩
    rw [hplace.lexemes_eq]
    simp
  · intro hmem
    rcases List.append_of_mem hmem with ⟨before, after, h⟩
    exact ⟨_, loneColon_of_lexemes_eq h⟩

theorem isLeast_loneColon {text : List Char} {before after : List (List Char)}
    (h : lexemes text = before ++ [':'] :: after) (hfirst : [':'] ∉ before) :
    IsLeast {place | LoneColon text place} before.flatten.length := by
  apply And.intro (loneColon_of_lexemes_eq h)
  intro place hplace
  have hsplit := hplace.lexemes_eq
  rw [h] at hsplit
  rcases List.append_eq_append_iff.mp hsplit with ⟨more, hmore, -⟩ | ⟨more, hmore, hcons⟩
  · have hlength := congrArg (fun parts => parts.flatten.length) hmore
    simp only [flatten_lexemes, List.flatten_append, List.length_append, List.length_take]
      at hlength
    omega
  · cases more with
    | nil =>
        rw [hmore, List.append_nil, flatten_lexemes, List.length_take]
        exact min_le_left _ _
    | cons lexeme more =>
        have hlexeme : lexeme = [':'] := (List.cons.inj hcons).1.symm
        exfalso
        apply hfirst
        rw [hmore, hlexeme]
        simp

/-! ## Scanning -/

theorem Kind.ofLexeme?_eq_none_iff {lexeme : List Char} :
    Kind.ofLexeme? lexeme = none ↔ lexeme = [':'] := by
  unfold Kind.ofLexeme?
  split <;> simp_all

theorem Kind.toList_source_of_ofLexeme? {lexeme : List Char} {kind : Kind}
    (h : Kind.ofLexeme? lexeme = some kind) : kind.source.toList = lexeme := by
  unfold Kind.ofLexeme? at h
  split at h <;> cases h <;> simp [Kind.source]

theorem Kind.ne_parens_of_text {lexeme : List Char} {content : String}
    (h : Kind.ofLexeme? lexeme = some (.text content)) : lexeme ≠ ['('] ∧ lexeme ≠ [')'] := by
  constructor
  · intro heq
    subst heq
    cases h
  · intro heq
    subst heq
    cases h

/-- The tokens stand one after the other from a byte offset on, one for each lexeme. -/
inductive Spells : ℕ → List Token → List (List Char) → Prop
  | nil {position : ℕ} : Spells position [] []
  | cons {position : ℕ} {kind : Kind} {lexeme : List Char} {tokens : List Token}
      {rest : List (List Char)} (hkind : Kind.ofLexeme? lexeme = some kind)
      (hrest : Spells (position + byteSize lexeme) tokens rest) :
      Spells position (⟨kind, position⟩ :: tokens) (lexeme :: rest)

theorem ofLexemes_eq_ok {parts : List (List Char)} (h : [':'] ∉ parts) (position : ℕ) :
    ∃ tokens, ofLexemes position parts = .ok tokens ∧ Spells position tokens parts := by
  induction parts generalizing position with
  | nil => exact ⟨[], rfl, .nil⟩
  | cons lexeme rest ih =>
      rw [List.mem_cons, not_or] at h
      rcases ih h.2 (position + byteSize lexeme) with ⟨tokens, htokens, hspells⟩
      cases hkind : Kind.ofLexeme? lexeme with
      | none => exact absurd (Kind.ofLexeme?_eq_none_iff.mp hkind).symm h.1
      | some kind =>
          refine ⟨⟨kind, position⟩ :: tokens, ?_, .cons hkind hspells⟩
          rw [byteSize] at htokens
          simp only [ofLexemes, hkind, htokens]
          rfl

theorem ofLexemes_eq_error {before : List (List Char)} (h : [':'] ∉ before)
    (after : List (List Char)) (position : ℕ) :
    ofLexemes position (before ++ [':'] :: after) =
      .error (.namelessVariable (position + byteSize before.flatten)) := by
  induction before generalizing position with
  | nil => rfl
  | cons lexeme rest ih =>
      rw [List.mem_cons, not_or] at h
      cases hkind : Kind.ofLexeme? lexeme with
      | none => exact absurd (Kind.ofLexeme?_eq_none_iff.mp hkind).symm h.1
      | some kind =>
          have hrest := ih h.2 (position + byteSize lexeme)
          rw [byteSize] at hrest
          simp only [List.cons_append, ofLexemes, hkind, hrest, List.flatten_cons,
            byteSize_append, ← Nat.add_assoc]
          rfl

theorem scan_eq_ok {raw : String} (h : [':'] ∉ lexemes raw.toList) :
    ∃ tokens, scan raw = .ok tokens ∧ Spells 0 tokens (lexemes raw.toList) :=
  ofLexemes_eq_ok h 0

theorem scan_eq_error {raw : String} {before after : List (List Char)}
    (h : lexemes raw.toList = before ++ [':'] :: after) (hfirst : [':'] ∉ before) :
    scan raw = .error (.namelessVariable (byteSize before.flatten)) := by
  have herror := ofLexemes_eq_error hfirst after 0
  rwa [← h, Nat.zero_add] at herror

end Token
end PathTemplate
