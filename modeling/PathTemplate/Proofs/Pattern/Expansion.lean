import PathTemplate.Proofs.Pattern.Outline
import PathTemplate.Proofs.Pattern.Variables

/-!
# Rendering as an operation on the text

What a pattern renders to can be read off its lexemes, without a tree.  A pair of parentheses is
dead if a variable that stands directly between them has no value.  Dead pairs are deleted with all
that they enclose; of the rest, parentheses leave nothing, variables leave their values, and every
other lexeme stays as it is.

The tree says the same: the lexemes of a group lie between a pair, and no pair reaches out of the
lexemes of a segment, so a lexeme is deleted exactly if one of the groups around it is left out.
-/

namespace PathTemplate.Expansion

open Token

def named? : List Char → Option String
  | ':' :: name => some (String.ofList name)
  | _ => none

def Unbound (scope : Scope) (lexeme : List Char) : Prop :=
  ∃ name ∈ named? lexeme, scope.get? name = none

/-- The two places hold a pair, and in no pair between them, but between them, there is a variable
without a value. -/
def Dead (scope : Scope) (text : List (List Char)) (left right : ℕ) : Prop :=
  lexemeParens.Pair text left right ∧
    ∃ place < right, left < place ∧ (∃ lexeme ∈ text[place]?, Unbound scope lexeme) ∧
      ∀ inner < place, left < inner → ∀ outer < text.length, place < outer →
        ¬lexemeParens.Pair text inner outer

def Deleted (scope : Scope) (text : List (List Char)) (place : ℕ) : Prop :=
  ∃ left ≤ place, ∃ right < text.length, place ≤ right ∧ Dead scope text left right

instance (scope : Scope) (lexeme : List Char) : Decidable (Unbound scope lexeme) :=
  inferInstanceAs (Decidable (∃ _ ∈ _, _))

instance (scope : Scope) (text : List (List Char)) (left right : ℕ) :
    Decidable (Dead scope text left right) :=
  inferInstanceAs (Decidable (_ ∧ _))

instance (scope : Scope) (text : List (List Char)) (place : ℕ) :
    Decidable (Deleted scope text place) :=
  inferInstanceAs (Decidable (∃ _ ≤ place, _))

/-- What a lexeme that is not deleted leaves. -/
def written (scope : Scope) (lexeme : List Char) : String :=
  if lexeme = ['('] ∨ lexeme = [')'] then ""
  else
    match named? lexeme with
    | some name => (scope.get? name).getD ""
    | none => String.ofList lexeme

def expandAt (scope : Scope) (text : List (List Char)) (start : ℕ) (part : List (List Char)) :
    String :=
  String.join ((part.zipIdx start).map fun (lexeme, place) =>
    if Deleted scope text place then "" else written scope lexeme)

def expand (scope : Scope) (text : List (List Char)) : String :=
  expandAt scope text 0 text

variable {scope : Scope} {text : List (List Char)}

/-! ## Parts of a text -/

theorem expandAt_append (start : ℕ) (before after : List (List Char)) :
    expandAt scope text start (before ++ after) =
      expandAt scope text start before ++ expandAt scope text (start + before.length) after := by
  rw [expandAt, List.zipIdx_append, List.map_append, String.join_append]
  rfl

theorem expandAt_singleton (start : ℕ) (lexeme : List Char) :
    expandAt scope text start [lexeme] =
      if Deleted scope text start then "" else written scope lexeme := by
  simp [expandAt]

theorem expandAt_eq_empty {start : ℕ} {part : List (List Char)}
    (h : ∀ place, start ≤ place → place < start + part.length → Deleted scope text place) :
    expandAt scope text start part = "" := by
  induction part generalizing start with
  | nil => rfl
  | cons lexeme rest ih =>
      have hfirst : Deleted scope text start := h start le_rfl (by simp)
      have hrest : expandAt scope text (start + 1) rest = "" := by
        apply ih
        intro place hfrom hto
        exact h place (by omega) (by rw [List.length_cons]; omega)
      rw [← List.singleton_append, expandAt_append, expandAt_singleton, if_pos hfirst,
        List.length_singleton, hrest]
      rfl

theorem expandAt_eq_join (h : ∀ place, ¬Deleted scope text place) (start : ℕ)
    (part : List (List Char)) :
    expandAt scope text start part = String.join (part.map (written scope)) := by
  induction part generalizing start with
  | nil => rfl
  | cons lexeme rest ih =>
      rw [← List.singleton_append, expandAt_append, expandAt_singleton, if_neg (h start), ih]
      simp

theorem getElem?_middle {before middle after : List (List Char)} {place : ℕ}
    (hfrom : before.length ≤ place) (hto : place < before.length + middle.length) :
    (before ++ middle ++ after)[place]? = middle[place - before.length]? := by
  rw [List.append_assoc, List.getElem?_append_right hfrom, List.getElem?_append_left (by omega)]

/-! ## Single lexemes -/

theorem ne_parens_of_named {lexeme : List Char} {name : String}
    (h : name ∈ named? lexeme) : lexeme ≠ ['('] ∧ lexeme ≠ [')'] := by
  constructor <;>
  · intro heq
    subst heq
    cases h

theorem named?_text {content : String}
    (h : Kind.ofLexeme? content.toList = some (.text content)) :
    named? content.toList = none := by
  unfold named?
  split
  next name heq =>
    rw [heq] at h
    cases name with
    | nil => cases h
    | cons c rest => cases h
  next => rfl

/-! ## Groups -/

theorem exists_segment_at {pattern : Pattern} {place : ℕ} (h : place < pattern.lexemes.length) :
    ∃ front segment back, pattern = front ++ segment :: back ∧
      (Pattern.lexemes front).length ≤ place ∧
      place < (Pattern.lexemes front).length + segment.lexemes.length := by
  induction pattern generalizing place with
  | nil => simp at h
  | cons segment rest ih =>
      rw [Pattern.lexemes_cons, List.length_append] at h
      by_cases hfirst : place < segment.lexemes.length
      · exact ⟨[], segment, rest, rfl, by simp, by simpa using hfirst⟩
      · have hrest : place - segment.lexemes.length < (Pattern.lexemes rest).length := by omega
        obtain ⟨front, other, back, rfl, hfrom, hto⟩ := ih hrest
        refine ⟨segment :: front, other, back, rfl, ?_, ?_⟩
        · rw [Pattern.lexemes_cons, List.length_append]
          omega
        · rw [Pattern.lexemes_cons, List.length_append]
          omega

theorem pair_of_group {children : Pattern} (hspelled : children.Spelled)
    {before after : List (List Char)}
    (htext : text = before ++ (Segment.group children).lexemes ++ after) :
    lexemeParens.Pair text before.length (before.length + (children.lexemes.length + 1)) := by
  rw [htext, Segment.lexemes]
  exact hspelled.balanced_lexemes.pair_around before after

/-- A variable lexeme in a segment either is the segment, or lies in a pair of its own. -/
theorem eq_var_or_exists_pair {segment : Segment} (hspelled : segment.Spelled)
    {before after : List (List Char)} (htext : text = before ++ segment.lexemes ++ after)
    {place : ℕ} (hfrom : before.length ≤ place)
    (hto : place < before.length + segment.lexemes.length)
    {lexeme : List Char} {name : String} (hlexeme : text[place]? = some lexeme)
    (hname : name ∈ named? lexeme) :
    segment = .var name ∨ ∃ inner outer, before.length ≤ inner ∧ inner < place ∧ place < outer ∧
      lexemeParens.Pair text inner outer := by
  have hmem : lexeme ∈ segment.lexemes := by
    rw [htext, getElem?_middle hfrom hto] at hlexeme
    exact List.mem_of_getElem? hlexeme
  cases hspelled with
  | separator =>
      rw [Segment.lexemes, List.mem_singleton] at hmem
      rw [hmem] at hname
      cases hname
  | text hcontent hkind =>
      rw [Segment.lexemes, List.mem_singleton] at hmem
      rw [hmem, named?_text hkind] at hname
      cases hname
  | @var other hother =>
      rw [Segment.lexemes, List.mem_singleton] at hmem
      rw [hmem] at hname
      have heq : other = name := by simpa [named?] using hname
      exact .inl (by rw [heq])
  | @group children hchildren =>
      have hpair := pair_of_group hchildren htext
      obtain ⟨hopen, hclose⟩ := ne_parens_of_named hname
      have hlength : (Segment.group children).lexemes.length =
          (Pattern.lexemes children).length + 2 := by simp [Segment.lexemes]
      have hneLeft : place ≠ before.length := by
        intro heq
        subst heq
        rw [hpair.1] at hlexeme
        exact hopen (Option.some.inj hlexeme).symm
      have hneRight : place ≠ before.length + ((Pattern.lexemes children).length + 1) := by
        intro heq
        subst heq
        rw [hpair.2.1] at hlexeme
        exact hclose (Option.some.inj hlexeme).symm
      exact .inr ⟨before.length, _, le_rfl, by omega, by omega, hpair⟩

/-- The pair around a group is dead exactly if a variable directly in the group has no value. -/
theorem dead_iff {children : Pattern} (hspelled : children.Spelled)
    {before after : List (List Char)}
    (htext : text = before ++ (Segment.group children).lexemes ++ after) :
    Dead scope text before.length (before.length + (children.lexemes.length + 1)) ↔
      ∃ name, Segment.var name ∈ children ∧ scope.get? name = none := by
  constructor
  · intro hdead
    rcases hdead with ⟨-, place, hright, hleft, ⟨lexeme, hlexeme, name, hname, hvalue⟩, hdirect⟩
    have hplace : place - (before.length + 1) < children.lexemes.length := by omega
    obtain ⟨front, segment, back, rfl, hfrom, hto⟩ := exists_segment_at hplace
    have hsegment : text = (before ++ ['('] :: Pattern.lexemes front) ++ segment.lexemes ++
        (Pattern.lexemes back ++ [')'] :: after) := by
      rw [htext]
      simp [Segment.lexemes]
    have hlength : (before ++ ['('] :: Pattern.lexemes front).length =
        before.length + 1 + (Pattern.lexemes front).length := by
      simp
      omega
    rcases eq_var_or_exists_pair (hspelled segment (by simp)) hsegment (by omega) (by omega)
      hlexeme hname with rfl | ⟨inner, outer, hinside, hinner, houter, hpair⟩
    · exact ⟨name, by simp, hvalue⟩
    · obtain ⟨hbound, -⟩ := List.getElem?_eq_some_iff.mp hpair.2.1
      exact absurd hpair (hdirect inner hinner (by omega) outer hbound houter)
  · intro hunbound
    rcases hunbound with ⟨name, hmem, hvalue⟩
    have hpair := pair_of_group hspelled htext
    obtain ⟨front, back, rfl⟩ := List.append_of_mem hmem
    have hfront : Pattern.Spelled front :=
      fun segment hsegment => hspelled segment (by simp [hsegment])
    have hsplit : text = (before ++ [['(']]) ++ Pattern.lexemes front ++
        ((':' :: name.toList) :: (Pattern.lexemes back ++ [')'] :: after)) := by
      rw [htext]
      simp [Segment.lexemes]
    refine ⟨hpair, before.length + 1 + (Pattern.lexemes front).length, ?_, by omega,
      ⟨':' :: name.toList, ?_, name, by simp [named?], hvalue⟩, ?_⟩
    · simp [Segment.lexemes]
      omega
    · have hlength : before.length + 1 + (Pattern.lexemes front).length =
          (before ++ [['(']] ++ Pattern.lexemes front).length := by
        rw [List.length_append, List.length_append, List.length_singleton]
      rw [hsplit, hlength, List.getElem?_append_right le_rfl, Nat.sub_self]
      rfl
    · intro inner hinner hleft outer _ houter hnested
      rw [hsplit] at hnested
      have hlength : (before ++ [['(']]).length = before.length + 1 := by simp
      have hinside := hfront.balanced_lexemes.pair_inside_iff hnested
      rw [hlength] at hinside
      have hend := hinside.mp ⟨by omega, by omega⟩
      omega

/-! ## The tree and the text -/

/-- No dead pair that opens before the place closes after it. -/
def Alive (scope : Scope) (text : List (List Char)) (start : ℕ) : Prop :=
  ∀ left right, Dead scope text left right → left < start → right < start

theorem not_deleted_of_alive {before after : List (List Char)} {lexeme : List Char}
    (htext : text = before ++ [lexeme] ++ after) (halive : Alive scope text before.length)
    (hopen : lexeme ≠ ['(']) : ¬Deleted scope text before.length := by
  intro hdeleted
  rcases hdeleted with ⟨left, hleft, right, -, hright, hdead⟩
  have hplace : text[before.length]? = some lexeme := by simp [htext]
  have hneLeft : left ≠ before.length := by
    intro heq
    subst heq
    rw [hdead.1.1] at hplace
    exact hopen (Option.some.inj hplace).symm
  have hbefore := halive left right hdead (by omega)
  omega

theorem expandAt_leaf {before after : List (List Char)} {lexeme : List Char}
    (htext : text = before ++ [lexeme] ++ after) (halive : Alive scope text before.length)
    (hopen : lexeme ≠ ['(']) (hclose : lexeme ≠ [')']) :
    expandAt scope text before.length [lexeme] =
      match named? lexeme with
      | some name => (scope.get? name).getD ""
      | none => String.ofList lexeme := by
  rw [expandAt_singleton, if_neg (not_deleted_of_alive htext halive hopen), written,
    if_neg (by simp [hopen, hclose])]

theorem expandAt_lexemes_of_forall {pattern : Pattern} (hspelled : pattern.Spelled)
    (h : ∀ segment ∈ pattern, ∀ before after, text = before ++ segment.lexemes ++ after →
      Alive scope text before.length →
      expandAt scope text before.length segment.lexemes = (segment.render scope).getD "")
    (before after : List (List Char)) (htext : text = before ++ pattern.lexemes ++ after)
    (halive : Alive scope text before.length) :
    expandAt scope text before.length pattern.lexemes = pattern.render scope := by
  induction pattern generalizing before with
  | nil => rfl
  | cons segment rest ih =>
      have hsplit : text = before ++ segment.lexemes ++ (Pattern.lexemes rest ++ after) := by
        rw [htext]
        simp
      have hfirst := h segment List.mem_cons_self before _ hsplit halive
      -- a pair that opens in the first segment closes there
      have hbalanced : lexemeParens.Balanced segment.lexemes := by
        have hsingle : Pattern.Spelled [segment] := by
          simpa [Pattern.Spelled] using hspelled segment List.mem_cons_self
        simpa using hsingle.balanced_lexemes
      have hafter : Alive scope text (before ++ segment.lexemes).length := by
        intro left right hdead hleft
        rw [List.length_append] at hleft ⊢
        by_cases hearly : left < before.length
        · have hearlyEnd := halive left right hdead hearly
          omega
        · have hpair := hdead.1
          rw [hsplit] at hpair
          exact ((hbalanced.pair_inside_iff hpair).mp ⟨by omega, hleft⟩).2
      have hrest := ih (fun other hmem => hspelled other (List.mem_cons_of_mem segment hmem))
        (fun other hmem => h other (List.mem_cons_of_mem segment hmem))
        (before ++ segment.lexemes) (by rw [htext]; simp) hafter
      rw [List.length_append] at hrest
      rw [Pattern.lexemes_cons, expandAt_append, hfirst, hrest, Pattern.render]

theorem render_group_eq_none {children : Pattern}
    (h : ∃ name, Segment.var name ∈ children ∧ scope.get? name = none) :
    Segment.render scope (.group children) = none := by
  rcases h with ⟨name, hmem, hvalue⟩
  rw [Segment.render, if_neg]
  intro hall
  have hname := List.all_eq_true.mp hall name (Pattern.mem_directNames.mpr hmem)
  simp [Scope.contains, hvalue] at hname

theorem render_group_eq_some {children : Pattern}
    (h : ¬∃ name, Segment.var name ∈ children ∧ scope.get? name = none) :
    Segment.render scope (.group children) = some (children.render scope) := by
  rw [Segment.render, if_pos]
  apply List.all_eq_true.mpr
  intro name hname
  rw [Scope.contains, Option.isSome_iff_ne_none]
  intro hvalue
  exact h ⟨name, Pattern.mem_directNames.mp hname, hvalue⟩

theorem expandAt_segment {segment : Segment} (hspelled : segment.Spelled) :
    ∀ before after, text = before ++ segment.lexemes ++ after →
      Alive scope text before.length →
      expandAt scope text before.length segment.lexemes = (segment.render scope).getD "" := by
  induction hspelled with
  | separator =>
      intro before after htext halive
      exact expandAt_leaf htext halive (by decide) (by decide)
  | @text content hlexeme hkind =>
      intro before after htext halive
      obtain ⟨hopen, hclose⟩ := Kind.ne_parens_of_text hkind
      rw [Segment.lexemes, expandAt_leaf htext halive hopen hclose, named?_text hkind]
      simp [Segment.render]
  | @var name hlexeme =>
      intro before after htext halive
      rw [Segment.lexemes, expandAt_leaf htext halive (by simp) (by simp)]
      simp [Segment.render, named?]
  | @group children hchildren ih =>
      intro before after htext halive
      have hpair := pair_of_group hchildren htext
      have hlength : (Segment.group children).lexemes.length =
          (Pattern.lexemes children).length + 2 := by simp [Segment.lexemes]
      by_cases hunbound : ∃ name, Segment.var name ∈ children ∧ scope.get? name = none
      · -- the group is left out: its own pair is dead, and around all its lexemes
        have hdead := (dead_iff hchildren htext).mpr hunbound
        rw [render_group_eq_none hunbound]
        apply expandAt_eq_empty
        intro place hfrom hto
        obtain ⟨hbound, -⟩ := List.getElem?_eq_some_iff.mp hpair.2.1
        exact ⟨before.length, hfrom, _, hbound, by omega, hdead⟩
      · -- the group stays: its parenthesis has one partner only, and this pair is not dead
        have hinside : Alive scope text (before ++ [['(']]).length := by
          intro left right hdead hleft
          rw [List.length_append, List.length_singleton] at hleft ⊢
          by_cases hearly : left < before.length
          · have hearlyEnd := halive left right hdead hearly
            omega
          · obtain rfl : left = before.length := by omega
            obtain rfl := hdead.1.right_unique hpair
            exact absurd ((dead_iff hchildren htext).mp hdead) hunbound
        have hchildrenText := expandAt_lexemes_of_forall hchildren ih (before ++ [['(']])
          ([')'] :: after) (by rw [htext]; simp [Segment.lexemes]) hinside
        rw [List.length_append, List.length_singleton] at hchildrenText
        rw [render_group_eq_some hunbound, Segment.lexemes, expandAt_append,
          ← List.singleton_append, expandAt_append, expandAt_singleton, List.length_singleton,
          hchildrenText, expandAt_singleton]
        simp [written]

theorem expand_lexemes {pattern : Pattern} (hspelled : pattern.Spelled) :
    expand scope pattern.lexemes = pattern.render scope := by
  have hwhole : pattern.lexemes = [] ++ pattern.lexemes ++ [] := by simp
  have halive : Alive scope pattern.lexemes ([] : List (List Char)).length :=
    fun left right _ hleft => absurd hleft (Nat.not_lt_zero left)
  exact expandAt_lexemes_of_forall hspelled
    (fun segment hmem => expandAt_segment (hspelled segment hmem)) [] [] hwhole halive

/-! ## Texts in which every variable has a value -/

theorem expand_eq_join (h : ∀ lexeme ∈ text, ¬Unbound scope lexeme) :
    expand scope text = String.join (text.map (written scope)) := by
  apply expandAt_eq_join
  intro place hdeleted
  rcases hdeleted with ⟨left, -, right, -, -, -, inside, -, -, ⟨lexeme, hlexeme, hunbound⟩, -⟩
  exact h lexeme (List.mem_of_getElem? hlexeme) hunbound

def bare (text : List Char) : String :=
  String.ofList (text.filter fun c => c ≠ '(' ∧ c ≠ ')')

theorem written_eq_bare {lexeme : List Char} (hlexeme : IsLexeme lexeme)
    (hnamed : named? lexeme = none) : written scope lexeme = bare lexeme := by
  unfold written
  split
  next hparen =>
    rcases hparen with rfl | rfl
    · rfl
    · rfl
  next hplain =>
    rw [not_or] at hplain
    have hnone : ∀ c ∈ lexeme, c ≠ '(' ∧ c ≠ ')' := by
      intro c hc
      constructor
      · intro heq
        subst heq
        exact hplain.1 (hlexeme.eq_singleton rfl hc)
      · intro heq
        subst heq
        exact hplain.2 (hlexeme.eq_singleton rfl hc)
    have hfilter : lexeme.filter (fun c => c ≠ '(' ∧ c ≠ ')') = lexeme :=
      List.filter_eq_self.mpr fun c hc => by simpa using hnone c hc
    rw [hnamed, bare, hfilter]

theorem join_map_bare (parts : List (List Char)) :
    String.join (parts.map bare) = bare parts.flatten := by
  induction parts with
  | nil => rfl
  | cons part rest ih =>
      rw [List.map_cons, String.join_cons, ih, List.flatten_cons, bare, bare, bare,
        List.filter_append, String.ofList_append]

theorem join_written_eq_bare {raw : List Char}
    (h : ∀ lexeme ∈ lexemes raw, named? lexeme = none) :
    String.join ((lexemes raw).map (written scope)) = bare raw := by
  have hwritten : (lexemes raw).map (written scope) = (lexemes raw).map bare :=
    List.map_congr_left fun lexeme hmem => written_eq_bare (isLexeme_of_mem hmem) (h lexeme hmem)
  rw [hwritten, join_map_bare, flatten_lexemes]

end PathTemplate.Expansion
