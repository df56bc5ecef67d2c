import PathTemplate.Pattern.Outline
import PathTemplate.Proofs.Nesting
import PathTemplate.Proofs.Pattern.Lexeme

/-!
# Reading an outline

An outline stands for the lexemes read so far: those of its top level, and then, for each group
still open, its parenthesis and the lexemes that it holds.  The offset kept with a group is the size
of all that comes before its parenthesis.  Each step adds the lexeme of its token, whether it adds a
segment, opens a group or closes one, and only a closing parenthesis without a group to close stops
the reading.
-/

namespace PathTemplate

open Token

/-! ## Lexemes of a tree -/

mutual

def Segment.lexemes : Segment → List (List Char)
  | .separator => [['/']]
  | .text content => [content.toList]
  | .var name => [':' :: name.toList]
  | .group children => ['('] :: Pattern.lexemes children ++ [[')']]

def Pattern.lexemes : Pattern → List (List Char)
  | [] => []
  | segment :: rest => segment.lexemes ++ Pattern.lexemes rest

end

namespace Pattern

@[simp] theorem lexemes_nil : lexemes [] = [] := by
  rw [lexemes]

@[simp] theorem lexemes_cons (segment : Segment) (rest : Pattern) :
    lexemes (segment :: rest) = segment.lexemes ++ lexemes rest := by
  rw [lexemes]

@[simp] theorem lexemes_append (before after : Pattern) :
    lexemes (before ++ after) = lexemes before ++ lexemes after := by
  induction before with
  | nil => simp
  | cons segment rest ih => simp [ih]

end Pattern

/-- Every text and every variable in the tree is read back from its own lexeme. -/
inductive Segment.Spelled : Segment → Prop
  | separator : Spelled .separator
  | text {content : String} (hlexeme : IsLexeme content.toList)
      (hkind : Kind.ofLexeme? content.toList = some (.text content)) : Spelled (.text content)
  | var {name : String} (hlexeme : IsLexeme (':' :: name.toList)) : Spelled (.var name)
  | group {children : Pattern} (hchildren : ∀ segment ∈ children, Spelled segment) :
      Spelled (.group children)

def Pattern.Spelled (pattern : Pattern) : Prop :=
  ∀ segment ∈ pattern, segment.Spelled

def parens : Parens Char := ⟨'(', ')', by decide⟩

def lexemeParens : Parens (List Char) := ⟨['('], [')'], by decide⟩

section Balance

variable {α : Type} [DecidableEq α] {marks : Parens α} {f : List Char → List α}

theorem Pattern.balanced_flatMap_of_forall {pattern : Pattern}
    (h : ∀ segment ∈ pattern, marks.Balanced (segment.lexemes.flatMap f)) :
    marks.Balanced (pattern.lexemes.flatMap f) := by
  induction pattern with
  | nil => simpa using Parens.balanced_nil
  | cons segment rest ih =>
      have hfirst := h segment List.mem_cons_self
      have hrest := ih fun other hmem => h other (List.mem_cons_of_mem segment hmem)
      simpa using hfirst.append hrest

/-- A tree is balanced in any form of its lexemes in which the parentheses are the marks. -/
theorem Segment.Spelled.balanced_flatMap {segment : Segment} (h : segment.Spelled)
    (hopening : f ['('] = [marks.opening]) (hclosing : f [')'] = [marks.closing])
    (hplain : ∀ lexeme, IsLexeme lexeme → lexeme ≠ ['('] → lexeme ≠ [')'] →
      marks.Balanced (f lexeme)) :
    marks.Balanced (segment.lexemes.flatMap f) := by
  induction h with
  | separator =>
      have hslash := hplain ['/'] (.inl ⟨'/', rfl, rfl⟩) (by decide) (by decide)
      simpa [Segment.lexemes] using hslash
  | @text content hlexeme hkind =>
      rcases Kind.ne_parens_of_text hkind with ⟨hopen, hclose⟩
      have hcontent := hplain content.toList hlexeme hopen hclose
      simpa [Segment.lexemes] using hcontent
  | @var name hlexeme =>
      have hname := hplain (':' :: name.toList) hlexeme (by simp) (by simp)
      simpa [Segment.lexemes] using hname
  | group hchildren ih =>
      have hinner := Pattern.balanced_flatMap_of_forall ih
      simpa [Segment.lexemes, hopening, hclosing] using hinner.nest

end Balance

theorem Pattern.Spelled.balanced_lexemes {pattern : Pattern} (h : pattern.Spelled) :
    lexemeParens.Balanced pattern.lexemes := by
  have hplain : ∀ lexeme, IsLexeme lexeme → lexeme ≠ ['('] → lexeme ≠ [')'] →
      lexemeParens.Balanced [lexeme] := by
    intro lexeme _ hopen hclose
    exact Parens.balanced_of_forall_ne (by simpa using ⟨hopen, hclose⟩)
  have hbalanced := Pattern.balanced_flatMap_of_forall fun segment hmem =>
    (h segment hmem).balanced_flatMap rfl rfl hplain
  simpa using hbalanced

theorem Pattern.Spelled.balanced_flatten {pattern : Pattern} (h : pattern.Spelled) :
    parens.Balanced pattern.lexemes.flatten := by
  have hplain : ∀ lexeme, IsLexeme lexeme → lexeme ≠ ['('] → lexeme ≠ [')'] →
      parens.Balanced (id lexeme) := by
    intro lexeme hlexeme hopen hclose
    apply Parens.balanced_of_forall_ne
    intro c hc
    constructor
    · intro heq
      subst heq
      exact hopen (hlexeme.eq_singleton rfl hc)
    · intro heq
      subst heq
      exact hclose (hlexeme.eq_singleton rfl hc)
  have hbalanced := Pattern.balanced_flatMap_of_forall fun segment hmem =>
    (h segment hmem).balanced_flatMap rfl rfl hplain
  simpa [List.flatMap_id] using hbalanced

/-! ## Outlines -/

namespace Outline

/-- The outline stands for the lexemes: those of the top level, and then each open group with its
parenthesis and its content. -/
inductive Reads : Outline → List (List Char) → Prop
  | top {content : Array Segment} (hcontent : Pattern.Spelled content.toList) :
      Reads ⟨content, []⟩ (Pattern.lexemes content.toList)
  | group {top content : Array Segment} {outer : List PartialGroup} {front : List (List Char)}
      (hfront : Reads ⟨top, outer⟩ front) (hcontent : Pattern.Spelled content.toList) :
      Reads ⟨top, ⟨byteSize front.flatten, content⟩ :: outer⟩
        (front ++ ['('] :: Pattern.lexemes content.toList)

theorem reads_empty : empty.Reads [] :=
  .top (by simp [Pattern.Spelled])

theorem spelled_push {content : Array Segment} {segment : Segment}
    (hcontent : Pattern.Spelled content.toList) (hsegment : segment.Spelled) :
    Pattern.Spelled (content.push segment).toList := by
  intro other hmem
  rw [Array.toList_push] at hmem
  rcases List.mem_append.mp hmem with hold | hnew
  · exact hcontent other hold
  · rw [List.mem_singleton.mp hnew]
    exact hsegment

theorem Reads.add {outline : Outline} {done : List (List Char)} (h : outline.Reads done)
    {segment : Segment} (hsegment : segment.Spelled) :
    (outline.add segment).Reads (done ++ segment.lexemes) := by
  cases h with
  | @top content hcontent =>
      have hadded := Reads.top (spelled_push hcontent hsegment)
      simpa [Outline.add] using hadded
  | @group top content outer front hfront hcontent =>
      have hadded := Reads.group hfront (spelled_push hcontent hsegment)
      simpa [Outline.add] using hadded

theorem Reads.enterGroup {outline : Outline} {done : List (List Char)} (h : outline.Reads done) :
    (outline.enterGroup (byteSize done.flatten)).Reads (done ++ [['(']]) := by
  have hnothing : Pattern.Spelled (#[] : Array Segment).toList := by simp [Pattern.Spelled]
  have hentered := h.group hnothing
  simpa [Outline.enterGroup] using hentered

theorem Reads.leaveGroup {outline outer : Outline} {done : List (List Char)}
    (h : outline.Reads done) (hleave : outline.leaveGroup? = some outer) :
    outer.Reads (done ++ [[')']]) := by
  cases h with
  | top hcontent => cases hleave
  | @group top content groups front hfront hcontent =>
      obtain rfl := Option.some.inj hleave
      have hadded := hfront.add (.group hcontent)
      simpa [Segment.lexemes] using hadded

theorem Reads.of_groups_eq_nil {outline : Outline} {done : List (List Char)}
    (h : outline.Reads done) (hgroups : outline.groups = []) :
    Pattern.Spelled outline.top.toList ∧ Pattern.lexemes outline.top.toList = done := by
  cases h with
  | top hcontent => exact ⟨hcontent, rfl⟩
  | group hfront hcontent => cases hgroups

theorem leaveGroup?_eq_none_iff {outline : Outline} :
    outline.leaveGroup? = none ↔ outline.groups = [] := by
  unfold leaveGroup?
  split <;> simp_all

/-- The offsets kept with the open groups are those of the parentheses that nothing closes. -/
theorem Reads.exists_cut {outline : Outline} {done : List (List Char)} (h : outline.Reads done) :
    ∃ fronts, parens.Cut done.flatten fronts ∧
      outline.groups.map PartialGroup.start = fronts.map byteSize := by
  induction h with
  | top hcontent => exact ⟨[], .settled hcontent.balanced_flatten, rfl⟩
  | @group top content outer front hfront hcontent ih =>
      rcases ih with ⟨fronts, hcut, hstarts⟩
      refine ⟨front.flatten :: fronts, ?_, ?_⟩
      · have hopened := Parens.Cut.opened hcut hcontent.balanced_flatten
        simpa [parens] using hopened
      · rw [List.map_cons, List.map_cons, ← hstarts]

/-- One token: the outline takes in its lexeme, unless this closes a group that is not there. -/
theorem Reads.step {outline : Outline} {done : List (List Char)} (h : outline.Reads done)
    {lexeme : List Char} {kind : Kind} (hlexeme : IsLexeme lexeme)
    (hkind : Kind.ofLexeme? lexeme = some kind) :
    (∃ next, outline.step ⟨kind, byteSize done.flatten⟩ = .ok next ∧
      next.Reads (done ++ [lexeme])) ∨
    (lexeme = [')'] ∧ parens.Balanced done.flatten ∧
      outline.step ⟨kind, byteSize done.flatten⟩ =
        .error (.strayClose (byteSize done.flatten))) := by
  have hsource := Kind.toList_source_of_ofLexeme? hkind
  cases kind with
  | separator =>
      have hnext := h.add .separator
      rw [← hsource]
      exact .inl ⟨_, rfl, hnext⟩
  | text content =>
      have hcontent : content.toList = lexeme := hsource
      rw [← hcontent] at hlexeme hkind ⊢
      have hnext := h.add (.text hlexeme hkind)
      exact .inl ⟨_, rfl, hnext⟩
  | var name =>
      have hname : ':' :: name.toList = lexeme := by
        simpa [Kind.source] using hsource
      rw [← hname] at hlexeme ⊢
      have hnext := h.add (.var hlexeme)
      exact .inl ⟨_, rfl, hnext⟩
  | groupOpen =>
      have hnext := h.enterGroup
      rw [← hsource]
      exact .inl ⟨_, rfl, hnext⟩
  | groupClose =>
      cases hleave : outline.leaveGroup? with
      | some outer =>
          have hnext := h.leaveGroup hleave
          rw [← hsource]
          exact .inl ⟨outer, by simp [Outline.step, hleave], hnext⟩
      | none =>
          rcases h.of_groups_eq_nil (leaveGroup?_eq_none_iff.mp hleave) with ⟨hspelled, hlexemes⟩
          have hbalanced := hspelled.balanced_flatten
          rw [hlexemes] at hbalanced
          exact .inr ⟨hsource.symm, hbalanced, by simp [Outline.step, hleave]⟩

/-- All tokens: the outline takes in all lexemes, unless one of them is a closing parenthesis after
a balanced beginning. -/
theorem Reads.foldlM {outline : Outline} {done : List (List Char)} (h : outline.Reads done)
    {position : ℕ} {tokens : List Token} {parts : List (List Char)}
    (hspells : Spells position tokens parts) (hposition : position = byteSize done.flatten)
    (hparts : ∀ lexeme ∈ parts, IsLexeme lexeme) :
    (∃ final, tokens.foldlM Outline.step outline = .ok final ∧ final.Reads (done ++ parts)) ∨
    (∃ before after, parts = before ++ [')'] :: after ∧
      parens.Balanced (done ++ before).flatten ∧
      tokens.foldlM Outline.step outline =
        .error (.strayClose (byteSize (done ++ before).flatten))) := by
  -- each step moves one lexeme from those to come to those done
  induction hspells generalizing outline done with
  | nil => exact .inl ⟨outline, rfl, by simpa using h⟩
  | @cons position kind lexeme tokens rest hkind hrest ih =>
      subst hposition
      rcases h.step (hparts lexeme List.mem_cons_self) hkind with
        ⟨next, hstep, hnext⟩ | ⟨hclose, hbalanced, hstep⟩
      · have hseam : byteSize done.flatten + byteSize lexeme =
            byteSize (done ++ [lexeme]).flatten := by
          simp [byteSize_append]
        have hrun := ih hnext hseam
          (fun other hmem => hparts other (List.mem_cons_of_mem lexeme hmem))
        rw [List.foldlM_cons, hstep]
        rcases hrun with ⟨final, hfinal, hreads⟩ | ⟨before, after, hsplit, hbalanced, hfault⟩
        · exact .inl ⟨final, hfinal, by simpa using hreads⟩
        · rw [List.append_assoc, List.singleton_append] at hbalanced hfault
          exact .inr ⟨lexeme :: before, after, by simp [hsplit], hbalanced, hfault⟩
      · have hfault : List.foldlM Outline.step outline
            (⟨kind, byteSize done.flatten⟩ :: tokens) =
              .error (.strayClose (byteSize done.flatten)) := by
          rw [List.foldlM_cons, hstep]
          rfl
        exact .inr ⟨[], rest, by simp [hclose], by simpa using hbalanced, by simpa using hfault⟩

end Outline

end PathTemplate
