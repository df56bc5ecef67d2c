import Mathlib.Tactic

/-!
# Nesting of parentheses

A text with an opening and a closing mark has a depth before each of its places, the number of
stretches open there.  All that is said about matching marks is said through it: two marks belong
together if the closing one is the first at which the depth is back to what it was, and a text is
balanced if the depth never falls below zero and ends at zero.

A text read in part is cut at the marks that nothing closes so far.  What stands between two cuts
is balanced, so a closing mark belongs to the innermost cut.
-/

namespace PathTemplate

/-- Two different marks, one to open a stretch of text and one to close it. -/
structure Parens (α : Type) where
  opening : α
  closing : α
  opening_ne_closing : opening ≠ closing

namespace Parens

variable {α : Type} [DecidableEq α] (parens : Parens α)

def weight (x : α) : ℤ :=
  if x = parens.opening then 1 else if x = parens.closing then -1 else 0

/-- The number of stretches that are open before a place of the text. -/
def depth (text : List α) (place : ℕ) : ℤ :=
  ((text.take place).map parens.weight).sum

def Pair (text : List α) (left right : ℕ) : Prop :=
  text[left]? = some parens.opening ∧ text[right]? = some parens.closing ∧ left < right ∧
    parens.depth text (right + 1) = parens.depth text left ∧
    ∀ place ≤ right, left < place → parens.depth text left < parens.depth text place

instance (text : List α) (left right : ℕ) : Decidable (parens.Pair text left right) :=
  inferInstanceAs (Decidable (_ ∧ _ ∧ _ ∧ _ ∧ _))

structure Balanced (text : List α) : Prop where
  nonneg : ∀ place, 0 ≤ parens.depth text place
  settled : parens.depth text text.length = 0

@[simp] theorem weight_opening : parens.weight parens.opening = 1 := by
  simp [weight]

@[simp] theorem weight_closing : parens.weight parens.closing = -1 := by
  simp [weight, parens.opening_ne_closing.symm]

/-! ## Depth -/

@[simp] theorem depth_nil (place : ℕ) : parens.depth [] place = 0 := by
  simp [depth]

@[simp] theorem depth_zero (text : List α) : parens.depth text 0 = 0 := by
  simp [depth]

theorem depth_append (before after : List α) (place : ℕ) :
    parens.depth (before ++ after) place =
      parens.depth before place + parens.depth after (place - before.length) := by
  simp [depth, List.take_append]

theorem depth_cons_succ (x : α) (text : List α) (place : ℕ) :
    parens.depth (x :: text) (place + 1) = parens.weight x + parens.depth text place := by
  simp [depth]

theorem depth_of_length_le (text : List α) {place : ℕ} (h : text.length ≤ place) :
    parens.depth text place = parens.depth text text.length := by
  simp [depth, List.take_of_length_le h]

theorem depth_within (before inner after : List α) {place : ℕ} (h : place ≤ inner.length) :
    parens.depth (before ++ inner ++ after) (before.length + place) =
      parens.depth before before.length + parens.depth inner place := by
  have hafter : before.length + place - (before ++ inner).length = 0 := by
    rw [List.length_append]
    omega
  rw [depth_append, hafter, depth_zero, add_zero, depth_append,
    depth_of_length_le parens before (Nat.le_add_right _ _), Nat.add_sub_cancel_left]

theorem depth_take (text : List α) {place total : ℕ} (h : place ≤ total) :
    parens.depth (text.take total) place = parens.depth text place := by
  rw [depth, depth, List.take_take, min_eq_left h]

theorem depth_succ {text : List α} {place : ℕ} {x : α} (h : text[place]? = some x) :
    parens.depth text (place + 1) = parens.depth text place + parens.weight x := by
  simp [depth, List.take_add_one, h]

theorem depth_eq_count_sub_count (text : List α) (place : ℕ) :
    parens.depth text place =
      ((text.take place).count parens.opening : ℤ) - (text.take place).count parens.closing := by
  unfold depth
  induction text.take place with
  | nil => simp
  | cons x rest ih =>
      rw [List.map_cons, List.sum_cons, ih, List.count_cons, List.count_cons]
      by_cases hopening : x = parens.opening
      · subst x
        simp [parens.opening_ne_closing]
        omega
      · by_cases hclosing : x = parens.closing
        · subst x
          simp [parens.opening_ne_closing.symm]
          omega
        · simp [weight, hopening, hclosing]

/-! ## Pairs -/

variable {parens}

theorem Pair.right_unique {text : List α} {left right other : ℕ}
    (h : parens.Pair text left right) (hother : parens.Pair text left other) :
    right = other := by
  rcases h with ⟨-, -, hlt, hback, habove⟩
  rcases hother with ⟨-, -, hlt', hback', habove'⟩
  rcases lt_trichotomy right other with hless | heq | hless
  · have hdeep := habove' (right + 1) (by omega) (by omega)
    omega
  · exact heq
  · have hdeep := habove (other + 1) (by omega) (by omega)
    omega

/-- An opening mark is closed exactly if the depth falls back to what it was before the mark. -/
theorem exists_pair_iff {text : List α} {left : ℕ} (h : text[left]? = some parens.opening) :
    (∃ right, parens.Pair text left right) ↔
      ∃ place, left < place ∧ parens.depth text place ≤ parens.depth text left := by
  constructor
  · intro hpair
    rcases hpair with ⟨right, -, -, hlt, hback, -⟩
    exact ⟨right + 1, by omega, by omega⟩
  · intro hfall
    classical
    let place := Nat.find hfall
    have hplace : left < place ∧ parens.depth text place ≤ parens.depth text left :=
      Nat.find_spec hfall
    have hbefore : ∀ earlier < place, left < earlier →
        parens.depth text left < parens.depth text earlier := by
      intro earlier hearlier hleft
      have hnot := Nat.find_min hfall hearlier
      by_contra hle
      exact hnot ⟨hleft, by omega⟩
    have hrise : parens.depth text (left + 1) = parens.depth text left + 1 := by
      rw [depth_succ parens h, weight_opening]
    have hne : place ≠ left + 1 := by
      intro heq
      rw [heq] at hplace
      omega
    obtain ⟨right, hright⟩ : ∃ right, place = right + 1 := ⟨place - 1, by omega⟩
    have hdeep := hbefore right (by omega) (by omega)
    cases hmark : text[right]? with
    | none =>
        have hlength : text.length ≤ right := List.getElem?_eq_none_iff.mp hmark
        have hsame : parens.depth text place = parens.depth text right := by
          rw [depth_of_length_le parens text hlength, depth_of_length_le parens text (by omega)]
        omega
    | some x =>
        have hfallen := depth_succ parens hmark
        rw [← hright] at hfallen
        have hweight : parens.weight x = -1 ∧ x = parens.closing := by
          unfold weight at hfallen ⊢
          split at hfallen
          · omega
          · split at hfallen
            · next hclosing => simp [hclosing, parens.opening_ne_closing.symm]
            · omega
        refine ⟨right, h, ?_, by omega, ?_, ?_⟩
        · rw [hmark, hweight.2]
        · rw [← hright]
          omega
        · intro earlier hearlier hleft
          exact hbefore earlier (by omega) hleft

/-! ## Balanced texts -/

theorem balanced_nil : parens.Balanced ([] : List α) where
  nonneg := by simp
  settled := by simp

theorem Balanced.append {before after : List α} (hbefore : parens.Balanced before)
    (hafter : parens.Balanced after) : parens.Balanced (before ++ after) where
  nonneg := by
    intro place
    rw [depth_append]
    exact add_nonneg (hbefore.nonneg place) (hafter.nonneg _)
  settled := by
    rw [depth_append, depth_of_length_le parens before (by simp), hbefore.settled]
    simpa using hafter.settled

theorem balanced_of_forall_ne {text : List α}
    (h : ∀ x ∈ text, x ≠ parens.opening ∧ x ≠ parens.closing) : parens.Balanced text := by
  have hflat : ∀ place, parens.depth text place = 0 := by
    intro place
    unfold depth
    apply List.sum_eq_zero
    intro weight hweight
    obtain ⟨x, hx, rfl⟩ := List.mem_map.mp hweight
    have hmark := h x (List.mem_of_mem_take hx)
    simp [Parens.weight, hmark.1, hmark.2]
  exact ⟨fun place => (hflat place).ge, hflat text.length⟩

theorem Balanced.nest {inner : List α} (h : parens.Balanced inner) :
    parens.Balanced (parens.opening :: inner ++ [parens.closing]) where
  nonneg := by
    intro place
    cases place with
    | zero => simp
    | succ place =>
        rw [List.cons_append, depth_cons_succ, depth_append, weight_opening]
        have hinner := h.nonneg place
        have hlast : -1 ≤ parens.depth [parens.closing] (place - inner.length) := by
          cases place - inner.length with
          | zero => simp
          | succ rest => simp [depth_cons_succ]
        omega
  settled := by
    rw [List.cons_append, List.length_cons, depth_cons_succ, depth_append,
      depth_of_length_le parens inner (by simp), h.settled]
    simp [depth_cons_succ]

theorem Balanced.pair_around {inner : List α} (h : parens.Balanced inner) (before after : List α) :
    parens.Pair (before ++ (parens.opening :: inner ++ [parens.closing]) ++ after) before.length
      (before.length + (inner.length + 1)) := by
  have hlength : (parens.opening :: inner ++ [parens.closing]).length = inner.length + 2 := by simp
  have hdepth : ∀ place ≤ inner.length + 2,
      parens.depth (before ++ (parens.opening :: inner ++ [parens.closing]) ++ after)
          (before.length + place) =
        parens.depth before before.length +
          parens.depth (parens.opening :: inner ++ [parens.closing]) place :=
    fun place hplace => depth_within parens before _ after (hlength ▸ hplace)
  have hstart := hdepth 0 (Nat.zero_le _)
  rw [depth_zero, Nat.add_zero] at hstart
  have hend := hdepth (inner.length + 2) le_rfl
  have hsettled := h.nest.settled
  rw [hlength] at hsettled
  rw [hsettled] at hend
  refine ⟨by simp, ?_, by omega, hend.trans hstart.symm, ?_⟩
  · rw [List.append_assoc, List.getElem?_append_right (by omega), Nat.add_sub_cancel_left]
    simp
  · intro place hto hfrom
    obtain ⟨rest, rfl⟩ : ∃ rest, place = before.length + (rest + 1) :=
      ⟨place - before.length - 1, by omega⟩
    have hrest : rest ≤ inner.length := by omega
    have hinside : parens.depth (parens.opening :: inner ++ [parens.closing]) (rest + 1) =
        1 + parens.depth inner rest := by
      rw [List.cons_append, depth_cons_succ, weight_opening, depth_append,
        Nat.sub_eq_zero_of_le hrest, depth_zero, add_zero]
    have hnonneg := h.nonneg rest
    rw [hdepth (rest + 1) (by omega), hstart, hinside]
    omega

/-- No pair has one mark inside a balanced stretch and the other outside. -/
theorem Balanced.pair_inside_iff {before inner after : List α} (h : parens.Balanced inner)
    {left right : ℕ} (hpair : parens.Pair (before ++ inner ++ after) left right) :
    (before.length ≤ left ∧ left < before.length + inner.length) ↔
      (before.length ≤ right ∧ right < before.length + inner.length) := by
  rcases hpair with ⟨hleft, hright, hlt, hback, habove⟩
  have hrise := depth_succ parens hleft
  rw [weight_opening] at hrise
  have hfall := depth_succ parens hright
  rw [weight_closing] at hfall
  -- along the balanced stretch the depth never falls below what it is at the start and at the end
  have hstart : parens.depth (before ++ inner ++ after) before.length =
      parens.depth before before.length := by
    simpa using depth_within parens before inner after (Nat.zero_le _)
  have hends : parens.depth (before ++ inner ++ after) (before.length + inner.length) =
      parens.depth before before.length := by
    rw [depth_within parens before inner after le_rfl, h.settled, add_zero]
  have hstretch : ∀ place, before.length ≤ place → place ≤ before.length + inner.length →
      parens.depth before before.length ≤ parens.depth (before ++ inner ++ after) place := by
    intro place hfrom hto
    obtain ⟨rest, rfl⟩ : ∃ rest, place = before.length + rest := ⟨place - before.length, by omega⟩
    have hinner := h.nonneg rest
    rw [depth_within parens before inner after (by omega)]
    omega
  constructor
  · intro hinside
    rcases hinside with ⟨hfrom, hto⟩
    refine ⟨by omega, ?_⟩
    by_contra hbeyond
    have hdeep := habove (before.length + inner.length) (by omega) (by omega)
    have hleftDepth := hstretch left hfrom (by omega)
    omega
  · intro hinside
    rcases hinside with ⟨hfrom, hto⟩
    refine ⟨?_, by omega⟩
    by_contra hoff
    have hafterFall := hstretch (right + 1) (by omega) (by omega)
    have hdeep := habove before.length hfrom (by omega)
    omega

/-! ## Texts read in part -/

variable (parens) in
def Unclosed (text : List α) (place : ℕ) : Prop :=
  text[place]? = some parens.opening ∧ ∀ right, ¬parens.Pair text place right

theorem unclosed_iff {text : List α} {place : ℕ} :
    parens.Unclosed text place ↔ text[place]? = some parens.opening ∧
      ∀ later, place < later → parens.depth text place < parens.depth text later := by
  unfold Unclosed
  constructor
  · intro hunclosed
    rcases hunclosed with ⟨hmark, hopen⟩
    apply And.intro hmark
    intro later hlater
    by_contra hfall
    obtain ⟨right, hpair⟩ := (exists_pair_iff hmark).mpr ⟨later, hlater, not_lt.mp hfall⟩
    exact hopen right hpair
  · intro hstays
    rcases hstays with ⟨hmark, habove⟩
    apply And.intro hmark
    intro right hpair
    obtain ⟨later, hlater, hfall⟩ := (exists_pair_iff hmark).mp ⟨right, hpair⟩
    exact absurd (habove later hlater) (not_lt.mpr hfall)

variable (parens) in
/-- `Cut text fronts`: the marks of `text` that nothing closes stand after the texts in `fronts`,
the last of them first. -/
inductive Cut : List α → List (List α) → Prop
  | settled {text : List α} (h : parens.Balanced text) : Cut text []
  | opened {front inner : List α} {fronts : List (List α)} (hfront : Cut front fronts)
      (hinner : parens.Balanced inner) :
      Cut (front ++ parens.opening :: inner) (front :: fronts)

theorem Cut.depth_nonneg {text : List α} {fronts : List (List α)} (h : parens.Cut text fronts)
    (place : ℕ) : 0 ≤ parens.depth text place := by
  induction h generalizing place with
  | settled hbalanced => exact hbalanced.nonneg place
  | @opened front inner fronts hfront hinner ih =>
      rw [depth_append]
      have hbefore := ih place
      cases place - front.length with
      | zero => simpa using hbefore
      | succ rest =>
          have hafter := hinner.nonneg rest
          rw [depth_cons_succ, weight_opening]
          omega

theorem Cut.depth_length {text : List α} {fronts : List (List α)} (h : parens.Cut text fronts) :
    parens.depth text text.length = fronts.length := by
  induction h with
  | settled hbalanced => simpa using hbalanced.settled
  | @opened front inner fronts hfront hinner ih =>
      have hplace : (front ++ parens.opening :: inner).length - front.length =
          inner.length + 1 := by simp
      rw [depth_append, depth_of_length_le parens front (by simp), ih, hplace,
        depth_cons_succ, hinner.settled, weight_opening, List.length_cons]
      push_cast
      ring

/-- What stands before an unclosed mark is the beginning of the text, and the mark comes next. -/
theorem Cut.concat_prefix_of_mem {text front : List α} {fronts : List (List α)}
    (h : parens.Cut text fronts) (hmem : front ∈ fronts) : front ++ [parens.opening] <+: text := by
  induction h with
  | settled hbalanced => simp at hmem
  | @opened outer inner fronts hfront hinner ih =>
      rcases List.mem_cons.mp hmem with rfl | hrest
      · exact ⟨inner, by simp⟩
      · exact (ih hrest).trans (List.prefix_append outer _)

theorem Cut.take_length {text front : List α} {fronts : List (List α)}
    (h : parens.Cut text fronts) (hmem : front ∈ fronts) : text.take front.length = front := by
  rcases h.concat_prefix_of_mem hmem with ⟨rest, rfl⟩
  rw [List.append_assoc, List.take_left]

theorem Cut.length_lt {text front : List α} {fronts : List (List α)}
    (h : parens.Cut text fronts) (hmem : front ∈ fronts) : front.length < text.length := by
  have hlength := (h.concat_prefix_of_mem hmem).length_le
  rw [List.length_append, List.length_singleton] at hlength
  omega

/-- Of two unclosed marks, the one that is listed first stands further on. -/
theorem Cut.pairwise_fronts {text : List α} {fronts : List (List α)}
    (h : parens.Cut text fronts) :
    fronts.Pairwise fun later earlier => earlier ++ [parens.opening] <+: later := by
  induction h with
  | settled hbalanced => exact .nil
  | @opened front inner fronts hfront hinner ih =>
      exact .cons (fun earlier => hfront.concat_prefix_of_mem) ih

theorem Balanced.not_unclosed {text : List α} (h : parens.Balanced text) (place : ℕ) :
    ¬parens.Unclosed text place := by
  rw [unclosed_iff]
  intro hunclosed
  rcases hunclosed with ⟨hmark, habove⟩
  obtain ⟨hlt, -⟩ := List.getElem?_eq_some_iff.mp hmark
  have hend := habove text.length hlt
  have hplace := h.nonneg place
  rw [h.settled] at hend
  omega

theorem Cut.mem_iff_unclosed {text : List α} {fronts : List (List α)}
    (h : parens.Cut text fronts) (place : ℕ) :
    place ∈ fronts.map List.length ↔ parens.Unclosed text place := by
  induction h with
  | settled hbalanced => simpa using hbalanced.not_unclosed place
  | @opened front inner fronts hfront hinner ih =>
      have hdepth : ∀ later, parens.depth (front ++ parens.opening :: inner) later =
          parens.depth front later + parens.depth (parens.opening :: inner)
            (later - front.length) := depth_append parens front _
      have hinside : ∀ later, front.length < later →
          1 ≤ parens.depth (parens.opening :: inner) (later - front.length) := by
        intro later hlater
        obtain ⟨rest, hrest⟩ : ∃ rest, later - front.length = rest + 1 :=
          ⟨later - front.length - 1, by omega⟩
        have hnonneg := hinner.nonneg rest
        rw [hrest, depth_cons_succ, weight_opening]
        omega
      rw [List.map_cons, List.mem_cons, ih, unclosed_iff, unclosed_iff]
      -- before the innermost cut nothing changes, and after it every mark is closed
      rcases lt_trichotomy place front.length with hbefore | rfl | hafter
      · have hmark : (front ++ parens.opening :: inner)[place]? = front[place]? :=
          List.getElem?_append_left hbefore
        have hsame : ∀ later ≤ front.length,
            parens.depth (front ++ parens.opening :: inner) later = parens.depth front later := by
          intro later hlater
          rw [hdepth, Nat.sub_eq_zero_of_le hlater, depth_zero, add_zero]
        rw [hmark, hsame place hbefore.le]
        constructor
        · intro hcases
          rcases hcases with rfl | ⟨hopening, habove⟩
          · omega
          · apply And.intro hopening
            intro later hlater
            have hfront := habove later hlater
            by_cases hwithin : later ≤ front.length
            · rwa [hsame later hwithin]
            · have hmore := hinside later (by omega)
              rw [hdepth]
              omega
        · intro hunclosed
          rcases hunclosed with ⟨hopening, habove⟩
          apply Or.inr
          apply And.intro hopening
          intro later hlater
          by_cases hwithin : later ≤ front.length
          · rw [← hsame later hwithin]
            exact habove later hlater
          · have hend := habove front.length hbefore
            rw [hsame front.length le_rfl] at hend
            have hbeyond : parens.depth front later = parens.depth front front.length :=
              depth_of_length_le parens front (by omega)
            rwa [hbeyond]
      · simp only [true_or, true_iff]
        apply And.intro (by simp)
        intro later hlater
        have hmore := hinside later hlater
        rw [hdepth, hdepth, Nat.sub_self, depth_zero,
          depth_of_length_le parens front hlater.le]
        omega
      · have hnone : front[place]? = none := List.getElem?_eq_none_iff.mpr hafter.le
        simp only [hnone, hafter.ne', reduceCtorEq, false_and, or_self, false_iff]
        intro hunclosed
        rcases hunclosed with ⟨hopening, habove⟩
        obtain ⟨hlt, -⟩ := List.getElem?_eq_some_iff.mp hopening
        have hend := habove _ hlt
        have hlength : (front ++ parens.opening :: inner).length - front.length =
            inner.length + 1 := by simp
        have hhere := hinside place hafter
        have hfirst : parens.depth front place = parens.depth front front.length :=
          depth_of_length_le parens front hafter.le
        have hlast : parens.depth front (front ++ parens.opening :: inner).length =
            parens.depth front front.length := depth_of_length_le parens front (by simp)
        rw [hdepth, hdepth, hfirst, hlast, hlength, depth_cons_succ, hinner.settled,
          weight_opening] at hend
        omega

theorem Cut.isGreatest_unclosed {text front : List α} {fronts : List (List α)}
    (h : parens.Cut text (front :: fronts)) :
    IsGreatest {place | parens.Unclosed text place} front.length := by
  apply And.intro ((h.mem_iff_unclosed _).mp (by simp))
  intro place hplace
  have hcut := (h.mem_iff_unclosed place).mpr hplace
  cases h with
  | opened hfront hinner =>
      rcases List.mem_cons.mp hcut with rfl | hrest
      · exact le_rfl
      · obtain ⟨outer, houter, rfl⟩ := List.mem_map.mp hrest
        exact (hfront.length_lt houter).le

end Parens
end PathTemplate
