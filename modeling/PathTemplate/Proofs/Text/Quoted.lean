import Mathlib
import PathTemplate.Text.Quoted

/-!
# Quoted text can be told apart

The escape of a character ends where it shows that it does: after one letter, at a closing brace, or
at once.  No escape starts with a quotation mark.  So a quoted text ends at its first bare quotation
mark and determines what it quotes, and a list of quoted texts determines the list.
-/

namespace PathTemplate.Text

/-! ## The number of a character -/

theorem digitChar_injOn {m n : ℕ} (hm : m < 16) (hn : n < 16)
    (h : Nat.digitChar m = Nat.digitChar n) : m = n := by
  have hall : ∀ left right : Fin 16, Nat.digitChar left = Nat.digitChar right → left = right := by
    decide
  exact Fin.mk.inj_iff.mp (hall ⟨m, hm⟩ ⟨n, hn⟩ h)

theorem toDigits_injective {m n : ℕ} (h : Nat.toDigits 16 m = Nat.toDigits 16 n) : m = n := by
  induction m using Nat.strongRecOn generalizing n with
  | ind m ih =>
      rw [Nat.toDigits_eq_if (by decide), Nat.toDigits_eq_if (n := n) (by decide)] at h
      split_ifs at h with hm hn hn
      · exact digitChar_injOn hm hn (List.singleton_inj.mp h)
      · have hlength := congrArg List.length h
        simp at hlength
      · have hlength := congrArg List.length h
        simp at hlength
      · have hparts := List.append_inj' h rfl
        have hquotient : m / 16 = n / 16 := ih _ (by omega) hparts.1
        have hrest : m % 16 = n % 16 :=
          digitChar_injOn (by omega) (by omega) (List.singleton_inj.mp hparts.2)
        omega

theorem closingBrace_notMem_toDigits (n : ℕ) : '\x7d' ∉ Nat.toDigits 16 n := by
  have hdigit : ∀ digit : Fin 16, Nat.digitChar digit ≠ '\x7d' := by decide
  induction n using Nat.strongRecOn with
  | ind n ih =>
      rw [Nat.toDigits_eq_if (by decide)]
      split_ifs with hn
      · rw [List.mem_singleton]
        exact (hdigit ⟨n, hn⟩).symm
      · rw [List.mem_append, List.mem_singleton, not_or]
        exact ⟨ih _ (by omega), (hdigit ⟨n % 16, by omega⟩).symm⟩

theorem takeWhile_toDigits (n : ℕ) (rest : List Char) :
    (Nat.toDigits 16 n ++ '\x7d' :: rest).takeWhile (· ≠ '\x7d') = Nat.toDigits 16 n := by
  have hdigits : ∀ digit ∈ Nat.toDigits 16 n, decide (digit ≠ '\x7d') = true := by
    intro digit hdigit
    rw [decide_eq_true_eq]
    rintro rfl
    exact closingBrace_notMem_toDigits n hdigit
  rw [List.takeWhile_append_of_pos hdigits, List.takeWhile_cons_of_neg (by decide), List.append_nil]

theorem toDigits_append_inj {m n : ℕ} {x y : List Char}
    (h : Nat.toDigits 16 m ++ '\x7d' :: x = Nat.toDigits 16 n ++ '\x7d' :: y) :
    m = n ∧ x = y := by
  have hdigits : Nat.toDigits 16 m = Nat.toDigits 16 n := by
    rw [← takeWhile_toDigits m x, h, takeWhile_toDigits n y]
  rw [hdigits] at h
  exact ⟨toDigits_injective hdigits, (List.cons.inj (List.append_cancel_left h)).2⟩

/-! ## One character -/

/-- The characters that have an escape of two characters, each with the second of these. -/
def letters : List (Char × Char) :=
  [('\x00', '0'), ('\t', 't'), ('\n', 'n'), ('\r', 'r'), ('"', '"'), ('\\', '\\')]

/-- The forms that the escape of a character can have. -/
inductive Escaped (c : Char) : List Char → Prop
  | letter (letter : Char) (hletter : (c, letter) ∈ letters) : Escaped c ['\\', letter]
  | number : Escaped c ('\\' :: 'u' :: '\x7b' :: (Nat.toDigits 16 c.toNat ++ ['\x7d']))
  | plain (hslash : c ≠ '\\') (hmark : c ≠ '"') : Escaped c [c]

theorem escaped_escape (c : Char) : Escaped c (escape c).toList := by
  unfold escape
  split
  next => simpa using Escaped.letter '0' (by decide)
  next => simpa using Escaped.letter 't' (by decide)
  next => simpa using Escaped.letter 'n' (by decide)
  next => simpa using Escaped.letter 'r' (by decide)
  next => simpa using Escaped.letter '"' (by decide)
  next => simpa using Escaped.letter '\\' (by decide)
  next hmark hslash =>
    split
    · simpa [hexadecimal] using Escaped.number
    · simpa using Escaped.plain hslash hmark

theorem Escaped.exists_cons {c : Char} {escaped : List Char} (h : Escaped c escaped) :
    ∃ first others, escaped = first :: others ∧ first ≠ '"' := by
  cases h with
  | letter => exact ⟨'\\', _, rfl, by decide⟩
  | number => exact ⟨'\\', _, rfl, by decide⟩
  | plain hslash hmark => exact ⟨c, [], rfl, hmark⟩

theorem letters_injective :
    ∀ left ∈ letters, ∀ right ∈ letters, left.2 = right.2 → left = right := by
  decide

theorem letters_ne : ∀ pair ∈ letters, pair.2 ≠ 'u' := by
  decide

/-- In front of any text, an escape shows which character it stands for and where it ends. -/
theorem Escaped.append_inj {c d : Char} {left right x y : List Char} (hleft : Escaped c left)
    (hright : Escaped d right) (h : left ++ x = right ++ y) : c = d ∧ x = y := by
  cases hleft with
  | letter letter hletter =>
      cases hright with
      | letter other hother =>
          obtain ⟨rfl, rfl⟩ : letter = other ∧ x = y := by simpa using h
          exact ⟨congrArg Prod.fst (letters_injective _ hletter _ hother rfl), rfl⟩
      | number =>
          have hmark : letter = 'u' := (List.cons.inj (List.cons.inj h).2).1
          exact absurd hmark (letters_ne _ hletter)
      | plain hslash => exact absurd (List.cons.inj h).1.symm hslash
  | number =>
      cases hright with
      | letter other hother =>
          have hmark : 'u' = other := (List.cons.inj (List.cons.inj h).2).1
          exact absurd hmark.symm (letters_ne _ hother)
      | number =>
          have hnumbers : c.toNat = d.toNat ∧ x = y := by
            apply toDigits_append_inj
            simpa using h
          exact ⟨Char.toNat_inj.mp hnumbers.1, hnumbers.2⟩
      | plain hslash => exact absurd (List.cons.inj h).1.symm hslash
  | plain hslash =>
      cases hright with
      | letter => exact absurd (List.cons.inj h).1 hslash
      | number => exact absurd (List.cons.inj h).1 hslash
      | plain => exact List.cons.inj h

/-! ## Texts and lists -/

/-- The text between the quotation marks. -/
def escapes (cs : List Char) : List Char :=
  cs.flatMap fun c => (escape c).toList

theorem toList_quote (text : String) :
    (quote text).toList = '"' :: (escapes text.toList ++ ['"']) := by
  simp [quote, escapes, List.flatMap, Function.comp_def]

theorem escapes_append_inj {left right x y : List Char}
    (h : escapes left ++ '"' :: x = escapes right ++ '"' :: y) : left = right ∧ x = y := by
  induction left generalizing right with
  | nil =>
      cases right with
      | nil => simpa [escapes] using h
      | cons d right =>
          obtain ⟨first, others, hescape, hfirst⟩ := (escaped_escape d).exists_cons
          rw [escapes, escapes, List.flatMap_cons, hescape] at h
          exact absurd (List.cons.inj h).1.symm hfirst
  | cons c left ih =>
      cases right with
      | nil =>
          obtain ⟨first, others, hescape, hfirst⟩ := (escaped_escape c).exists_cons
          rw [escapes, escapes, List.flatMap_cons, hescape] at h
          exact absurd (List.cons.inj h).1 hfirst
      | cons d right =>
          rw [escapes, escapes, List.flatMap_cons, List.flatMap_cons, List.append_assoc,
            List.append_assoc] at h
          obtain ⟨rfl, hrest⟩ := (escaped_escape c).append_inj (escaped_escape d) h
          obtain ⟨rfl, rfl⟩ := ih hrest
          exact ⟨rfl, rfl⟩

theorem quote_append_inj {left right : String} {x y : List Char}
    (h : (quote left).toList ++ x = (quote right).toList ++ y) : left = right ∧ x = y := by
  have hescapes : escapes left.toList ++ '"' :: x = escapes right.toList ++ '"' :: y := by
    simpa [toList_quote] using h
  obtain ⟨htexts, hrest⟩ := escapes_append_inj hescapes
  exact ⟨String.toList_inj.mp htexts, hrest⟩

theorem quote_injective : Function.Injective quote := by
  intro left right h
  have hlists : (quote left).toList ++ [] = (quote right).toList ++ [] := by rw [h]
  exact (quote_append_inj hlists).1

/-- The quoted texts with a comma before each, and the bracket that closes the list. -/
def listEnd (texts : List String) : List Char :=
  (texts.flatMap fun text => ',' :: ' ' :: (quote text).toList) ++ [']']

theorem listEnd_injective {left right : List String} (h : listEnd left = listEnd right) :
    left = right := by
  induction left generalizing right with
  | nil =>
      cases right with
      | nil => rfl
      | cons text right => simp [listEnd] at h
  | cons text left ih =>
      cases right with
      | nil => simp [listEnd] at h
      | cons other right =>
          have hquotes : (quote text).toList ++ listEnd left =
              (quote other).toList ++ listEnd right := by
            simpa [listEnd] using h
          obtain ⟨rfl, hrest⟩ := quote_append_inj hquotes
          rw [ih hrest]

theorem intercalate_quote_cons (text : String) (texts : List String) :
    [',', ' '].intercalate ((text :: texts).map fun text => (quote text).toList) ++ [']'] =
      (quote text).toList ++ listEnd texts := by
  induction texts generalizing text with
  | nil => simp [listEnd]
  | cons other texts ih =>
      have hrest := ih other
      rw [List.map_cons] at hrest
      rw [List.map_cons, List.map_cons, List.intercalate_cons_cons, List.append_assoc,
        List.append_assoc, hrest]
      simp [listEnd]

theorem toList_quoteList_cons (text : String) (texts : List String) :
    (quoteList (text :: texts)).toList = '[' :: ((quote text).toList ++ listEnd texts) := by
  rw [← intercalate_quote_cons]
  simp [quoteList, String.toList_intercalate, Function.comp_def]

/-- A list that is printed with its texts quoted can be read off the print. -/
theorem quoteList_injective : Function.Injective quoteList := by
  intro left right h
  have hlists := congrArg String.toList h
  cases left with
  | nil =>
      cases right with
      | nil => rfl
      | cons text texts =>
          rw [toList_quoteList_cons, toList_quote] at hlists
          simp [quoteList] at hlists
  | cons text texts =>
      cases right with
      | nil =>
          rw [toList_quoteList_cons, toList_quote] at hlists
          simp [quoteList] at hlists
      | cons other others =>
          rw [toList_quoteList_cons, toList_quoteList_cons] at hlists
          obtain ⟨rfl, hrest⟩ := quote_append_inj (List.cons.inj hlists).2
          rw [listEnd_injective hrest]

end PathTemplate.Text
