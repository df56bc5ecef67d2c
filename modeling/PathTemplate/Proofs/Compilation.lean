import Mathlib
import PathTemplate.Proofs.Registry.Run
import PathTemplate.Proofs.Template
import PathTemplate.Proofs.Text.ByteOrder

/-!
# How compiling ends

A malformed text is refused for its fault, whatever the defaults.  Otherwise the defaults that no
variable of the tree has a use for decide: where the settings ask for it they are the error, listed
in the order of their bytes in whichever order a map goes through its names, and else the template
keeps them with all other defaults.
-/

namespace PathTemplate

theorem Bindings.pairwise_keys (bindings : Bindings) : bindings.keys.Pairwise (· < ·) :=
  Std.TreeMap.ordered_keys.imp compare_lt_iff_lt.mp

/-- The names that have a default but no variable, in the order of the names. -/
def Bindings.unusedIn (defaults : Bindings) (pattern : Pattern) : List String :=
  defaults.keys.filter fun name => name ∉ pattern.names

theorem Bindings.mem_unusedIn {defaults : Bindings} {pattern : Pattern} {name : String} :
    name ∈ defaults.unusedIn pattern ↔ name ∈ defaults ∧ name ∉ pattern.names := by
  simp [unusedIn]

theorem Bindings.pairwise_unusedIn (defaults : Bindings) (pattern : Pattern) :
    (defaults.unusedIn pattern).Pairwise (· < ·) :=
  defaults.pairwise_keys.filter _

namespace Text

/-- However the texts are listed at first, sorting brings them into the one ascending order. -/
theorem sortByBytes_eq {texts sorted : List String} (h : texts.Perm sorted)
    (hsorted : sorted.Pairwise (· < ·)) : sortByBytes texts = sorted := by
  have hperm : (sortByBytes texts).Perm sorted := (List.mergeSort_perm texts _).trans h
  have hascending : (sortByBytes texts).Pairwise (· ≤ ·) := by
    have hpairwise : (sortByBytes texts).Pairwise fun left right =>
        decide (bytes left ≤ bytes right) = true := by
      apply List.pairwise_mergeSort
      · intro left middle right
        simp only [decide_eq_true_eq, bytes_le_iff]
        exact le_trans
      · intro left right
        simp only [Bool.or_eq_true, decide_eq_true_eq, bytes_le_iff]
        exact le_total left right
    apply hpairwise.imp
    intro left right hle
    exact bytes_le_iff.mp (by simpa using hle)
  apply List.Perm.eq_of_pairwise _ hascending (hsorted.imp le_of_lt) hperm
  intro left right _ _
  exact le_antisymm

end Text

namespace Template

/-- The names that are left over are found in order already, so that sorting them is idle. -/
theorem undeclared_eq (defaults : Bindings) (pattern : Pattern) :
    undeclared defaults (Variables.ofPattern pattern) = defaults.unusedIn pattern := by
  have hfilter : (defaults.keys.filter fun name =>
      !(Variables.ofPattern pattern).contains name) = defaults.unusedIn pattern := by
    apply List.filter_congr
    intro name _
    rw [Bool.eq_iff_iff, Bool.not_eq_true', decide_eq_true_eq, ← Variables.contains_ofPattern,
      Bool.not_eq_true]
  rw [undeclared, hfilter]
  exact Text.sortByBytes_eq (.refl _) (defaults.pairwise_unusedIn pattern)

theorem compile_of_unusedIn {raw : String} {pattern : Pattern}
    (hparse : Pattern.parse raw = .ok pattern) (defaults : Bindings) (settings : Settings) :
    compile raw defaults settings =
      if defaults.unusedIn pattern ≠ [] ∧ settings.policy = .reject then
        .error (.undeclaredDefaults (defaults.unusedIn pattern))
      else
        .ok ⟨raw, defaults, pattern, Variables.ofPattern pattern, settings.trailingSlash⟩ := by
  rw [compile_of_parse_eq_ok hparse]
  simp only [undeclared_eq]

/-- Where unused defaults are let through, the settings that refuse them would have named them. -/
theorem compile_reject {raw : String} {defaults : Bindings} {settings : Settings}
    {template : Template} (h : compile raw defaults settings = .ok template)
    (hunused : defaults.unusedIn template.pattern ≠ []) :
    compile raw defaults { settings with policy := .reject } =
      .error (.undeclaredDefaults (defaults.unusedIn template.pattern)) := by
  rcases eq_of_compile_eq_ok h with ⟨pattern, hparse, rfl⟩
  rw [compile_of_unusedIn hparse, if_pos ⟨hunused, rfl⟩]

/-- Compiling a text with defaults: a fault of the text comes first; then, where the settings ask
for it, the defaults without a variable at any depth are refused, each named once in the order of
the bytes, which is that of the code points and does not depend on the order in which the defaults
are gone through; and otherwise the template has the text and all defaults as they were given, and
the mount made of it stands under no other. -/
theorem compile_eq_of_unused (raw : String) (defaults : Bindings) (settings : Settings) :
    (∀ fault, Pattern.parse raw = .error fault →
      compile raw defaults settings = .error (.malformed fault)) ∧
    ∀ pattern, Pattern.parse raw = .ok pattern →
      let unused := defaults.unusedIn pattern
      let template : Template :=
        ⟨raw, defaults, pattern, Variables.ofPattern pattern, settings.trailingSlash⟩
      (∀ name, name ∈ unused ↔ name ∈ defaults ∧ name ∉ pattern.names) ∧
      (unused.Pairwise fun left right => left < right ∧ Text.bytes left < Text.bytes right) ∧
      (∀ listing : List String, listing.Perm defaults.keys →
        Text.sortByBytes (listing.filter fun name => name ∉ pattern.names) = unused) ∧
      (settings.policy = .reject ∧ unused ≠ [] →
        compile raw defaults settings = .error (.undeclaredDefaults unused)) ∧
      (¬(settings.policy = .reject ∧ unused ≠ []) →
        compile raw defaults settings = .ok template ∧
        ∀ (registry : Registry) (id : String), ∃ mount : Mount,
          (registry.step (.create id raw defaults settings)).2.reply = .created mount ∧
          (registry.step (.create id raw defaults settings)).1[id]? = some mount ∧
          mount.template = template ∧ mount.parent? = none) := by
  refine ⟨fun fault => compile_eq_malformed_iff.mpr, ?_⟩
  intro pattern hparse unused template
  have hascending : unused.Pairwise (· < ·) := defaults.pairwise_unusedIn pattern
  have hcompile := compile_of_unusedIn hparse defaults settings
  refine ⟨fun name => Bindings.mem_unusedIn, ?_, ?_, ?_, ?_⟩
  · exact hascending.imp fun hlt => ⟨hlt, Text.bytes_lt_of_lt hlt⟩
  · intro listing hlisting
    exact Text.sortByBytes_eq (hlisting.filter _) hascending
  · intro hrefused
    rw [hcompile, if_pos hrefused.symm]
  · intro haccepted
    rw [and_comm] at haccepted
    rw [if_neg haccepted] at hcompile
    refine ⟨hcompile, ?_⟩
    intro registry id
    refine ⟨.root template, ?_, ?_, rfl, rfl⟩
    · rw [Registry.step_create_of_ok hcompile]
    · rw [Registry.step_create_of_ok hcompile]
      exact Std.TreeMap.getElem?_insert_self

/-- The default for `c` is of use in a group within a group.  The three others are named in the order
of their bytes, in which a character outside the basic plane comes last. -/
theorem compile_eq_of_unused_of_nested :
    ∃ pattern : Pattern, Pattern.parse "/a(/:b(/:c))" = .ok pattern ∧
      compile "/a(/:b(/:c))"
        (Bindings.ofPairs [("😀", "1"), ("c", "2"), ("\ufffd", "3"), ("z", "4")])
        ⟨.reject, false⟩ =
          .error (.undeclaredDefaults ["z", "\ufffd", "😀"]) ∧
      Text.sortByBytes (["😀", "z", "c", "\ufffd"].filter
        fun name => name ∉ pattern.names) = ["z", "\ufffd", "😀"] := by
  let pattern : Pattern :=
    [.separator, .text "a", .group [.separator, .var "b", .group [.separator, .var "c"]]]
  let defaults :=
    Bindings.ofPairs [("😀", "1"), ("c", "2"), ("\ufffd", "3"), ("z", "4")]
  have hparse : Pattern.parse "/a(/:b(/:c))" = .ok pattern := by cbv
  have hunused : defaults.unusedIn pattern = ["z", "\ufffd", "😀"] := by cbv
  obtain ⟨-, -, hlisting, hrefused, -⟩ :=
    (compile_eq_of_unused "/a(/:b(/:c))" defaults ⟨.reject, false⟩).2 pattern hparse
  rw [hunused] at hlisting hrefused
  refine ⟨pattern, hparse, hrefused ⟨rfl, by simp⟩, hlisting _ ?_⟩
  have hkeys : defaults.keys = ["c", "z", "\ufffd", "😀"] := by cbv
  rw [hkeys]
  decide

end Template
end PathTemplate
