import Mathlib

/-!
# Lists with keys

Looking up a key gives the first entry that has it.  Where no two entries share a key this is the
only one, and changing the contents of the entries, or leaving out entries with other keys, changes
nothing else.
-/

namespace PathTemplate.Keys

variable {α β : Type} {entries : List (String × α)} {key other : String}

theorem lookup_eq_none_iff : entries.lookup key = none ↔ key ∉ entries.map Prod.fst := by
  rw [List.lookup_eq_none_iff, List.mem_map, not_exists]
  apply forall_congr'
  intro entry
  rw [not_and, bne_iff_ne, ne_comm]

theorem lookup_cons_of_ne (h : key ≠ other) (content : α) (rest : List (String × α)) :
    List.lookup key ((other, content) :: rest) = rest.lookup key := by
  rw [List.lookup_cons, beq_false_of_ne h]

theorem lookup_eq_some_of_mem (h : (entries.map Prod.fst).Nodup) {content : α}
    (hmem : (key, content) ∈ entries) : entries.lookup key = some content := by
  induction entries with
  | nil => cases hmem
  | cons entry rest ih =>
      rcases entry with ⟨first, held⟩
      obtain ⟨hfirst, hrest⟩ := List.nodup_cons.mp h
      rcases List.mem_cons.mp hmem with heq | hlater
      · obtain ⟨rfl, rfl⟩ := Prod.mk.inj heq
        exact List.lookup_cons_self
      · have hne : key ≠ first := by
          rintro rfl
          exact hfirst (List.mem_map.mpr ⟨_, hlater, rfl⟩)
        rw [lookup_cons_of_ne hne, ih hrest hlater]

theorem lookup_map (f : α → β) (entries : List (String × α)) (key : String) :
    (entries.map fun entry => (entry.1, f entry.2)).lookup key = (entries.lookup key).map f := by
  induction entries with
  | nil => rfl
  | cons entry rest ih =>
      rcases entry with ⟨first, content⟩
      rw [List.map_cons]
      by_cases hkey : key = first
      · subst hkey
        rw [List.lookup_cons_self, List.lookup_cons_self]
        rfl
      · rw [lookup_cons_of_ne hkey, lookup_cons_of_ne hkey, ih]

theorem lookup_filter {p : String × α → Bool} (h : ∀ content, p (key, content) = true)
    (entries : List (String × α)) : (entries.filter p).lookup key = entries.lookup key := by
  induction entries with
  | nil => rfl
  | cons entry rest ih =>
      rcases entry with ⟨first, content⟩
      by_cases hkey : key = first
      · subst hkey
        rw [List.filter_cons_of_pos (h content), List.lookup_cons_self, List.lookup_cons_self]
      · rw [lookup_cons_of_ne hkey, ← ih, List.filter_cons]
        split
        · rw [lookup_cons_of_ne hkey]
        · rfl

end PathTemplate.Keys
