import Mathlib.Tactic
import PathTemplate.Names

/-!
# Names in order of first occurrence

Adding names one by one is the removal of repetitions: what has been gathered at any point is the
list of all names met so far, each at the place where it came first.
-/

namespace PathTemplate.Names

theorem add_eraseDups (names : List String) (name : String) :
    add names.eraseDups name = (names ++ [name]).eraseDups := by
  rw [List.eraseDups_append]
  unfold add
  by_cases hname : name ∈ names
  · simp [hname, List.removeAll]
  · simp [hname, List.removeAll, List.eraseDups_cons]

theorem addAll_eraseDups (names more : List String) :
    addAll names.eraseDups more = (names ++ more).eraseDups := by
  induction more generalizing names with
  | nil => simp
  | cons name more ih =>
      rw [addAll_cons, add_eraseDups, ih, List.append_assoc, List.singleton_append]

theorem addAll_nil_left (names : List String) : addAll [] names = names.eraseDups := by
  simpa using addAll_eraseDups [] names

theorem nodup_eraseDups (names : List String) : names.eraseDups.Nodup := by
  rw [← addAll_nil_left]
  exact nodup_addAll List.nodup_nil names

theorem filter_addAll (p : String → Bool) (names more : List String) :
    (addAll names more).filter p = addAll (names.filter p) (more.filter p) := by
  induction more generalizing names with
  | nil => simp
  | cons name more ih =>
      rw [addAll_cons, ih]
      by_cases hp : p name = true
      · have hadd : (add names name).filter p = add (names.filter p) name := by
          unfold add
          by_cases hname : name ∈ names <;> simp [hname, hp]
        rw [hadd, List.filter_cons_of_pos hp, addAll_cons]
      · have hadd : (add names name).filter p = names.filter p := by
          unfold add
          by_cases hname : name ∈ names <;> simp [hname, hp]
        rw [hadd, List.filter_cons_of_neg hp]

theorem filter_eraseDups (p : String → Bool) (names : List String) :
    names.eraseDups.filter p = (names.filter p).eraseDups := by
  rw [← addAll_nil_left, filter_addAll, List.filter_nil, addAll_nil_left]

theorem eraseDups_eq_nil_iff (names : List String) :
    names.eraseDups = [] ↔ names = [] := by
  cases names with
  | nil => simp
  | cons name names => simp [List.eraseDups_cons]

theorem eraseDups_eq_self {names : List String} (h : names.Nodup) : names.eraseDups = names := by
  induction names with
  | nil => rfl
  | cons name rest ih =>
      obtain ⟨hname, hrest⟩ := List.nodup_cons.mp h
      have hothers : rest.filter (fun other => !(other == name)) = rest := by
        apply List.filter_eq_self.mpr
        intro other hother
        simpa using ne_of_mem_of_not_mem hother hname
      rw [List.eraseDups_cons, hothers, ih hrest]

/-- Names that are all different come after the names gathered before, less those listed already. -/
theorem eraseDups_append_of_nodup (names : List String) {more : List String} (h : more.Nodup) :
    (names ++ more).eraseDups =
      names.eraseDups ++ more.filter fun name => name ∉ names.eraseDups := by
  have hfilter : more.removeAll names = more.filter fun name => name ∉ names.eraseDups := by
    simp [List.removeAll]
  rw [List.eraseDups_append, hfilter, eraseDups_eq_self (h.filter _)]

/-- Repetitions may be removed from either part first. -/
theorem eraseDups_eraseDups_append_eraseDups (names more : List String) :
    (names.eraseDups ++ more.eraseDups).eraseDups = (names ++ more).eraseDups := by
  rw [eraseDups_append_of_nodup _ (nodup_eraseDups more), eraseDups_eq_self (nodup_eraseDups names),
    List.eraseDups_append, filter_eraseDups]
  simp [List.removeAll]

end PathTemplate.Names
