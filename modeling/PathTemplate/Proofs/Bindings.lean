import Mathlib.Tactic
import PathTemplate.Bindings

/-!
# Looking names up

Of several pairs with one name the bindings keep the last, and a scope answers for a name by what
the bindings and the defaults have under that name, and by nothing else.
-/

namespace PathTemplate

theorem Bindings.getElem?_insertMany (bindings : Bindings) (pairs : List (String × String))
    (name : String) :
    (bindings.insertMany pairs)[name]? = (pairs.reverse.lookup name).or bindings[name]? := by
  induction pairs generalizing bindings with
  | nil => simp
  | cons pair rest ih =>
      obtain ⟨key, value⟩ := pair
      rw [Std.TreeMap.insertMany_cons, ih, List.reverse_cons, List.lookup_append,
        Std.TreeMap.getElem?_insert, Option.or_assoc, List.lookup_singleton]
      by_cases hname : name = key
      · simp [hname]
      · have hne : key ≠ name := fun heq => hname heq.symm
        simp [hname, hne]

theorem Bindings.getElem?_ofPairs (pairs : List (String × String)) (name : String) :
    (Bindings.ofPairs pairs)[name]? = pairs.reverse.lookup name := by
  rw [ofPairs, Std.TreeMap.ofList_eq_insertMany_empty, getElem?_insertMany]
  simp

/-- The bindings, and the defaults under the names that they do not bind. -/
def Bindings.filledFrom (bindings defaults : Bindings) : Bindings :=
  defaults ∪ bindings

theorem Bindings.getElem?_filledFrom (bindings defaults : Bindings) (name : String) :
    (bindings.filledFrom defaults)[name]? = bindings[name]?.or defaults[name]? :=
  Std.TreeMap.getElem?_union

namespace Scope

variable {scope other : Scope} {name : String}

/-- Defaults do the same whether they stand under the bindings or are filled into them. -/
theorem get?_filledFrom (bindings defaults : Bindings) (name : String) :
    Scope.get? ⟨bindings.filledFrom defaults, {}⟩ name = Scope.get? ⟨bindings, defaults⟩ name := by
  simp [get?, Bindings.getElem?_filledFrom]

theorem contains_congr (h : scope.get? name = other.get? name) :
    scope.contains name = other.contains name := by
  rw [contains, contains, h]

end Scope
end PathTemplate
