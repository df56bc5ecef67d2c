/-!
# Names without repetition

A list of names that keeps each name once, at the place where it came first.
-/

namespace PathTemplate.Names

/-- Adds a name at the end, unless it is listed already. -/
def add (names : List String) (name : String) : List String :=
  if name ∈ names then names else names ++ [name]

def addAll (names more : List String) : List String :=
  more.foldl add names

@[simp] theorem mem_add {names : List String} {name other : String} :
    other ∈ add names name ↔ other ∈ names ∨ other = name := by
  unfold add
  split
  next h => grind
  next => simp

theorem nodup_add {names : List String} (h : names.Nodup) (name : String) :
    (add names name).Nodup := by
  unfold add
  split
  next => exact h
  next hname => exact List.nodup_append.2 ⟨h, by simp, by grind⟩

@[simp] theorem addAll_nil (names : List String) : addAll names [] = names := rfl

@[simp] theorem addAll_cons (names more : List String) (name : String) :
    addAll names (name :: more) = addAll (add names name) more := rfl

@[simp] theorem mem_addAll {names more : List String} {other : String} :
    other ∈ addAll names more ↔ other ∈ names ∨ other ∈ more := by
  induction more generalizing names with
  | nil => simp
  | cons name more ih => simp [ih, or_assoc]

theorem nodup_addAll {names : List String} (h : names.Nodup) (more : List String) :
    (addAll names more).Nodup := by
  induction more generalizing names with
  | nil => exact h
  | cons name more ih => exact ih (nodup_add h name)

end PathTemplate.Names
