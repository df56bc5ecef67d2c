import Mathlib
import PathTemplate.Proofs.Keys
import PathTemplate.Toml.Document

/-!
# What is read from a document

An entry or a header that takes a place is refused where the place is taken, and one that goes
further into a table leaves the keys around the table as they are.  So each step of putting a
document together keeps the keys of its entries apart, and a document has every key at most once.
An array may be empty at any depth, since no value starts with the bracket that closes it, and so
may an inline table.
-/

namespace PathTemplate.Toml

theorem of_foldlM_eq_some {α β : Type} {P : β → Prop} {f : β → α → Option β}
    (hstep : ∀ {start item next}, P start → f start item = some next → P next)
    {items : List α} {start final : β} (hstart : P start)
    (h : items.foldlM f start = some final) : P final := by
  induction items generalizing start with
  | nil =>
      obtain rfl := Option.some.inj h
      exact hstart
  | cons item rest ih =>
      rw [List.foldlM_cons] at h
      rcases Option.bind_eq_some_iff.mp h with ⟨next, hnext, hrest⟩
      exact ih (hstep hstart hnext) hrest

/-! ## Keys -/

namespace Entries

def Distinct (entries : Entries) : Prop :=
  (entries.map Prod.fst).Nodup

variable {entries changed : Entries} {key : String} {node : Node}

theorem Distinct.concat (h : entries.Distinct) (hkey : entries.lookup key = none) :
    Distinct (entries ++ [(key, node)]) := by
  rw [Distinct, List.map_append, List.nodup_append]
  refine ⟨h, List.nodup_singleton key, ?_⟩
  intro other hother last hlast heq
  rw [List.map_singleton, List.mem_singleton] at hlast
  rw [heq, hlast] at hother
  exact Keys.lookup_eq_none_iff.mp hkey hother

theorem Distinct.replace (h : entries.Distinct) : Distinct (entries.replace key node) := by
  have hkeys : (entries.replace key node).map Prod.fst = entries.map Prod.fst := by
    rw [Entries.replace, List.map_map]
    apply List.map_congr_left
    intro entry _
    dsimp only [Function.comp_apply]
    split <;> rfl
  rwa [Distinct, hkeys]

theorem Distinct.erase_concat (h : entries.Distinct) :
    Distinct (entries.erase key ++ [(key, node)]) := by
  have hsublist : (entries.erase key).Sublist entries := List.filter_sublist
  have herase : Distinct (entries.erase key) := h.sublist (hsublist.map Prod.fst)
  apply herase.concat
  rw [Keys.lookup_eq_none_iff]
  simp [erase]

theorem Distinct.add (h : entries.Distinct) (hadd : Entries.add node entries key = some changed) :
    changed.Distinct := by
  simp only [Entries.add, Option.bind_eq_bind, Option.bind_eq_some_iff] at hadd
  rcases hadd with ⟨_, hfree, hchanged⟩
  obtain rfl := Option.some.inj hchanged
  exact h.concat (by simpa using hfree)

/-- A path of one key changes the entries themselves, and a longer one a table among them. -/
theorem Distinct.changeAt {via : Origin} {change : Entries → String → Option Entries}
    (hchange : ∀ {entries key changed}, Distinct entries → change entries key = some changed →
      Distinct changed)
    {path : List String} (h : entries.Distinct)
    (hchanged : Entries.changeAt via change entries key path = some changed) :
    changed.Distinct := by
  cases path with
  | nil => exact hchange h hchanged
  | cons next rest =>
      simp only [Entries.changeAt] at hchanged
      split at hchanged
      next hfree =>
        rcases Option.bind_eq_some_iff.mp hchanged with ⟨inner, -, hconcat⟩
        obtain rfl := Option.some.inj hconcat
        exact h.concat hfree
      next origin inner _ =>
        rcases Option.bind_eq_some_iff.mp hchanged with ⟨_, -, hinner⟩
        rcases Option.bind_eq_some_iff.mp hinner with ⟨inner, -, hreplaced⟩
        obtain rfl := Option.some.inj hreplaced
        exact h.replace
      next tables _ =>
        rcases Option.bind_eq_some_iff.mp hchanged with ⟨_, -, hlast⟩
        rcases Option.bind_eq_some_iff.mp hlast with ⟨last, -, hinner⟩
        rcases Option.bind_eq_some_iff.mp hinner with ⟨inner, -, hreplaced⟩
        obtain rfl := Option.some.inj hreplaced
        exact h.replace
      next => cases hchanged

theorem Distinct.assignAll {assignments : List (KeyPath × Node)} (h : entries.Distinct)
    (hassigned : entries.assignAll assignments = some changed) : changed.Distinct := by
  apply of_foldlM_eq_some _ h hassigned
  intro start assignment next hstart hnext
  exact hstart.changeAt (fun hdistinct hadd => hdistinct.add hadd) hnext

theorem Distinct.addTable {assignments : List (KeyPath × Node)} (h : entries.Distinct)
    (hadded : Entries.addTable assignments entries key = some changed) : changed.Distinct := by
  unfold Entries.addTable at hadded
  split at hadded
  next hfree =>
    rcases Option.bind_eq_some_iff.mp hadded with ⟨table, -, hconcat⟩
    obtain rfl := Option.some.inj hconcat
    exact h.concat hfree
  next inner _ =>
    rcases Option.bind_eq_some_iff.mp hadded with ⟨table, -, hmoved⟩
    obtain rfl := Option.some.inj hmoved
    exact h.erase_concat
  next => cases hadded

theorem Distinct.addRow {assignments : List (KeyPath × Node)} (h : entries.Distinct)
    (hadded : Entries.addRow assignments entries key = some changed) : changed.Distinct := by
  unfold Entries.addRow at hadded
  rcases Option.bind_eq_some_iff.mp hadded with ⟨table, -, hplaced⟩
  split at hplaced
  next hfree =>
    obtain rfl := Option.some.inj hplaced
    exact h.concat hfree
  next tables _ =>
    obtain rfl := Option.some.inj hplaced
    exact h.replace
  next => cases hplaced

theorem Distinct.addSection {part : Section} (h : entries.Distinct)
    (hadded : entries.addSection part = some changed) : changed.Distinct := by
  unfold Entries.addSection at hadded
  split at hadded
  next => exact h.changeAt (fun hdistinct htable => hdistinct.addTable htable) hadded
  next => exact h.changeAt (fun hdistinct hrow => hdistinct.addRow hrow) hadded

end Entries

theorem distinct_of_parse?_eq_some {text : String} {entries : Entries}
    (h : parse? text = some entries) : entries.Distinct := by
  unfold parse? at h
  rcases Option.bind_eq_some_iff.mp h with ⟨⟨top, parts⟩, -, hparts⟩
  rcases Option.bind_eq_some_iff.mp hparts with ⟨start, hstart, hfinal⟩
  have hempty : Entries.Distinct [] := List.nodup_nil
  exact of_foldlM_eq_some (fun hkeys hadded => hkeys.addSection hadded)
    (hempty.assignAll hstart) hfinal

/-! ## Empty arrays and tables -/

theorem node_closingBracket (depth : ℕ) (rest : List Char) : node depth (']' :: rest) = none := by
  cases depth with
  | zero => cbv
  | succ depth =>
      rw [node]
      generalize node depth = item
      cbv

theorem node_emptyArray (depth : ℕ) (rest : List Char) :
    node (depth + 1) ('[' :: ']' :: rest) = some (.array [], rest) := by
  have hitem : node depth (']' :: rest) = none := node_closingBracket depth rest
  rw [node]
  generalize node depth = item at hitem
  cbv
  rw [hitem]
  cbv

theorem node_emptyTable (depth : ℕ) (rest : List Char) :
    node (depth + 1) ('\x7b' :: '\x7d' :: rest) = some (.table .inline [], rest) := by
  rw [node]
  generalize node depth = item
  cbv

theorem node_arrayOfEmptyTable (depth : ℕ) (rest : List Char) :
    node (depth + 2) ('[' :: '\x7b' :: '\x7d' :: ']' :: rest) =
      some (.array [.table .inline []], rest) := by
  have hitem : node (depth + 1) ('\x7b' :: '\x7d' :: ']' :: rest) =
      some (.table .inline [], ']' :: rest) := node_emptyTable depth _
  rw [node]
  generalize node (depth + 1) = item at hitem
  cbv
  rw [hitem]
  cbv

end PathTemplate.Toml
