import Mathlib
import PathTemplate.Proofs.Toml.Document
import PathTemplate.Toml.Standard

/-!
# The decoder in use keeps what can be relied on

A table has as many entries as its value, however they are listed there, so that a table with one
key or with none is recognised by its value.  Each answer is then read off the value, and so is each
refusal but those of arrays that say something about a name.
-/

namespace PathTemplate.Toml

/-! ## Values of nodes -/

namespace Value

theorem exists_ofEntries (entries : List (String × Value)) :
    ∃ sorted, ofEntries entries = .table sorted ∧ sorted.Perm entries :=
  ⟨_, rfl, List.mergeSort_perm entries _⟩

theorem ofEntries_eq_nil_iff {entries : List (String × Value)} :
    ofEntries entries = .table [] ↔ entries = [] := by
  obtain ⟨sorted, hsorted, hperm⟩ := exists_ofEntries entries
  rw [hsorted, table.injEq]
  constructor
  · rintro rfl
    exact List.nil_perm.mp hperm
  · rintro rfl
    exact List.perm_nil.mp hperm

theorem ofEntries_eq_singleton_iff {entries : List (String × Value)} {entry : String × Value} :
    ofEntries entries = .table [entry] ↔ entries = [entry] := by
  obtain ⟨sorted, hsorted, hperm⟩ := exists_ofEntries entries
  rw [hsorted, table.injEq]
  constructor
  · rintro rfl
    exact List.perm_singleton.mp hperm.symm
  · rintro rfl
    exact List.perm_singleton.mp hperm

end Value

theorem itemValues_eq_map (items : List Node) : itemValues items = items.map Node.value := by
  induction items with
  | nil => rfl
  | cons item rest ih => rw [itemValues, ih, List.map_cons]

theorem entryValues_eq_map (entries : Entries) :
    entryValues entries = entries.map fun entry => (entry.1, entry.2.value) := by
  induction entries with
  | nil => rfl
  | cons entry rest ih => rw [entryValues, ih, List.map_cons]

theorem rowValues_eq_map (tables : List Entries) :
    rowValues tables = tables.map fun entries => Value.ofEntries (entryValues entries) := by
  induction tables with
  | nil => rfl
  | cons entries rest ih => rw [rowValues, ih, List.map_cons]

namespace Node

variable {node : Node}

theorem value_table_eq_nil_iff {origin : Origin} {entries : Entries} :
    (table origin entries).value = .table [] ↔ entries = [] := by
  rw [value, Value.ofEntries_eq_nil_iff, entryValues_eq_map, List.map_eq_nil_iff]

theorem value_table_eq_singleton_iff {origin : Origin} {entries : Entries} {name : String}
    {inner : Value} :
    (table origin entries).value = .table [(name, inner)] ↔
      ∃ content, content.value = inner ∧ entries = [(name, content)] := by
  rw [value, Value.ofEntries_eq_singleton_iff, entryValues_eq_map, List.map_eq_singleton_iff]
  constructor
  · rintro ⟨⟨key, content⟩, hentries, hentry⟩
    obtain ⟨rfl, rfl⟩ := Prod.mk.inj hentry
    exact ⟨content, rfl, hentries⟩
  · rintro ⟨content, rfl, hentries⟩
    exact ⟨(name, content), hentries, rfl⟩

/-! ## Answers -/

theorem asBoolean_of_boolean {b : Bool} (h : node.value = .boolean b) :
    node.asBoolean = .ok b := by
  cases node <;> simp_all [value, Value.ofEntries, asBoolean]

theorem asChoice_of_string {name : String} (h : node.value = .string name) :
    node.asChoice = .ok (name, none) := by
  cases node <;> simp_all [value, Value.ofEntries, asChoice]

theorem asChoice_of_table {name : String} {inner : Value}
    (h : node.value = .table [(name, inner)]) :
    ∃ content : Node, content.value = inner ∧ node.asChoice = .ok (name, some content) := by
  cases node with
  | table origin entries =>
      obtain ⟨content, hcontent, rfl⟩ := value_table_eq_singleton_iff.mp h
      exact ⟨content, hcontent, rfl⟩
  | _ => simp [value] at h

theorem asNoContent_of_empty (h : node.value = .table [] ∨ node.value = .array []) :
    node.asNoContent = .ok () := by
  cases node with
  | table origin entries =>
      rcases h with htable | harray
      · rw [value_table_eq_nil_iff.mp htable]
        rfl
      · simp [value, Value.ofEntries] at harray
  | array items =>
      obtain rfl : items = [] := by simpa [value, itemValues_eq_map] using h
      rfl
  | rows tables =>
      obtain rfl : tables = [] := by simpa [value, rowValues_eq_map] using h
      rfl
  | _ => simp [value] at h

/-! ## Refusals -/

theorem asBoolean_eq_error (h : ∀ b, node.value ≠ .boolean b) :
    node.asBoolean =
      .error ("invalid type: " ++ node.value.describe ++ ", expected a boolean") := by
  cases node with
  | boolean b => exact absurd rfl (h b)
  | _ => rfl

theorem asBoolean_of_other (h : ∀ b, node.value ≠ .boolean b) :
    ∃ message, ∀ other : Node, other.value = node.value → other.asBoolean = .error message := by
  refine ⟨"invalid type: " ++ node.value.describe ++ ", expected a boolean", ?_⟩
  intro other hsame
  rw [← hsame] at h
  rw [asBoolean_eq_error h, hsame]

def choiceRefusal : Value → String
  | .table [] => "wanted exactly 1 element, found 0 elements"
  | .table _ => "wanted exactly 1 element, more than 1 element"
  | _ => "wanted string or table"

theorem choiceRefusal_ofEntries {entries : List (String × Value)} (h : entries ≠ []) :
    choiceRefusal (.ofEntries entries) = "wanted exactly 1 element, more than 1 element" := by
  obtain ⟨sorted, hsorted, hperm⟩ := Value.exists_ofEntries entries
  rw [hsorted]
  cases sorted with
  | nil => exact absurd (List.nil_perm.mp hperm) h
  | cons entry rest => rfl

theorem asChoice_eq_error (hstring : ∀ name, node.value ≠ .string name)
    (htable : ∀ name inner, node.value ≠ .table [(name, inner)]) :
    node.asChoice = .error (choiceRefusal node.value) := by
  cases node with
  | string name => exact absurd rfl (hstring name)
  | table origin entries =>
      match entries with
      | [] =>
          rw [value_table_eq_nil_iff.mpr rfl]
          rfl
      | [(name, content)] =>
          exact absurd (value_table_eq_singleton_iff.mpr ⟨content, rfl, rfl⟩) (htable name _)
      | (name, content) :: second :: rest =>
          rw [value, choiceRefusal_ofEntries (by simp [entryValues])]
          rfl
  | _ => rfl

theorem asChoice_of_other (hstring : ∀ name, node.value ≠ .string name)
    (htable : ∀ name inner, node.value ≠ .table [(name, inner)]) :
    ∃ message, ∀ other : Node, other.value = node.value → other.asChoice = .error message := by
  refine ⟨choiceRefusal node.value, ?_⟩
  intro other hsame
  rw [← hsame] at hstring htable
  rw [asChoice_eq_error hstring htable, hsame]

def noContentRefusal : Bool → Value → String
  | true, _ => "expected empty array"
  | false, .table _ | false, .array _ => "expected empty table"
  | false, found => "expected table, found " ++ found.typeName

theorem asNoContent_eq_error (htable : node.value ≠ .table []) (harray : node.value ≠ .array []) :
    node.asNoContent = .error (noContentRefusal node.hasHeaders node.value) := by
  cases node with
  | table origin entries =>
      cases entries with
      | nil => exact absurd (value_table_eq_nil_iff.mpr rfl) htable
      | cons entry rest => rfl
  | array items =>
      cases items with
      | nil => exact absurd rfl harray
      | cons item rest => rfl
  | rows tables =>
      cases tables with
      | nil => exact absurd rfl harray
      | cons row rest => rfl
  | _ => rfl

theorem asNoContent_of_other (htable : node.value ≠ .table []) (harray : node.value ≠ .array []) :
    ∃ message, ∀ other : Node, other.value = node.value →
      other.hasHeaders = node.hasHeaders → other.asNoContent = .error message := by
  refine ⟨noContentRefusal node.hasHeaders node.value, ?_⟩
  intro other hsame hheaders
  rw [← hsame] at htable harray
  rw [asNoContent_eq_error htable harray, hsame, hheaders]

theorem array_of_hasHeaders (h : node.hasHeaders = true) : ∃ items, node.value = .array items := by
  cases node with
  | rows tables => exact ⟨rowValues tables, rfl⟩
  | _ => cases h

end Node

theorem standard_lawful : standard.Lawful where
  nodup_keys h := distinct_of_parse?_eq_some h
  array_of_hasHeaders h := Node.array_of_hasHeaders h
  boolean_of_boolean h := Node.asBoolean_of_boolean h
  boolean_of_other h := Node.asBoolean_of_other h
  choice_of_string h := Node.asChoice_of_string h
  choice_of_table h := Node.asChoice_of_table h
  choice_of_other hstring htable := Node.asChoice_of_other hstring htable
  noContent_of_empty h := Node.asNoContent_of_empty h
  noContent_of_other htable harray := Node.asNoContent_of_other htable harray

end PathTemplate.Toml
