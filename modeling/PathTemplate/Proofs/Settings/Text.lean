import Mathlib
import PathTemplate.Proofs.Settings.Entries
import PathTemplate.Proofs.Toml.Standard
import PathTemplate.Settings.File

/-!
# Settings from a text

A blank text gives the default settings whatever reads documents.  Any other text that can be read is
decided by its entries for the policy and for the flag, in their order.  How a document is written
shows in one message only, which is about an array that stands for the empty table of a policy.
-/

namespace PathTemplate.Settings

open Toml (Value)

variable {decoder : Toml.Decoder} {text : String} {entries : List (String × decoder.Item)}

theorem ofText_of_isBlank (decoder : Toml.Decoder) (h : Text.isBlank text = true) :
    ofText decoder text = .ok Settings.default := by
  rw [ofText, if_pos h]

theorem ofText_of_read? (hblank : Text.isBlank text = false)
    (hread : decoder.read? text = some entries) :
    ofText decoder text = (decode decoder entries).mapError .mismatch := by
  rw [ofText, hblank, hread]
  rfl

theorem ofText_eq_ok_iff (hblank : Text.isBlank text = false)
    (hread : decoder.read? text = some entries) {settings : Settings} :
    ofText decoder text = .ok settings ↔ decode decoder entries = .ok settings := by
  rw [ofText_of_read? hblank hread]
  cases decode decoder entries <;> simp [Except.mapError]

theorem ofText_of_error (hblank : Text.isBlank text = false)
    (hread : decoder.read? text = some entries) {message : String}
    (herror : decode decoder entries = .error message) :
    ofText decoder text = .error (.mismatch message) := by
  rw [ofText_of_read? hblank hread, herror]
  rfl

theorem ofText_eq_malformed_iff :
    ofText decoder text = .error .malformed ↔
      Text.isBlank text = false ∧ decoder.read? text = none := by
  cases hblank : Text.isBlank text with
  | true => simp [ofText_of_isBlank decoder hblank]
  | false =>
      cases hread : decoder.read? text with
      | none => simp [ofText, hblank, hread]
      | some entries =>
          rw [ofText_of_read? hblank hread]
          cases decode decoder entries <;> simp [Except.mapError]

/-- Settings from a text.  A blank text gives the default settings, whatever reads documents.  Of a
document there are settings exactly if the entries for them are written in ways that are read, and
then a setting is that of its entry, or the default if it has none; otherwise the first entry that
offends is refused, with its own message.  Documents that agree in these entries, in this order, have
the same outcome, unless both name the policy and give it the same filled array, whose tables have
headers in one of them only. -/
theorem ofText_eq_of_setting_entries (h : decoder.Lawful) (text : String) :
    (Text.isBlank text = true → ∀ reader, ofText reader text = .ok Settings.default) ∧
    ∀ entries, Text.isBlank text = false → decoder.read? text = some entries →
      (∀ settings, ofText decoder text = .ok settings ↔
        Chosen .ignore PolicyWritten ((decoder.data entries).lookup "unused_defaults")
          settings.policy ∧
        Chosen false FlagWritten ((decoder.data entries).lookup "trailing_slash")
          settings.trailingSlash) ∧
      ((∃ settings, ofText decoder text = .ok settings) ∨
        ∃ before entry after message, entries = before ++ entry :: after ∧
          (∀ earlier ∈ before, ¬Offends (decoder.datum earlier)) ∧
          Offends (decoder.datum entry) ∧ Refused decoder entry message ∧
          ofText decoder text = .error (.mismatch message)) ∧
      ∀ other others, Text.isBlank other = false → decoder.read? other = some others →
        (decoder.data others).filter Concerns = (decoder.data entries).filter Concerns →
        ofText decoder other = ofText decoder text ∨
          ∃ item otherItem message otherMessage, ("unused_defaults", item) ∈ entries ∧
            ("unused_defaults", otherItem) ∈ others ∧ WrittenApart decoder item otherItem ∧
            ofText decoder text = .error (.mismatch message) ∧
            ofText decoder other = .error (.mismatch otherMessage) := by
  constructor
  · intro hblank reader
    exact ofText_of_isBlank reader hblank
  · intro entries hblank hread
    have hdistinct : (entries.map Prod.fst).Nodup := h.nodup_keys hread
    refine ⟨?_, ?_, ?_⟩
    · intro settings
      rw [ofText_eq_ok_iff hblank hread]
      exact decode_eq_ok_iff h hdistinct
    · rcases decode_cases hdistinct with ⟨settings, hsettings, -⟩ |
        ⟨before, entry, after, message, hsplit, hbefore, hrefused, herror⟩
      · exact .inl ⟨settings, (ofText_eq_ok_iff hblank hread).mpr hsettings⟩
      · refine .inr ⟨before, entry, after, message, hsplit, ?_, ?_, hrefused,
          ofText_of_error hblank hread herror⟩
        · intro earlier hearlier hoffends
          obtain ⟨other, hother⟩ := (offends_datum_iff h).mp hoffends
          exact hbefore earlier hearlier other hother
        · exact (offends_datum_iff h).mpr ⟨message, hrefused⟩
    · intro other others hotherBlank hotherRead hsame
      rcases decode_congr h hdistinct (h.nodup_keys hotherRead) hsame with heq |
        ⟨item, otherItem, message, otherMessage, hitem, hother, hapart, herror, hotherError⟩
      · left
        rw [ofText_of_read? hotherBlank hotherRead, ofText_of_read? hblank hread, heq]
      · exact .inr ⟨item, otherItem, message, otherMessage, hitem, hother, hapart,
          ofText_of_error hblank hread herror, ofText_of_error hotherBlank hotherRead hotherError⟩

/-- Two documents in which the flag is a table, and comes before a policy that is one as well. -/
theorem ofText_eq_of_setting_entries_of_tables :
    Toml.standard.Lawful ∧ Text.isBlank "\u00a0\n" = true ∧ Toml.parse? "\u00a0\n" = none ∧
    (∀ reader, ofText reader "\u00a0\n" = .ok Settings.default) ∧
    ofText Toml.standard "[trailing_slash]\n[x]\n[unused_defaults]" =
      .error (.mismatch "invalid type: map, expected a boolean") ∧
    ofText Toml.standard "[trailing_slash]\n[x]\n[unused_defaults]" =
      ofText Toml.standard "[y.z]\n[trailing_slash]\n[unused_defaults]" := by
  have hblank : Text.isBlank "\u00a0\n" = true := by decide
  have hnone : Toml.parse? "\u00a0\n" = none := by
    unfold Toml.parse? Toml.sections Toml.assignments
    generalize Toml.node Toml.maxNesting = item
    cbv
  have hread : Toml.standard.read? "[y.z]\n[trailing_slash]\n[unused_defaults]" =
      some [("y", Toml.Node.table .implied [("z", .table .header [])]),
        ("trailing_slash", .table .header []), ("unused_defaults", .table .header [])] := by
    change Toml.parse? _ = _
    unfold Toml.parse? Toml.sections Toml.assignments
    generalize Toml.node Toml.maxNesting = item
    cbv
  have hother : Toml.standard.read? "[trailing_slash]\n[x]\n[unused_defaults]" =
      some [("trailing_slash", Toml.Node.table .header []), ("x", .table .header []),
        ("unused_defaults", .table .header [])] := by
    change Toml.parse? _ = _
    unfold Toml.parse? Toml.sections Toml.assignments
    generalize Toml.node Toml.maxNesting = item
    cbv
  have hotherBlank : Text.isBlank "[trailing_slash]\n[x]\n[unused_defaults]" = false := by decide
  have hmessage : ofText Toml.standard "[trailing_slash]\n[x]\n[unused_defaults]" =
      .error (.mismatch "invalid type: map, expected a boolean") :=
    ofText_of_error hotherBlank hother rfl
  obtain ⟨-, -, hsame⟩ :=
    (ofText_eq_of_setting_entries Toml.standard_lawful
      "[y.z]\n[trailing_slash]\n[unused_defaults]").2 _ (by decide) hread
  refine ⟨Toml.standard_lawful, hblank, hnone,
    (ofText_eq_of_setting_entries Toml.standard_lawful _).1 hblank, hmessage, ?_⟩
  rcases hsame _ _ hotherBlank hother rfl with heq | ⟨item, _, _, _, hitem, -, hapart, -, -⟩
  · exact heq
  · have hlookup := Keys.lookup_eq_some_of_mem (Toml.standard_lawful.nodup_keys hread) hitem
    obtain rfl : Toml.Node.table .header [] = item := Option.some.inj hlookup
    obtain ⟨hchoice, -, -, -, -⟩ := hapart
    cases hchoice

/-- A policy is read from a table whose only key has an empty array, which is no empty table.  And
an array with a table in it is refused with a message that says how the array is written. -/
theorem ofText_of_arrays :
    let value : Value := .table [("reject", .array [])]
    Toml.standard.Lawful ∧
    (∃ entries, Toml.standard.read? "unused_defaults.reject = []" = some entries ∧
      Toml.standard.data entries = [("unused_defaults", value)]) ∧
    (∀ name, value ≠ .string name) ∧ (∀ name, value ≠ .table [(name, .table [])]) ∧
    ofText Toml.standard "unused_defaults.reject = []" = .ok ⟨.reject, false⟩ ∧
    ∃ entries others,
      Toml.standard.read? "[[unused_defaults.ignore]]" = some entries ∧
      Toml.standard.read? "unused_defaults.ignore = [\x7b\x7d]" = some others ∧
      Toml.standard.data others = Toml.standard.data entries ∧
      ofText Toml.standard "[[unused_defaults.ignore]]" =
        .error (.mismatch "expected empty array") ∧
      ofText Toml.standard "unused_defaults.ignore = [\x7b\x7d]" =
        .error (.mismatch "expected empty table") := by
  have hempty : Toml.standard.read? "unused_defaults.reject = []" =
      some [("unused_defaults", Toml.Node.table .dotted [("reject", .array [])])] := by
    have hitem : Toml.node Toml.maxNesting ['[', ']'] = some (.array [], []) :=
      Toml.node_emptyArray 78 []
    change Toml.parse? _ = _
    unfold Toml.parse? Toml.sections Toml.assignments
    generalize Toml.node Toml.maxNesting = item at hitem
    cbv
    rw [hitem]
    cbv
  have hrows : Toml.standard.read? "[[unused_defaults.ignore]]" =
      some [("unused_defaults", Toml.Node.table .implied [("ignore", .rows [[]])])] := by
    change Toml.parse? _ = _
    unfold Toml.parse? Toml.sections Toml.assignments
    generalize Toml.node Toml.maxNesting = item
    cbv
  have harray : Toml.standard.read? "unused_defaults.ignore = [\x7b\x7d]" =
      some [("unused_defaults", Toml.Node.table .dotted
        [("ignore", .array [.table .inline []])])] := by
    have hitem : Toml.node Toml.maxNesting ['[', '\x7b', '\x7d', ']'] =
        some (.array [.table .inline []], []) := Toml.node_arrayOfEmptyTable 77 []
    change Toml.parse? _ = _
    unfold Toml.parse? Toml.sections Toml.assignments
    generalize Toml.node Toml.maxNesting = item at hitem
    cbv
    rw [hitem]
    cbv
  intro value
  refine ⟨Toml.standard_lawful, ⟨_, hempty, ?_⟩, by simp [value], by simp [value], ?_,
    _, _, hrows, harray, rfl, ?_, ?_⟩
  · cbv
  · exact (ofText_eq_ok_iff (by decide) hempty).mpr rfl
  · exact ofText_of_error (by decide) hrows rfl
  · exact ofText_of_error (by decide) harray rfl

end PathTemplate.Settings
