import Mathlib
import PathTemplate.Proofs.Keys
import PathTemplate.Settings.Decode

/-!
# Entries that decide settings

A setting is what its entry says, if that is written in one of the ways that are read, and keeps its
default if it has no entry.  Otherwise the first entry that does not fit is refused with its own
message.  Entries with other keys make no difference, wherever they stand among the two.
-/

namespace PathTemplate.Settings

open Toml (Value)

/-! ## Ways to write a setting -/

/-- A policy is written as its name, or as a table of one key, which is its name and stands for an
empty table or an empty array. -/
inductive PolicyWritten (policy : DefaultsPolicy) : Value → Prop
  | name : PolicyWritten policy (.string policy.name)
  | table : PolicyWritten policy (.table [(policy.name, .table [])])
  | array : PolicyWritten policy (.table [(policy.name, .array [])])

def FlagWritten (flag : Bool) (value : Value) : Prop :=
  value = .boolean flag

theorem policyWritten_string_iff {policy : DefaultsPolicy} {name : String} :
    PolicyWritten policy (.string name) ↔ name = policy.name := by
  constructor
  · intro h
    cases h with
    | name => rfl
  · rintro rfl
    exact .name

theorem policyWritten_table_iff {policy : DefaultsPolicy} {name : String} {inner : Value} :
    PolicyWritten policy (.table [(name, inner)]) ↔
      name = policy.name ∧ (inner = .table [] ∨ inner = .array []) := by
  constructor
  · intro h
    cases h with
    | table => exact ⟨rfl, .inl rfl⟩
    | array => exact ⟨rfl, .inr rfl⟩
  · rintro ⟨rfl, rfl | rfl⟩
    · exact .table
    · exact .array

theorem ofName?_eq_some_iff {name : String} {policy : DefaultsPolicy} :
    DefaultsPolicy.ofName? name = some policy ↔ name = policy.name := by
  constructor
  · intro h
    unfold DefaultsPolicy.ofName? at h
    split at h
    next hignore =>
      obtain rfl := Option.some.inj h
      exact hignore
    next =>
      split at h
      next hreject =>
        obtain rfl := Option.some.inj h
        exact hreject
      next => cases h
  · rintro rfl
    exact DefaultsPolicy.ofName?_name policy

theorem ofName?_eq_none_iff {name : String} :
    DefaultsPolicy.ofName? name = none ↔ name ∉ DefaultsPolicy.names := by
  simp only [Option.eq_none_iff_forall_ne_some, Ne, ofName?_eq_some_iff, DefaultsPolicy.names,
    List.mem_cons, List.not_mem_nil, or_false, not_or]
  constructor
  · intro h
    exact ⟨h .ignore, h .reject⟩
  · intro h policy
    cases policy with
    | ignore => exact h.1
    | reject => exact h.2

/-! ## One entry by itself -/

/-- The message with which an item for the policy is refused. -/
inductive PolicyRefused (decoder : Toml.Decoder) (item : decoder.Item) : String → Prop
  | choice {message : String} (hchoice : decoder.choice item = .error message) :
      PolicyRefused decoder item message
  | name {name : String} {content? : Option decoder.Item}
      (hchoice : decoder.choice item = .ok (name, content?)) (hname : name ∉ DefaultsPolicy.names) :
      PolicyRefused decoder item (decoder.unknownName name DefaultsPolicy.names)
  | content {policy : DefaultsPolicy} {content : decoder.Item} {message : String}
      (hchoice : decoder.choice item = .ok (policy.name, some content))
      (hcontent : decoder.noContent content = .error message) : PolicyRefused decoder item message

/-- The entry is for a setting, and is refused with the message. -/
def Refused (decoder : Toml.Decoder) (entry : String × decoder.Item) (message : String) : Prop :=
  (entry.1 = policyKey ∧ PolicyRefused decoder entry.2 message) ∨
    (entry.1 = flagKey ∧ decoder.boolean entry.2 = .error message)

/-- Both items name a policy and say the same about it, a filled array whose tables have headers in
one of the items only. -/
inductive WrittenApart (decoder : Toml.Decoder) (item other : decoder.Item) : Prop
  | mk {policy : DefaultsPolicy} {content otherContent : decoder.Item} {first : Value}
      {rest : List Value} (hitem : decoder.choice item = .ok (policy.name, some content))
      (hother : decoder.choice other = .ok (policy.name, some otherContent))
      (hcontent : decoder.value content = .array (first :: rest))
      (hsame : decoder.value otherContent = decoder.value content)
      (hheaders : decoder.hasHeaders otherContent ≠ decoder.hasHeaders content)

variable {decoder : Toml.Decoder} {item other : decoder.Item}

theorem decodePolicy_of_error {message : String} (hchoice : decoder.choice item = .error message) :
    decodePolicy decoder item = .error message := by
  rw [decodePolicy, hchoice]
  rfl

theorem decodePolicy_of_unknown {name : String} {content? : Option decoder.Item}
    (hchoice : decoder.choice item = .ok (name, content?)) (hname : name ∉ DefaultsPolicy.names) :
    decodePolicy decoder item = .error (decoder.unknownName name DefaultsPolicy.names) := by
  simp only [decodePolicy, hchoice, bind, Except.bind, ofName?_eq_none_iff.mpr hname]
  rfl

theorem decodePolicy_of_named {policy : DefaultsPolicy} {content? : Option decoder.Item}
    (hchoice : decoder.choice item = .ok (policy.name, content?)) :
    decodePolicy decoder item = (checkContent decoder content?).map fun _ => policy := by
  simp only [decodePolicy, hchoice, bind, Except.bind, DefaultsPolicy.ofName?_name]
  cases checkContent decoder content? <;> rfl

theorem decodePolicy_eq_error_iff {message : String} :
    decodePolicy decoder item = .error message ↔ PolicyRefused decoder item message := by
  constructor
  · intro h
    cases hchoice : decoder.choice item with
    | error refusal =>
        rw [decodePolicy_of_error hchoice] at h
        obtain rfl := Except.error.inj h
        exact .choice hchoice
    | ok named =>
        rcases named with ⟨name, content?⟩
        cases hname : DefaultsPolicy.ofName? name with
        | none =>
            have hunknown := ofName?_eq_none_iff.mp hname
            rw [decodePolicy_of_unknown hchoice hunknown] at h
            obtain rfl := Except.error.inj h
            exact .name hchoice hunknown
        | some policy =>
            obtain rfl := ofName?_eq_some_iff.mp hname
            rw [decodePolicy_of_named hchoice] at h
            cases content? with
            | none => cases h
            | some content =>
                cases hcontent : decoder.noContent content with
                | ok _ =>
                    rw [checkContent, hcontent] at h
                    cases h
                | error refusal =>
                    rw [checkContent, hcontent] at h
                    obtain rfl := Except.error.inj h
                    exact .content hchoice hcontent
  · intro h
    cases h with
    | choice hchoice => exact decodePolicy_of_error hchoice
    | name hchoice hname => exact decodePolicy_of_unknown hchoice hname
    | content hchoice hcontent =>
        rw [decodePolicy_of_named hchoice, checkContent, hcontent]
        rfl

/-- Whether an item is for a policy depends on the name and on what is said about it. -/
theorem decodePolicy_of_choice_eq_ok_iff {name : String} {content? : Option decoder.Item}
    (hchoice : decoder.choice item = .ok (name, content?)) {policy : DefaultsPolicy} :
    decodePolicy decoder item = .ok policy ↔
      name = policy.name ∧ checkContent decoder content? = .ok () := by
  cases hname : DefaultsPolicy.ofName? name with
  | none =>
      have hunknown := ofName?_eq_none_iff.mp hname
      rw [decodePolicy_of_unknown hchoice hunknown, ← ofName?_eq_some_iff, hname]
      simp
  | some named =>
      obtain rfl := ofName?_eq_some_iff.mp hname
      rw [decodePolicy_of_named hchoice, ← ofName?_eq_some_iff, hname]
      cases checkContent decoder content? with
      | error message => simp [Except.map]
      | ok _ => simp [Except.map]

/-! ## Items and their values -/

/-- An item names something by a string or by a table, or it is refused for its value. -/
theorem choice_cases (h : decoder.Lawful) (item : decoder.Item) :
    (∃ name, decoder.value item = .string name ∧ decoder.choice item = .ok (name, none)) ∨
      (∃ name content, decoder.value item = .table [(name, decoder.value content)] ∧
        decoder.choice item = .ok (name, some content)) ∨
      (∀ policy, ¬PolicyWritten policy (decoder.value item)) ∧
        ∃ message, ∀ other, decoder.value other = decoder.value item →
          decoder.choice other = .error message := by
  by_cases hstring : ∃ name, decoder.value item = .string name
  · obtain ⟨name, hvalue⟩ := hstring
    exact .inl ⟨name, hvalue, h.choice_of_string hvalue⟩
  by_cases htable : ∃ name inner, decoder.value item = .table [(name, inner)]
  · obtain ⟨name, inner, hvalue⟩ := htable
    obtain ⟨content, rfl, hchoice⟩ := h.choice_of_table hvalue
    exact .inr (.inl ⟨name, content, hvalue, hchoice⟩)
  · simp only [not_exists] at hstring htable
    refine .inr (.inr ⟨?_, h.choice_of_other hstring htable⟩)
    intro policy hwritten
    generalize decoder.value item = value at hstring htable hwritten
    cases hwritten with
    | name => exact hstring _ rfl
    | table => exact htable _ _ rfl
    | array => exact htable _ _ rfl

theorem noContent_eq_ok_iff (h : decoder.Lawful) :
    decoder.noContent item = .ok () ↔
      decoder.value item = .table [] ∨ decoder.value item = .array [] := by
  by_cases hempty : decoder.value item = .table [] ∨ decoder.value item = .array []
  · simp [h.noContent_of_empty hempty, hempty]
  · rw [not_or] at hempty
    obtain ⟨message, hrefused⟩ := h.noContent_of_other hempty.1 hempty.2
    simp [hrefused item rfl rfl, hempty]

theorem boolean_eq_ok_iff (h : decoder.Lawful) {flag : Bool} :
    decoder.boolean item = .ok flag ↔ FlagWritten flag (decoder.value item) := by
  unfold FlagWritten
  by_cases hboolean : ∃ b, decoder.value item = .boolean b
  · obtain ⟨b, hvalue⟩ := hboolean
    simp [h.boolean_of_boolean hvalue, hvalue]
  · rw [not_exists] at hboolean
    obtain ⟨message, hrefused⟩ := h.boolean_of_other hboolean
    simp [hrefused item rfl, hboolean]

theorem decodePolicy_eq_ok_iff (h : decoder.Lawful) {policy : DefaultsPolicy} :
    decodePolicy decoder item = .ok policy ↔ PolicyWritten policy (decoder.value item) := by
  rcases choice_cases h item with ⟨name, hvalue, hchoice⟩ | ⟨name, content, hvalue, hchoice⟩ |
    ⟨hnone, message, hrefused⟩
  · rw [decodePolicy_of_choice_eq_ok_iff hchoice, hvalue, policyWritten_string_iff]
    exact and_iff_left rfl
  · rw [decodePolicy_of_choice_eq_ok_iff hchoice, hvalue, policyWritten_table_iff, checkContent,
      noContent_eq_ok_iff h]
  · rw [decodePolicy_of_error (hrefused item rfl)]
    simp [hnone policy]

theorem boolean_congr (h : decoder.Lawful) (hvalue : decoder.value other = decoder.value item) :
    decoder.boolean other = decoder.boolean item := by
  by_cases hboolean : ∃ b, decoder.value item = .boolean b
  · obtain ⟨b, hb⟩ := hboolean
    rw [h.boolean_of_boolean hb, h.boolean_of_boolean (hvalue.trans hb)]
  · rw [not_exists] at hboolean
    obtain ⟨message, hrefused⟩ := h.boolean_of_other hboolean
    rw [hrefused item rfl, hrefused other hvalue]

/-- What is said about a name is judged by its value, unless it is a filled array that has headers
in one place only. -/
theorem noContent_congr (h : decoder.Lawful) (hvalue : decoder.value other = decoder.value item) :
    decoder.noContent other = decoder.noContent item ∨
      (∃ first rest, decoder.value item = .array (first :: rest)) ∧
        decoder.hasHeaders other ≠ decoder.hasHeaders item := by
  by_cases hempty : decoder.value item = .table [] ∨ decoder.value item = .array []
  · left
    rw [h.noContent_of_empty hempty, h.noContent_of_empty (by rwa [hvalue])]
  rw [not_or] at hempty
  by_cases hheaders : decoder.hasHeaders other = decoder.hasHeaders item
  · left
    obtain ⟨message, hrefused⟩ := h.noContent_of_other hempty.1 hempty.2
    rw [hrefused item rfl rfl, hrefused other hvalue hheaders]
  · right
    refine ⟨?_, hheaders⟩
    have hitems : ∃ items, decoder.value item = .array items := by
      cases hitem : decoder.hasHeaders item with
      | true => exact h.array_of_hasHeaders hitem
      | false =>
          rw [hitem, Bool.not_eq_false] at hheaders
          rw [← hvalue]
          exact h.array_of_hasHeaders hheaders
    obtain ⟨items, hitems⟩ := hitems
    cases items with
    | nil => exact absurd hitems hempty.2
    | cons first rest => exact ⟨first, rest, hitems⟩

theorem decodePolicy_congr (h : decoder.Lawful)
    (hvalue : decoder.value other = decoder.value item) :
    decodePolicy decoder other = decodePolicy decoder item ∨ WrittenApart decoder item other := by
  rcases choice_cases h item with ⟨name, hitem, hchoice⟩ | ⟨name, content, hitem, hchoice⟩ |
    ⟨-, message, hrefused⟩
  · left
    rw [decodePolicy, decodePolicy, hchoice, h.choice_of_string (hvalue.trans hitem)]
  · obtain ⟨otherContent, hsame, hother⟩ := h.choice_of_table (hvalue.trans hitem)
    cases hname : DefaultsPolicy.ofName? name with
    | none =>
        have hunknown := ofName?_eq_none_iff.mp hname
        left
        rw [decodePolicy_of_unknown hchoice hunknown, decodePolicy_of_unknown hother hunknown]
    | some policy =>
        obtain rfl := ofName?_eq_some_iff.mp hname
        rcases noContent_congr h hsame with heq | ⟨⟨first, rest, harray⟩, hheaders⟩
        · left
          rw [decodePolicy_of_named hchoice, decodePolicy_of_named hother, checkContent,
            checkContent, heq]
        · exact .inr ⟨hchoice, hother, harray, hsame, hheaders⟩
  · left
    rw [decodePolicy_of_error (hrefused item rfl), decodePolicy_of_error (hrefused other hvalue)]

/-! ## One entry after the other -/

/-- What a setting is, given the entry for it. -/
inductive Chosen {α β : Type} (default : α) (Written : α → β → Prop) : Option β → α → Prop
  | absent : Chosen default Written none default
  | present {value : β} {choice : α} (h : Written choice value) :
      Chosen default Written (some value) choice

/-- What the settled part of a draft is, given the entry for it. -/
def Settled {α : Type} (held : Option α) (decoded : decoder.Item → Except String α) :
    Option decoder.Item → Option α → Prop :=
  Chosen held fun settled item => ∃ choice, settled = some choice ∧ decoded item = .ok choice

/-- No entry is for a setting that the draft has settled. -/
structure Draft.Open (draft : Draft) (entries : List (String × decoder.Item)) : Prop where
  policy : policyKey ∈ entries.map Prod.fst → draft.policy = none
  flag : flagKey ∈ entries.map Prod.fst → draft.trailingSlash = none

/-- What an entry that is not refused makes of a draft. -/
inductive Taken (decoder : Toml.Decoder) (draft : Draft) : String × decoder.Item → Draft → Prop
  | policy {item : decoder.Item} {policy : DefaultsPolicy}
      (h : decodePolicy decoder item = .ok policy) :
      Taken decoder draft (policyKey, item) { draft with policy := some policy }
  | flag {item : decoder.Item} {flag : Bool} (h : decoder.boolean item = .ok flag) :
      Taken decoder draft (flagKey, item) { draft with trailingSlash := some flag }
  | other {entry : String × decoder.Item} (hpolicy : entry.1 ≠ policyKey)
      (hflag : entry.1 ≠ flagKey) : Taken decoder draft entry draft

variable {draft next : Draft} {entry : String × decoder.Item}
  {entries rest : List (String × decoder.Item)}

theorem flagKey_ne_policyKey : flagKey ≠ policyKey := by
  decide

theorem Taken.not_refused (h : Taken decoder draft entry next) (message : String) :
    ¬Refused decoder entry message := by
  intro hrefused
  cases h with
  | policy hpolicy =>
      rcases hrefused with ⟨-, hrefused⟩ | ⟨hkey, -⟩
      · rw [decodePolicy_eq_error_iff.mpr hrefused] at hpolicy
        cases hpolicy
      · exact flagKey_ne_policyKey hkey.symm
  | flag hflag =>
      rcases hrefused with ⟨hkey, -⟩ | ⟨-, hrefused⟩
      · exact flagKey_ne_policyKey hkey
      · rw [hrefused] at hflag
        cases hflag
  | other hpolicy hflag =>
      rcases hrefused with ⟨hkey, -⟩ | ⟨hkey, -⟩
      · exact hpolicy hkey
      · exact hflag hkey

theorem Taken.open (h : Taken decoder draft entry next)
    (hdistinct : ((entry :: rest).map Prod.fst).Nodup) (hopen : draft.Open (entry :: rest)) :
    next.Open rest := by
  have hkey : entry.1 ∉ rest.map Prod.fst := (List.nodup_cons.mp hdistinct).1
  have hpolicy : policyKey ∈ rest.map Prod.fst → draft.policy = none :=
    fun hmem => hopen.policy (List.mem_cons_of_mem _ hmem)
  have hflag : flagKey ∈ rest.map Prod.fst → draft.trailingSlash = none :=
    fun hmem => hopen.flag (List.mem_cons_of_mem _ hmem)
  cases h with
  | policy => exact ⟨fun hmem => absurd hmem hkey, hflag⟩
  | flag => exact ⟨hpolicy, fun hmem => absurd hmem hkey⟩
  | other => exact ⟨hpolicy, hflag⟩

/-- An entry for a setting that is still open is refused by itself, or is taken into the draft. -/
theorem decodeEntry_cases (hopen : draft.Open (entry :: rest)) :
    (∃ message, Refused decoder entry message ∧
      decodeEntry decoder draft entry = .error message) ∨
    ∃ next, Taken decoder draft entry next ∧ decodeEntry decoder draft entry = .ok next := by
  rcases entry with ⟨key, item⟩
  by_cases hpolicyKey : key = policyKey
  · subst hpolicyKey
    have hheld : draft.policy = none := hopen.policy List.mem_cons_self
    cases hdecode : decodePolicy decoder item with
    | error message =>
        refine .inl ⟨message, .inl ⟨rfl, decodePolicy_eq_error_iff.mp hdecode⟩, ?_⟩
        rw [decodeEntry, if_pos rfl, hheld, hdecode]
        rfl
    | ok policy =>
        refine .inr ⟨_, .policy hdecode, ?_⟩
        rw [decodeEntry, if_pos rfl, hheld, hdecode]
        rfl
  by_cases hflagKey : key = flagKey
  · subst hflagKey
    have hheld : draft.trailingSlash = none := hopen.flag List.mem_cons_self
    cases hdecode : decoder.boolean item with
    | error message =>
        refine .inl ⟨message, .inr ⟨rfl, hdecode⟩, ?_⟩
        rw [decodeEntry, if_neg hpolicyKey, if_pos rfl, hheld, hdecode]
        rfl
    | ok flag =>
        refine .inr ⟨_, .flag hdecode, ?_⟩
        rw [decodeEntry, if_neg hpolicyKey, if_pos rfl, hheld, hdecode]
        rfl
  · refine .inr ⟨draft, .other hpolicyKey hflagKey, ?_⟩
    rw [decodeEntry, if_neg hpolicyKey, if_neg hflagKey]
    rfl

/-- After an entry is taken, the others settle what is left. -/
theorem Taken.settled (h : Taken decoder draft entry next) {final : Draft}
    (hkey : entry.1 ∉ rest.map Prod.fst)
    (hpolicy : Settled next.policy (decodePolicy decoder) (rest.lookup policyKey) final.policy)
    (hflag : Settled next.trailingSlash decoder.boolean (rest.lookup flagKey)
      final.trailingSlash) :
    Settled draft.policy (decodePolicy decoder) ((entry :: rest).lookup policyKey) final.policy ∧
      Settled draft.trailingSlash decoder.boolean ((entry :: rest).lookup flagKey)
        final.trailingSlash := by
  have hnone : rest.lookup entry.1 = none := Keys.lookup_eq_none_iff.mpr hkey
  cases h with
  | @policy item policy hdecode =>
      rw [hnone] at hpolicy
      rw [List.lookup_cons_self, Keys.lookup_cons_of_ne flagKey_ne_policyKey]
      refine ⟨?_, hflag⟩
      generalize final.policy = settled at hpolicy
      cases hpolicy with
      | absent => exact .present ⟨policy, rfl, hdecode⟩
  | @flag item flag hdecode =>
      rw [hnone] at hflag
      rw [List.lookup_cons_self, Keys.lookup_cons_of_ne flagKey_ne_policyKey.symm]
      refine ⟨hpolicy, ?_⟩
      generalize final.trailingSlash = settled at hflag
      cases hflag with
      | absent => exact .present ⟨flag, rfl, hdecode⟩
  | other hpolicyKey hflagKey =>
      rcases entry with ⟨key, item⟩
      rw [Keys.lookup_cons_of_ne hpolicyKey.symm, Keys.lookup_cons_of_ne hflagKey.symm]
      exact ⟨hpolicy, hflag⟩

/-- Either all entries are taken, and settle what the draft has open, or some entry is the first
that is refused. -/
theorem foldlM_decodeEntry_cases (hdistinct : (entries.map Prod.fst).Nodup)
    (hopen : draft.Open entries) :
    (∃ final, entries.foldlM (decodeEntry decoder) draft = .ok final ∧
      Settled draft.policy (decodePolicy decoder) (entries.lookup policyKey) final.policy ∧
      Settled draft.trailingSlash decoder.boolean (entries.lookup flagKey)
        final.trailingSlash) ∨
    ∃ before entry after message, entries = before ++ entry :: after ∧
      (∀ earlier ∈ before, ∀ message, ¬Refused decoder earlier message) ∧
      Refused decoder entry message ∧
      entries.foldlM (decodeEntry decoder) draft = .error message := by
  induction entries generalizing draft with
  | nil => exact .inl ⟨draft, rfl, .absent, .absent⟩
  | cons entry rest ih =>
      rcases decodeEntry_cases hopen with ⟨message, hrefused, herror⟩ | ⟨next, htaken, hnext⟩
      · refine .inr ⟨[], entry, rest, message, rfl, by simp, hrefused, ?_⟩
        rw [List.foldlM_cons, herror]
        rfl
      · have hfold : (entry :: rest).foldlM (decodeEntry decoder) draft =
            rest.foldlM (decodeEntry decoder) next := by
          rw [List.foldlM_cons, hnext]
          rfl
        obtain ⟨hkey, hrest⟩ := List.nodup_cons.mp hdistinct
        rw [hfold]
        rcases ih hrest (htaken.open hdistinct hopen) with ⟨final, hfinal, hpolicy, hflag⟩ |
          ⟨before, first, after, message, hsplit, hbefore, hrefused, herror⟩
        · exact .inl ⟨final, hfinal, htaken.settled hkey hpolicy hflag⟩
        · refine .inr ⟨entry :: before, first, after, message, ?_, ?_, hrefused, herror⟩
          · rw [hsplit, List.cons_append]
          · exact List.forall_mem_cons.mpr ⟨htaken.not_refused, hbefore⟩

/-! ## All entries of a document -/

theorem Chosen.unique {α β : Type} {default left right : α} {Written : α → β → Prop}
    {value? : Option β} (hleft : Chosen default Written value? left)
    (hright : Chosen default Written value? right)
    (h : ∀ {value}, Written left value → Written right value → left = right) : left = right := by
  cases hleft with
  | absent =>
      cases hright with
      | absent => rfl
  | present hwritten =>
      cases hright with
      | present hother => exact h hwritten hother

theorem Settled.chosen {α : Type} {decoded : decoder.Item → Except String α}
    {item? : Option decoder.Item} {settled : Option α} (h : Settled none decoded item? settled)
    (default : α) :
    Chosen default (fun choice item => decoded item = .ok choice) item?
      (settled.getD default) := by
  cases h with
  | absent => exact .absent
  | present hdecoded =>
      obtain ⟨choice, rfl, hchoice⟩ := hdecoded
      exact .present hchoice

/-- A setting is chosen by the value of its entry. -/
theorem chosen_data_iff {α : Type} {default choice : α} {Written : α → Value → Prop}
    {key : String} :
    Chosen default Written ((decoder.data entries).lookup key) choice ↔
      Chosen default (fun choice item => Written choice (decoder.value item))
        (entries.lookup key) choice := by
  have hlookup : (decoder.data entries).lookup key = (entries.lookup key).map decoder.value :=
    Keys.lookup_map decoder.value entries key
  rw [hlookup]
  cases entries.lookup key with
  | none =>
      constructor
      · intro h
        cases h with
        | absent => exact .absent
      · intro h
        cases h with
        | absent => exact .absent
  | some item =>
      constructor
      · intro h
        cases h with
        | present hwritten => exact .present hwritten
      · intro h
        cases h with
        | present hwritten => exact .present hwritten

/-- Either there are settings, each as its entry says, or some entry is the first that is refused. -/
theorem decode_cases (hdistinct : (entries.map Prod.fst).Nodup) :
    (∃ settings, decode decoder entries = .ok settings ∧
      Chosen .ignore (fun policy item => decodePolicy decoder item = .ok policy)
        (entries.lookup policyKey) settings.policy ∧
      Chosen false (fun flag item => decoder.boolean item = .ok flag)
        (entries.lookup flagKey) settings.trailingSlash) ∨
    ∃ before entry after message, entries = before ++ entry :: after ∧
      (∀ earlier ∈ before, ∀ message, ¬Refused decoder earlier message) ∧
      Refused decoder entry message ∧ decode decoder entries = .error message := by
  have hopen : Draft.empty.Open entries := ⟨fun _ => rfl, fun _ => rfl⟩
  rcases foldlM_decodeEntry_cases hdistinct hopen with ⟨final, hfinal, hpolicy, hflag⟩ |
    ⟨before, entry, after, message, hsplit, hbefore, hrefused, herror⟩
  · refine .inl ⟨final.settings, ?_, hpolicy.chosen .ignore, hflag.chosen false⟩
    rw [decode, hfinal]
    rfl
  · refine .inr ⟨before, entry, after, message, hsplit, hbefore, hrefused, ?_⟩
    rw [decode, herror]
    rfl

theorem decode_eq_ok_iff (h : decoder.Lawful) (hdistinct : (entries.map Prod.fst).Nodup)
    {settings : Settings} :
    decode decoder entries = .ok settings ↔
      Chosen .ignore PolicyWritten ((decoder.data entries).lookup policyKey) settings.policy ∧
      Chosen false FlagWritten ((decoder.data entries).lookup flagKey)
        settings.trailingSlash := by
  simp only [chosen_data_iff, ← decodePolicy_eq_ok_iff h, ← boolean_eq_ok_iff h]
  rcases decode_cases hdistinct with ⟨final, hfinal, hpolicy, hflag⟩ |
    ⟨before, entry, after, message, hsplit, -, hrefused, herror⟩
  · rw [hfinal, Except.ok.injEq]
    constructor
    · rintro rfl
      exact ⟨hpolicy, hflag⟩
    · rintro ⟨hotherPolicy, hotherFlag⟩
      have hsamePolicy : final.policy = settings.policy :=
        hpolicy.unique hotherPolicy fun hleft hright => Except.ok.inj (hleft.symm.trans hright)
      have hsameFlag : final.trailingSlash = settings.trailingSlash :=
        hflag.unique hotherFlag fun hleft hright => Except.ok.inj (hleft.symm.trans hright)
      rcases final with ⟨policy, flag⟩
      rcases settings with ⟨otherPolicy, otherFlag⟩
      rw [Settings.mk.injEq]
      exact ⟨hsamePolicy, hsameFlag⟩
  · rw [herror]
    simp only [reduceCtorEq, false_iff, not_and]
    intro hpolicy hflag
    rcases entry with ⟨key, item⟩
    have hmem : (key, item) ∈ entries := by
      rw [hsplit]
      exact List.mem_append_cons_self
    have hlookup : entries.lookup key = some item := Keys.lookup_eq_some_of_mem hdistinct hmem
    rcases hrefused with ⟨rfl, hrefused⟩ | ⟨rfl, hrefused⟩
    · rw [hlookup] at hpolicy
      cases hpolicy with
      | present hdecode =>
          rw [decodePolicy_eq_error_iff.mpr hrefused] at hdecode
          cases hdecode
    · rw [hlookup] at hflag
      cases hflag with
      | present hdecode =>
          rw [hrefused] at hdecode
          cases hdecode

/-- The entry is for a setting, and is written in no way that is read. -/
def Offends (entry : String × Value) : Prop :=
  (entry.1 = policyKey ∧ ∀ policy, ¬PolicyWritten policy entry.2) ∨
    (entry.1 = flagKey ∧ ∀ flag, ¬FlagWritten flag entry.2)

theorem forall_ne_ok_iff {α : Type} {decoded : Except String α} :
    (∀ choice, decoded ≠ .ok choice) ↔ ∃ message, decoded = .error message := by
  cases decoded with
  | error message => simp
  | ok choice => simp

theorem offends_datum_iff (h : decoder.Lawful) :
    Offends (decoder.datum entry) ↔ ∃ message, Refused decoder entry message := by
  have hpolicy : (∀ policy, ¬PolicyWritten policy (decoder.value entry.2)) ↔
      ∃ message, PolicyRefused decoder entry.2 message := by
    simp only [← decodePolicy_eq_ok_iff h, ← decodePolicy_eq_error_iff]
    exact forall_ne_ok_iff
  have hflag : (∀ flag, ¬FlagWritten flag (decoder.value entry.2)) ↔
      ∃ message, decoder.boolean entry.2 = .error message := by
    simp only [← boolean_eq_ok_iff h]
    exact forall_ne_ok_iff
  unfold Offends Refused
  rw [exists_or, exists_and_left, exists_and_left, ← hpolicy, ← hflag]
  rfl

/-! ## Two documents -/

/-- The entry has the key of a setting. -/
def Concerns (entry : String × Value) : Prop :=
  entry.1 = policyKey ∨ entry.1 = flagKey

instance : DecidablePred Concerns := fun entry =>
  inferInstanceAs (Decidable (entry.1 = policyKey ∨ entry.1 = flagKey))

theorem Offends.concerns {datum : String × Value} (h : Offends datum) : Concerns datum :=
  h.imp And.left And.left

/-- The first entry that is refused is the first that offends among those for settings. -/
theorem find?_offends (h : decoder.Lawful) [DecidablePred Offends]
    {before : List (String × decoder.Item)} {message : String}
    (hbefore : ∀ earlier ∈ before, ∀ message, ¬Refused decoder earlier message)
    (hrefused : Refused decoder entry message) (after : List (String × decoder.Item)) :
    ((decoder.data (before ++ entry :: after)).filter Concerns).find? Offends =
      some (decoder.datum entry) := by
  have hoffends : Offends (decoder.datum entry) := (offends_datum_iff h).mpr ⟨message, hrefused⟩
  have hnone : ∀ earlier ∈ decoder.data before, ¬Offends earlier := by
    intro earlier hearlier hoffends
    obtain ⟨source, hsource, rfl⟩ := List.mem_map.mp hearlier
    obtain ⟨other, hother⟩ := (offends_datum_iff h).mp hoffends
    exact hbefore source hsource other hother
  rw [List.find?_filter, List.find?_eq_some_iff_append]
  refine ⟨by simp [hoffends, hoffends.concerns], decoder.data before, decoder.data after, ?_, ?_⟩
  · rw [Toml.Decoder.data, List.map_append, List.map_cons]
    rfl
  · intro earlier hearlier
    simp [hnone earlier hearlier]

theorem lookup_of_filter_eq {data others : List (String × Value)} {key : String}
    (hkey : key = policyKey ∨ key = flagKey) (h : others.filter Concerns = data.filter Concerns) :
    others.lookup key = data.lookup key := by
  have hfilter : ∀ list : List (String × Value), (list.filter Concerns).lookup key =
      list.lookup key :=
    Keys.lookup_filter fun _ => decide_eq_true hkey
  rw [← hfilter others, h, hfilter]

/-- Entries for settings that are equal, in equal order, have one outcome, unless the first that is
refused names a policy and is written apart. -/
theorem decode_congr (h : decoder.Lawful) {others : List (String × decoder.Item)}
    (hdistinct : (entries.map Prod.fst).Nodup) (hothers : (others.map Prod.fst).Nodup)
    (hsame : (decoder.data others).filter Concerns = (decoder.data entries).filter Concerns) :
    decode decoder others = decode decoder entries ∨
      ∃ item otherItem message otherMessage, (policyKey, item) ∈ entries ∧
        (policyKey, otherItem) ∈ others ∧ WrittenApart decoder item otherItem ∧
        decode decoder entries = .error message ∧ decode decoder others = .error otherMessage := by
  classical
  have hok : ∀ settings, decode decoder others = .ok settings ↔
      decode decoder entries = .ok settings := by
    intro settings
    rw [decode_eq_ok_iff h hothers, decode_eq_ok_iff h hdistinct,
      lookup_of_filter_eq (.inl rfl) hsame, lookup_of_filter_eq (.inr rfl) hsame]
  rcases decode_cases hdistinct with ⟨settings, hsettings, -⟩ |
    ⟨before, entry, after, message, hsplit, hbefore, hrefused, herror⟩
  · left
    rw [hsettings, hok, hsettings]
  rcases decode_cases hothers with ⟨settings, hsettings, -⟩ |
    ⟨otherBefore, otherEntry, otherAfter, otherMessage, hotherSplit, hotherBefore, hotherRefused,
      hotherError⟩
  · left
    rw [hsettings, (hok settings).mp hsettings]
  have hdatum : decoder.datum otherEntry = decoder.datum entry := by
    have hfirst := find?_offends h hbefore hrefused after
    have hotherFirst := find?_offends h hotherBefore hotherRefused otherAfter
    rw [← hsplit] at hfirst
    rw [← hotherSplit, hsame, hfirst] at hotherFirst
    exact (Option.some.inj hotherFirst).symm
  rcases entry with ⟨key, item⟩
  rcases otherEntry with ⟨otherKey, otherItem⟩
  obtain ⟨rfl, hvalue⟩ := Prod.mk.inj hdatum
  rw [herror, hotherError, Except.error.injEq]
  rcases hrefused with ⟨rfl, hpolicy⟩ | ⟨rfl, hflag⟩
  · have hotherPolicy := (hotherRefused.resolve_right fun hflag =>
      flagKey_ne_policyKey hflag.1.symm).2
    rcases decodePolicy_congr h hvalue with heq | hapart
    · rw [decodePolicy_eq_error_iff.mpr hpolicy, decodePolicy_eq_error_iff.mpr hotherPolicy] at heq
      exact .inl (Except.error.inj heq)
    · refine .inr ⟨item, otherItem, message, otherMessage, ?_, ?_, hapart, rfl, rfl⟩
      · rw [hsplit]
        exact List.mem_append_cons_self
      · rw [hotherSplit]
        exact List.mem_append_cons_self
  · have hotherFlag := (hotherRefused.resolve_left fun hpolicy =>
      flagKey_ne_policyKey hpolicy.1).2
    have heq := boolean_congr h hvalue
    rw [hflag, hotherFlag] at heq
    exact .inl (Except.error.inj heq)

end PathTemplate.Settings
