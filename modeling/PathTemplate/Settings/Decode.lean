import PathTemplate.Settings.Basic
import PathTemplate.Toml.Decoder

/-!
# Settings from the entries of a document

Of a document's entries only two count: `unused_defaults` and `trailing_slash`.  They are taken in
the order of the document, and the first that does not fit ends it.  A setting whose entry is absent
keeps its default.
-/

namespace PathTemplate.Settings

def policyKey : String := "unused_defaults"

def flagKey : String := "trailing_slash"

/-- What the entries so far have settled. -/
structure Draft where
  policy : Option DefaultsPolicy
  trailingSlash : Option Bool

namespace Draft

def empty : Draft := ⟨none, none⟩

def settings (draft : Draft) : Settings where
  policy := draft.policy.getD Settings.default.policy
  trailingSlash := draft.trailingSlash.getD Settings.default.trailingSlash

end Draft

variable (decoder : Toml.Decoder)

def checkContent : Option decoder.Item → Except String Unit
  | none => .ok ()
  | some content => decoder.noContent content

def decodePolicy (item : decoder.Item) : Except String DefaultsPolicy := do
  let (name, content?) ← decoder.choice item
  match DefaultsPolicy.ofName? name with
  | none => throw (decoder.unknownName name DefaultsPolicy.names)
  | some policy =>
    checkContent decoder content?
    return policy

/-- Settles what is still open. -/
def settle (key : String) (held : Option α) (decoded : Except String α) :
    Except String (Option α) :=
  match held with
  | none => decoded.map some
  | some _ => .error (decoder.repeatedKey key)

/-- Takes up one entry; an entry with any other key changes nothing. -/
def decodeEntry (draft : Draft) (entry : String × decoder.Item) : Except String Draft :=
  if entry.1 = policyKey then do
    let policy ← settle decoder policyKey draft.policy (decodePolicy decoder entry.2)
    return { draft with policy }
  else if entry.1 = flagKey then do
    let trailingSlash ← settle decoder flagKey draft.trailingSlash (decoder.boolean entry.2)
    return { draft with trailingSlash }
  else
    return draft

def decode (entries : List (String × decoder.Item)) : Except String Settings := do
  let draft ← entries.foldlM (decodeEntry decoder) .empty
  return draft.settings

end PathTemplate.Settings
