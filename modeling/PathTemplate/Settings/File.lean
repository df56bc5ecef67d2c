import PathTemplate.Settings.Decode
import PathTemplate.Text.Blank
import PathTemplate.Text.Quoted

/-!
# Settings from a file

Settings are read from the text of a TOML document.  Blank text and a missing file give the default
settings.  An error that concerns a file says which file it is and whether it could be read at all.
-/

namespace PathTemplate.Settings

inductive TextError where
  /-- The text is no TOML document. -/
  | malformed
  /-- The document has an entry for a setting that does not fit. -/
  | mismatch (message : String)
  deriving Repr, DecidableEq

def ofText (decoder : Toml.Decoder) (text : String) : Except TextError Settings :=
  if Text.isBlank text then
    .ok Settings.default
  else
    match decoder.read? text with
    | none => .error .malformed
    | some entries => (decode decoder entries).mapError .mismatch

inductive File where
  | absent
  | directory
  | content (bytes : ByteArray)

inductive FileError where
  /-- The file is a directory, or its bytes are not UTF-8. -/
  | unreadable (name : String)
  | invalid (name : String) (cause : TextError)
  deriving Repr, DecidableEq

def FileError.context : FileError → String
  | unreadable name => "Failed to read mount config: " ++ Text.quote name
  | invalid name _ => "Failed to parse mount config: " ++ Text.quote name

def ofFile (decoder : Toml.Decoder) (name : String) : File → Except FileError Settings
  | .absent => .ok Settings.default
  | .directory => .error (.unreadable name)
  | .content bytes =>
    match String.fromUTF8? bytes with
    | none => .error (.unreadable name)
    | some text => (ofText decoder text).mapError (.invalid name)

end PathTemplate.Settings
