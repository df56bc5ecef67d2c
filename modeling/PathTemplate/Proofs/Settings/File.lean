import Mathlib
import PathTemplate.Proofs.Text.Quoted
import PathTemplate.Settings.File

/-!
# Settings from a file

A file that is absent or blank gives the default settings, and any other file the settings of its
text.  The context of an error determines which file it is about, and whether that could be read.
-/

namespace PathTemplate.Settings

theorem fromUTF8?_toByteArray (text : String) : String.fromUTF8? text.toByteArray = some text :=
  dif_pos text.isValidUTF8

theorem fromUTF8?_eq_some_iff {bytes : ByteArray} {text : String} :
    String.fromUTF8? bytes = some text ↔ bytes = text.toByteArray := by
  constructor
  · intro h
    unfold String.fromUTF8? at h
    split at h
    next hvalid =>
      obtain rfl := Option.some.inj h
      rfl
    next => cases h
  · rintro rfl
    exact fromUTF8?_toByteArray text

/-- The file is there, and has no text. -/
inductive File.Unreadable : File → Prop
  | directory : Unreadable .directory
  | content {bytes : ByteArray} (h : ∀ text : String, bytes ≠ text.toByteArray) :
      Unreadable (.content bytes)

theorem File.absent_or_unreadable_or_text (file : File) :
    file = .absent ∨ file.Unreadable ∨ ∃ text : String, file = .content text.toByteArray := by
  cases file with
  | absent => exact .inl rfl
  | directory => exact .inr (.inl .directory)
  | content bytes =>
      by_cases h : ∃ text : String, bytes = text.toByteArray
      · obtain ⟨text, rfl⟩ := h
        exact .inr (.inr ⟨text, rfl⟩)
      · exact .inr (.inl (.content (not_exists.mp h)))

theorem File.not_unreadable_text (text : String) : ¬Unreadable (.content text.toByteArray) := by
  intro h
  cases h with
  | content hnone => exact hnone text rfl

variable {decoder : Toml.Decoder} {name other : String} {file otherFile : File}
  {settings : Settings} {failure otherFailure : FileError}

theorem ofFile_of_unreadable (h : file.Unreadable) :
    ofFile decoder name file = .error (.unreadable name) := by
  cases h with
  | directory => rfl
  | @content bytes hnone =>
      have hinvalid : String.fromUTF8? bytes = none :=
        Option.eq_none_iff_forall_ne_some.mpr fun text =>
          mt fromUTF8?_eq_some_iff.mp (hnone text)
      rw [ofFile, hinvalid]

theorem ofFile_text (text : String) :
    ofFile decoder name (.content text.toByteArray) =
      (ofText decoder text).mapError (.invalid name) := by
  rw [ofFile, fromUTF8?_toByteArray]

theorem ofFile_eq_ok_iff :
    ofFile decoder name file = .ok settings ↔
      (file = .absent ∧ settings = Settings.default) ∨
      ∃ text : String, file = .content text.toByteArray ∧ ofText decoder text = .ok settings := by
  constructor
  · intro h
    rcases file.absent_or_unreadable_or_text with rfl | hunreadable | ⟨text, rfl⟩
    · exact .inl ⟨rfl, (Except.ok.inj h).symm⟩
    · rw [ofFile_of_unreadable hunreadable] at h
      cases h
    · rw [ofFile_text] at h
      cases htext : ofText decoder text with
      | error cause =>
          rw [htext] at h
          cases h
      | ok found =>
          rw [htext] at h
          obtain rfl := Except.ok.inj h
          exact .inr ⟨text, rfl, htext⟩
  · rintro (⟨rfl, rfl⟩ | ⟨text, rfl, htext⟩)
    · rfl
    · rw [ofFile_text, htext]
      rfl

/-- A file that is absent or blank gives the default settings, whatever reads documents. -/
theorem ofFile_of_absent_or_blank
    (h : file = .absent ∨
      ∃ text : String, file = .content text.toByteArray ∧ Text.isBlank text = true) :
    ofFile decoder name file = .ok Settings.default := by
  rw [ofFile_eq_ok_iff]
  rcases h with rfl | ⟨text, rfl, hblank⟩
  · exact .inl ⟨rfl, rfl⟩
  · exact .inr ⟨text, rfl, if_pos hblank⟩

theorem ofFile_eq_error_iff :
    ofFile decoder name file = .error failure ↔
      (file.Unreadable ∧ failure = .unreadable name) ∨
      ∃ (text : String) (cause : TextError), file = .content text.toByteArray ∧
        ofText decoder text = .error cause ∧ failure = .invalid name cause := by
  constructor
  · intro h
    rcases file.absent_or_unreadable_or_text with rfl | hunreadable | ⟨text, rfl⟩
    · cases h
    · rw [ofFile_of_unreadable hunreadable] at h
      exact .inl ⟨hunreadable, (Except.error.inj h).symm⟩
    · rw [ofFile_text] at h
      cases htext : ofText decoder text with
      | error cause =>
          rw [htext] at h
          exact .inr ⟨text, cause, rfl, htext, (Except.error.inj h).symm⟩
      | ok found =>
          rw [htext] at h
          cases h
  · rintro (⟨hunreadable, rfl⟩ | ⟨text, cause, rfl, htext, rfl⟩)
    · exact ofFile_of_unreadable hunreadable
    · rw [ofFile_text, htext]
      rfl

theorem unreadable_context_ne_invalid (name other : String) (cause : TextError) :
    FileError.context (.unreadable name) ≠ FileError.context (.invalid other cause) := by
  intro h
  change "Failed to read mount config: " ++ Text.quote name =
    "Failed to parse mount config: " ++ Text.quote other at h
  have hlists := congrArg String.toList h
  simp at hlists

/-- Errors with the same context are about files of the same name, and either both files could not
be read or neither has a text that gives settings. -/
theorem ofFile_context_inj (h : ofFile decoder name file = .error failure)
    (hother : ofFile decoder other otherFile = .error otherFailure)
    (hcontext : failure.context = otherFailure.context) :
    name = other ∧ (file.Unreadable ↔ otherFile.Unreadable) := by
  rcases ofFile_eq_error_iff.mp h with ⟨hunreadable, rfl⟩ | ⟨text, cause, rfl, -, rfl⟩
  · rcases ofFile_eq_error_iff.mp hother with ⟨hotherUnreadable, rfl⟩ |
      ⟨otherText, otherCause, rfl, -, rfl⟩
    · have hname := Text.quote_injective (String.append_right_inj _ |>.mp hcontext)
      exact ⟨hname, iff_of_true hunreadable hotherUnreadable⟩
    · exact absurd hcontext (unreadable_context_ne_invalid _ _ _)
  · rcases ofFile_eq_error_iff.mp hother with ⟨hotherUnreadable, rfl⟩ |
      ⟨otherText, otherCause, rfl, -, rfl⟩
    · exact absurd hcontext.symm (unreadable_context_ne_invalid _ _ _)
    · have hname := Text.quote_injective (String.append_right_inj _ |>.mp hcontext)
      exact ⟨hname, iff_of_false (File.not_unreadable_text text)
        (File.not_unreadable_text otherText)⟩

end PathTemplate.Settings
