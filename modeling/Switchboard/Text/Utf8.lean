import Std.Data.ExtTreeMap

/-!
# Texts and their bytes

Frames travel as bytes, while labels, identities and room names are texts.
This file fixes the passage between the two: every text has exactly one UTF-8
form, and reading bytes succeeds exactly on such forms.

Names are sorted by the bytes of their UTF-8 form. The order is lawful, so it
can key the ordered maps of the library.
-/

namespace Switchboard

/-- A frame, or a stretch of one, as it travels. -/
abbrev Bytes := List UInt8

namespace Text

/-- The UTF-8 form of a text. -/
def utf8 (text : String) : Bytes :=
  text.toUTF8.data.toList

/-- The text whose UTF-8 form is given, when there is one. -/
def ofUtf8? (bytes : Bytes) : Option String :=
  String.fromUTF8? ⟨bytes.toArray⟩

/-- Distinct texts have distinct UTF-8 forms. -/
theorem utf8_injective {first second : String}
    (same : utf8 first = utf8 second) : first = second := by
  apply String.toByteArray_inj.1
  exact ByteArray.ext (Array.toList_inj.1 same)

@[simp]
theorem utf8_inj {first second : String} :
    utf8 first = utf8 second ↔ first = second :=
  ⟨utf8_injective, congrArg utf8⟩

/-- Reading succeeds exactly on the UTF-8 form of the returned text. -/
theorem ofUtf8?_eq_some_iff {bytes : Bytes} {text : String} :
    ofUtf8? bytes = some text ↔ bytes = utf8 text := by
  unfold ofUtf8? String.fromUTF8?
  constructor
  · intro read
    split at read
    · cases read
      simp [utf8, String.fromUTF8]
    · contradiction
  · rintro rfl
    have restored : (⟨(utf8 text).toArray⟩ : ByteArray) = text.toByteArray := by
      simp [utf8]
    rw [restored, dif_pos text.isValidUTF8]
    rfl

@[simp]
theorem ofUtf8?_utf8 (text : String) : ofUtf8? (utf8 text) = some text :=
  ofUtf8?_eq_some_iff.2 rfl

@[simp]
theorem utf8_append (first second : String) :
    utf8 (first ++ second) = utf8 first ++ utf8 second := by
  simp [utf8]

@[simp]
theorem utf8_empty : utf8 "" = [] :=
  rfl

/-- The order of two texts by the bytes of their UTF-8 forms. -/
def byteOrder (first second : String) : Ordering :=
  compareOn utf8 first second

instance : Std.TransCmp byteOrder :=
  inferInstanceAs (Std.TransCmp (compareOn utf8))

instance : Std.LawfulEqCmp byteOrder where
  eq_of_compare same := utf8_injective (Std.LawfulEqCmp.eq_of_compare same)

end Text

end Switchboard
