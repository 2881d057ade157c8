import Switchboard.Text.Ascii

/-!
# Cutting UTF-8

The UTF-8 form of a text is the forms of its characters, one after the other.
The first byte of a character is told apart from all others, so bytes can be
cut where a character begins: both parts are UTF-8 if the whole is.
-/

namespace Switchboard.Text

variable {bytes earlier later : Bytes}

/-- The bytes are the UTF-8 form of a text. -/
def IsUtf8 (bytes : Bytes) : Prop :=
  ∃ text, bytes = utf8 text

theorem isUtf8_utf8 (text : String) : IsUtf8 (utf8 text) :=
  ⟨text, rfl⟩

theorem isSome_ofUtf8?_iff : (ofUtf8? bytes).isSome = true ↔ IsUtf8 bytes := by
  rw [Option.isSome_iff_exists]
  exact exists_congr fun _ => ofUtf8?_eq_some_iff

/-! ## Characters -/

theorem utf8_ofList (characters : List Char) :
    utf8 (String.ofList characters) = characters.flatMap String.utf8EncodeChar := by
  simp [utf8, List.utf8Encode]

theorem utf8_singleton (character : Char) :
    utf8 (String.singleton character) = String.utf8EncodeChar character := by
  rw [String.singleton_eq_ofList, utf8_ofList, List.flatMap_singleton]

theorem utf8_eq_flatMap (text : String) :
    utf8 text = text.toList.flatMap String.utf8EncodeChar := by
  rw [← utf8_ofList, String.ofList_toList]

/-- No form of a character begins with the form of another. -/
theorem utf8EncodeChar_append_inj {first second : Char} {rest other : Bytes}
    (same : String.utf8EncodeChar first ++ rest = String.utf8EncodeChar second ++ other) :
    first = second ∧ rest = other := by
  have decoded : ∀ (character : Char) (bytes : Bytes),
      (String.utf8EncodeChar character ++ bytes).toByteArray.utf8DecodeChar? 0 =
        some character := by
    intro character bytes
    rw [List.toByteArray_append, ByteArray.utf8DecodeChar?_utf8EncodeChar_append]
  have alike : first = second := by
    have read := decoded first rest
    rw [same, decoded second other] at read
    exact (Option.some.inj read).symm
  subst alike
  exact ⟨rfl, List.append_cancel_left same⟩

/-- A basic character is a byte of its own. -/
theorem utf8EncodeChar_ofUInt8 {byte : UInt8} (basic : byte < 0x80) :
    String.utf8EncodeChar (Char.ofUInt8 byte) = [byte] := by
  have single : (Char.ofUInt8 byte).utf8Size = 1 := by
    rw [Char.utf8Size_eq_one_iff, UInt32.le_iff_toNat_le]
    exact Nat.le_of_lt_succ (UInt8.lt_iff_toNat_lt.mp basic)
  rw [String.utf8EncodeChar_eq_singleton single]
  exact congrArg (fun value => [value]) (UInt8.toUInt8_toUInt32 byte)

/-! ## Where characters begin -/

/-- The bytes do not begin in the middle of a character. -/
def BeginsCharacter (bytes : Bytes) : Prop :=
  ∀ byte ∈ bytes.head?, byte.IsUTF8FirstByte

theorem isUTF8FirstByte_of_lt {byte : UInt8} (basic : byte < 0x80) : byte.IsUTF8FirstByte := by
  have low : ∀ value < 0x80, (UInt8.ofNat value).IsUTF8FirstByte := by decide
  rw [← UInt8.ofNat_toNat (x := byte)]
  exact low byte.toNat (UInt8.lt_iff_toNat_lt.mp basic)

theorem beginsCharacter_cons_of_lt {byte : UInt8} {rest : Bytes} (basic : byte < 0x80) :
    BeginsCharacter (byte :: rest) := by
  intro first isFirst
  cases isFirst
  exact isUTF8FirstByte_of_lt basic

/-- The form of a character is a first byte and others that are none. -/
theorem utf8EncodeChar_eq_cons (character : Char) :
    ∃ first rest, String.utf8EncodeChar character = first :: rest ∧ first.IsUTF8FirstByte ∧
      ∀ byte ∈ rest, ¬byte.IsUTF8FirstByte := by
  cases form : String.utf8EncodeChar character with
  | nil => exact absurd form String.utf8EncodeChar_ne_nil
  | cons first rest =>
      refine ⟨first, rest, rfl, ?_, ?_⟩
      · have begins := UInt8.isUTF8FirstByte_getElem_zero_utf8EncodeChar (c := character)
        simpa only [form, List.getElem_cons_zero] using begins
      · intro byte listed isFirst
        obtain ⟨place, inside, rfl⟩ := List.getElem_of_mem listed
        have bound : place + 1 < (String.utf8EncodeChar character).length := by
          rw [form, List.length_cons]
          omega
        have begins : (String.utf8EncodeChar character)[place + 1].IsUTF8FirstByte := by
          simpa only [form, List.getElem_cons_succ] using isFirst
        exact absurd (UInt8.isUTF8FirstByte_getElem_utf8EncodeChar.mp begins) (Nat.succ_ne_zero _)

/-- A basic byte occurs only in the form of its own character. -/
theorem eq_ofUInt8_of_mem_utf8EncodeChar {character : Char} {byte : UInt8}
    (listed : byte ∈ String.utf8EncodeChar character) (basic : byte < 0x80) :
    character = Char.ofUInt8 byte := by
  obtain ⟨first, rest, form, _, inner⟩ := utf8EncodeChar_eq_cons character
  rw [form, List.mem_cons] at listed
  rcases listed with rfl | later
  · have same : String.utf8EncodeChar character ++ [] =
        String.utf8EncodeChar (Char.ofUInt8 byte) ++ rest := by
      rw [form, utf8EncodeChar_ofUInt8 basic, List.append_nil, List.singleton_append]
    exact (utf8EncodeChar_append_inj same).1
  · exact absurd (isUTF8FirstByte_of_lt basic) (inner byte later)

theorem IsUtf8.append (isEarlier : IsUtf8 earlier) (isLater : IsUtf8 later) :
    IsUtf8 (earlier ++ later) := by
  rcases isEarlier with ⟨first, rfl⟩
  rcases isLater with ⟨second, rfl⟩
  exact ⟨first ++ second, (utf8_append first second).symm⟩

/-- UTF-8 that is cut where a character begins leaves UTF-8 on both sides. -/
theorem isUtf8_append_iff (begins : BeginsCharacter later) :
    IsUtf8 (earlier ++ later) ↔ IsUtf8 earlier ∧ IsUtf8 later := by
  constructor
  · rintro ⟨text, whole⟩
    rw [utf8_eq_flatMap] at whole
    generalize text.toList = characters at whole
    induction characters generalizing earlier with
    | nil =>
        obtain ⟨rfl, rfl⟩ := List.append_eq_nil_iff.mp whole
        exact ⟨isUtf8_utf8 "", isUtf8_utf8 ""⟩
    | cons character rest ih =>
        cases earlier with
        | nil =>
            refine ⟨isUtf8_utf8 "", String.ofList (character :: rest), ?_⟩
            rw [utf8_ofList, ← whole, List.nil_append]
        | cons byte earlier =>
            obtain ⟨first, tail, form, _, inner⟩ := utf8EncodeChar_eq_cons character
            rw [List.flatMap_cons, form, List.cons_append, List.cons_append] at whole
            obtain ⟨rfl, remaining⟩ := List.cons.inj whole
            have isFirst : IsUtf8 (byte :: tail) :=
              ⟨String.singleton character, by rw [utf8_singleton, form]⟩
            rcases List.append_eq_append_iff.mp remaining with
              ⟨between, rfl, rfl⟩ | ⟨between, rfl, suffix⟩
            · -- The cut lies in the form of the first character, and so at its end.
              cases between with
              | nil =>
                  rw [List.append_nil] at isFirst
                  exact ⟨isFirst, String.ofList rest, (utf8_ofList rest).symm⟩
              | cons middle between => exact absurd (begins middle rfl) (inner middle (by simp))
            · obtain ⟨isEarlier, isLater⟩ := ih suffix.symm
              exact ⟨isFirst.append isEarlier, isLater⟩
  · rintro ⟨isEarlier, isLater⟩
    exact isEarlier.append isLater

theorem isUtf8_of_lt (basic : ∀ byte ∈ bytes, byte < 0x80) : IsUtf8 bytes := by
  induction bytes with
  | nil => exact isUtf8_utf8 ""
  | cons byte rest ih =>
      rw [List.forall_mem_cons] at basic
      have isFirst : IsUtf8 [byte] :=
        ⟨String.singleton (Char.ofUInt8 byte), by
          rw [utf8_singleton, utf8EncodeChar_ofUInt8 basic.1]⟩
      exact isFirst.append (ih basic.2)

/-- A basic character is cut off at either end. -/
theorem isUtf8_cons_iff {byte : UInt8} (basic : byte < 0x80) :
    IsUtf8 (byte :: bytes) ↔ IsUtf8 bytes := by
  have single : IsUtf8 [byte] := isUtf8_of_lt (by simpa using basic)
  constructor
  · rintro ⟨text, whole⟩
    rw [utf8_eq_flatMap] at whole
    cases form : text.toList with
    | nil => simp [form] at whole
    | cons character rest =>
        obtain ⟨first, later, spelled, _, _⟩ := utf8EncodeChar_eq_cons character
        rw [form, List.flatMap_cons] at whole
        have same : byte = first := by
          rw [spelled] at whole
          exact (List.cons.inj whole).1
        have isFirst : character = Char.ofUInt8 byte :=
          eq_ofUInt8_of_mem_utf8EncodeChar (by simp [spelled, same]) basic
        rw [isFirst, utf8EncodeChar_ofUInt8 basic, List.singleton_append] at whole
        exact ⟨String.ofList rest, by rw [utf8_ofList, (List.cons.inj whole).2]⟩
  · exact single.append

theorem isUtf8_concat_iff {byte : UInt8} (basic : byte < 0x80) :
    IsUtf8 (bytes ++ [byte]) ↔ IsUtf8 bytes := by
  rw [isUtf8_append_iff (beginsCharacter_cons_of_lt basic)]
  exact and_iff_left (isUtf8_of_lt (by simpa using basic))

end Switchboard.Text
