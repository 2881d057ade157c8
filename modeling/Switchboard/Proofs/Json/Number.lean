import Mathlib.Data.List.TakeWhile
import Switchboard.Json.Token

/-!
# The grammar of numbers

A number is an integer with an optional fraction and an optional exponent. It
is read as a whole from in front of whatever does not continue it, and what is
read is a number.
-/

namespace Switchboard.Json

open Switchboard.Text

variable {bytes rest digits spelling : Bytes}

/-! ## The grammar -/

/-- A run of one or more digits. -/
def IsDigits (bytes : Bytes) : Prop :=
  bytes ≠ [] ∧ ∀ byte ∈ bytes, Ascii.isDigit byte = true

/-- The integer part of a number, which has no leading zero. -/
inductive IsIntegerPart : Bytes → Prop
  | zero : IsIntegerPart [Ascii.zero]
  | digits {first : UInt8} {later : Bytes} (isDigits : IsDigits (first :: later))
      (nonzero : first ≠ Ascii.zero) : IsIntegerPart (first :: later)

/-- The fraction of a number. -/
inductive IsFractionPart : Bytes → Prop
  | absent : IsFractionPart []
  | present {digits : Bytes} (isDigits : IsDigits digits) :
      IsFractionPart (Ascii.point :: digits)

/-- One of some signs, or none. -/
def IsSign (signs : List UInt8) (sign : Bytes) : Prop :=
  sign = [] ∨ ∃ byte ∈ signs, sign = [byte]

/-- The exponent of a number. -/
inductive IsExponentPart : Bytes → Prop
  | absent : IsExponentPart []
  | present {letter : UInt8} {sign digits : Bytes}
      (isLetter : letter = Ascii.lowerE ∨ letter = Ascii.upperE)
      (isSign : IsSign [Ascii.plus, Ascii.minus] sign) (isDigits : IsDigits digits) :
      IsExponentPart (letter :: sign ++ digits)

/-- The spelling of a number. -/
inductive IsNumber : Bytes → Prop
  | parts {sign integer fraction exponent : Bytes} (isSign : IsSign [Ascii.minus] sign)
      (isInteger : IsIntegerPart integer) (isFraction : IsFractionPart fraction)
      (isExponent : IsExponentPart exponent) :
      IsNumber (sign ++ integer ++ fraction ++ exponent)

/-! ## What may follow -/

/-- Bytes that may not follow a fraction, because they would belong to it. -/
def continuesFraction (byte : UInt8) : Bool :=
  Ascii.isDigit byte || byte = Ascii.point

/-- Bytes that may not follow a number, because they would belong to it. -/
def continuesNumber (byte : UInt8) : Bool :=
  continuesFraction byte || byte = Ascii.lowerE || byte = Ascii.upperE

/-- The bytes begin with none of a class. -/
def BeginsWithout (continues : UInt8 → Bool) (bytes : Bytes) : Prop :=
  ∀ byte ∈ bytes.head?, continues byte = false

theorem BeginsWithout.mono {continues other : UInt8 → Bool}
    (without : BeginsWithout continues bytes)
    (weaker : ∀ byte, continues byte = false → other byte = false) :
    BeginsWithout other bytes :=
  fun byte isFirst => weaker byte (without byte isFirst)

theorem BeginsWithout.cons {continues : UInt8 → Bool} {byte : UInt8}
    (different : continues byte = false) : BeginsWithout continues (byte :: rest) := by
  intro first isFirst
  cases isFirst
  exact different

theorem BeginsWithout.fraction (ends : BeginsWithout continuesNumber bytes) :
    BeginsWithout continuesFraction bytes :=
  ends.mono fun byte different => by simp_all [continuesNumber]

theorem BeginsWithout.digit (ends : BeginsWithout continuesFraction bytes) :
    BeginsWithout Ascii.isDigit bytes :=
  ends.mono fun byte different => by simp_all [continuesFraction]

/-! ## Digits and integer parts -/

theorem isDigits_of_digits? (read : digits? bytes = some (digits, rest)) : IsDigits digits := by
  obtain ⟨_, nonempty⟩ := digits?_append read
  rw [digits?] at read
  split at read
  · contradiction
  · cases read
    exact ⟨nonempty, List.all_eq_true.mp List.all_takeWhile⟩

theorem digits?_of_isDigits (isDigits : IsDigits digits)
    (ends : BeginsWithout Ascii.isDigit rest) :
    digits? (digits ++ rest) = some (digits, rest) := by
  have stops : rest.takeWhile Ascii.isDigit = [] ∧ rest.dropWhile Ascii.isDigit = rest := by
    cases rest with
    | nil => exact ⟨rfl, rfl⟩
    | cons byte rest => simp [ends byte rfl]
  rw [digits?, List.takeWhile_append_of_pos isDigits.2, List.dropWhile_append_of_pos isDigits.2,
    stops.1, stops.2, List.append_nil, if_neg isDigits.1]

theorem isIntegerPart_of_integerPart? {integer : Bytes}
    (read : integerPart? bytes = some (integer, rest)) : IsIntegerPart integer := by
  unfold integerPart? at read
  split at read
  · contradiction
  · rename_i byte tail
    split at read
    · rename_i isZero
      cases read
      rw [isZero]
      exact .zero
    · rename_i nonzero
      have isDigits := isDigits_of_digits? read
      have whole := (digits?_append read).1
      cases integer with
      | nil => exact absurd rfl isDigits.1
      | cons first later =>
          rw [List.cons_append] at whole
          refine .digits isDigits ?_
          rwa [(List.cons.inj whole).1]

theorem integerPart?_of_isIntegerPart {integer : Bytes} (isInteger : IsIntegerPart integer)
    (ends : BeginsWithout Ascii.isDigit rest) :
    integerPart? (integer ++ rest) = some (integer, rest) := by
  cases isInteger with
  | zero => rfl
  | digits isDigits nonzero =>
      rw [List.cons_append, integerPart?, if_neg nonzero, ← List.cons_append]
      exact digits?_of_isDigits isDigits ends

/-! ## Fractions -/

theorem isFractionPart_of_fractionPart? {fraction : Bytes}
    (read : fractionPart? bytes = some (fraction, rest)) : IsFractionPart fraction := by
  unfold fractionPart? at read
  split at read
  · cases read
    exact .absent
  · split at read
    · rename_i isPoint
      obtain ⟨⟨digits, remaining⟩, readDigits, same⟩ := Option.map_eq_some_iff.mp read
      cases same
      rw [isPoint]
      exact .present (isDigits_of_digits? readDigits)
    · cases read
      exact .absent

theorem fractionPart?_of_isFractionPart {fraction : Bytes} (isFraction : IsFractionPart fraction)
    (ends : BeginsWithout continuesFraction rest) :
    fractionPart? (fraction ++ rest) = some (fraction, rest) := by
  cases isFraction with
  | absent =>
      cases rest with
      | nil => rfl
      | cons byte rest =>
          have notPoint : byte ≠ Ascii.point := by
            rintro rfl
            exact absurd (ends _ rfl) (by decide)
          rw [List.nil_append, fractionPart?, if_neg notPoint]
  | present isDigits =>
      rw [List.cons_append, fractionPart?, if_pos rfl, digits?_of_isDigits isDigits ends.digit]
      rfl

/-! ## Signs and exponents -/

theorem isSign_signPart (signs : List UInt8) (bytes : Bytes) :
    IsSign signs (signPart signs bytes).1 := by
  unfold signPart
  split
  · exact .inl rfl
  · split
    · rename_i listed
      exact .inr ⟨_, listed, rfl⟩
    · exact .inl rfl

theorem signPart_of_isSign {signs : List UInt8} {sign : Bytes} (isSign : IsSign signs sign)
    (unsigned : ∀ byte ∈ rest.head?, byte ∉ signs) :
    signPart signs (sign ++ rest) = (sign, rest) := by
  rcases isSign with rfl | ⟨byte, listed, rfl⟩
  · cases rest with
    | nil => rfl
    | cons byte rest => rw [List.nil_append, signPart, if_neg (unsigned byte rfl)]
  · rw [List.singleton_append, signPart, if_pos listed]

theorem isExponentPart_of_exponentPart? {exponent : Bytes}
    (read : exponentPart? bytes = some (exponent, rest)) : IsExponentPart exponent := by
  unfold exponentPart? at read
  split at read
  · cases read
    exact .absent
  · rename_i byte tail
    split at read
    · rename_i isLetter
      obtain ⟨⟨digits, remaining⟩, readDigits, same⟩ := Option.map_eq_some_iff.mp read
      cases same
      exact .present isLetter (isSign_signPart _ tail) (isDigits_of_digits? readDigits)
    · cases read
      exact .absent

/-- Digits begin neither with a sign nor with anything else that is no digit. -/
theorem IsDigits.forall_mem_head? (isDigits : IsDigits digits) :
    ∀ byte ∈ (digits ++ rest).head?, Ascii.isDigit byte = true := by
  cases digits with
  | nil => exact absurd rfl isDigits.1
  | cons first later =>
      intro byte isFirst
      cases isFirst
      exact isDigits.2 first List.mem_cons_self

theorem exponentPart?_of_isExponentPart {exponent : Bytes} (isExponent : IsExponentPart exponent)
    (ends : BeginsWithout continuesNumber rest) :
    exponentPart? (exponent ++ rest) = some (exponent, rest) := by
  cases isExponent with
  | absent =>
      cases rest with
      | nil => rfl
      | cons byte rest =>
          have notLetter : ¬(byte = Ascii.lowerE ∨ byte = Ascii.upperE) := by
            rintro (rfl | rfl) <;> exact absurd (ends _ rfl) (by decide)
          rw [List.nil_append, exponentPart?, if_neg notLetter]
  | @present letter sign digits isLetter isSign isDigits =>
      have unsigned : ∀ byte ∈ (digits ++ rest).head?, byte ∉ [Ascii.plus, Ascii.minus] := by
        intro byte isFirst isSign
        have isDigit := isDigits.forall_mem_head? byte isFirst
        rw [List.mem_cons, List.mem_singleton] at isSign
        rcases isSign with rfl | rfl <;> exact absurd isDigit (by decide)
      rw [List.cons_append, List.cons_append, exponentPart?, if_pos isLetter, List.append_assoc,
        signPart_of_isSign isSign unsigned]
      dsimp only
      rw [digits?_of_isDigits isDigits ends.fraction.digit]
      rfl

/-! ## Numbers -/

theorem isNumber_of_number? (read : number? bytes = some (spelling, rest)) :
    IsNumber spelling := by
  unfold number? at read
  simp only [Option.bind_eq_bind, Option.bind_eq_some_iff, Option.some.injEq,
    Prod.mk.injEq, Prod.exists] at read
  obtain ⟨integer, afterInteger, integerRead, fraction, afterFraction, fractionRead,
    exponent, afterExponent, exponentRead, rfl, rfl⟩ := read
  exact .parts (isSign_signPart _ bytes) (isIntegerPart_of_integerPart? integerRead)
    (isFractionPart_of_fractionPart? fractionRead) (isExponentPart_of_exponentPart? exponentRead)

theorem IsExponentPart.beginsWithout {exponent : Bytes} (isExponent : IsExponentPart exponent)
    (ends : BeginsWithout continuesNumber rest) :
    BeginsWithout continuesFraction (exponent ++ rest) := by
  cases isExponent with
  | absent => exact ends.fraction
  | present isLetter => rcases isLetter with rfl | rfl <;> exact .cons (by decide)

theorem IsFractionPart.beginsWithout {fraction : Bytes} (isFraction : IsFractionPart fraction)
    (ends : BeginsWithout continuesFraction rest) :
    BeginsWithout Ascii.isDigit (fraction ++ rest) := by
  cases isFraction with
  | absent => exact ends.digit
  | present => exact .cons (by decide)

theorem IsIntegerPart.forall_mem_head? {integer : Bytes} (isInteger : IsIntegerPart integer) :
    ∀ byte ∈ (integer ++ rest).head?, Ascii.isDigit byte = true := by
  cases isInteger with
  | zero =>
      rintro byte ⟨rfl⟩
      decide
  | digits isDigits => exact isDigits.forall_mem_head?

/-- A number is read as a whole, if what follows does not continue it. -/
theorem number?_of_isNumber (isNumber : IsNumber spelling)
    (ends : BeginsWithout continuesNumber rest) :
    number? (spelling ++ rest) = some (spelling, rest) := by
  rcases isNumber with ⟨isSign, isInteger, isFraction, isExponent⟩
  rename_i sign integer fraction exponent
  have afterExponent := exponentPart?_of_isExponentPart isExponent ends
  have endsFraction := isExponent.beginsWithout ends
  have afterFraction := fractionPart?_of_isFractionPart isFraction endsFraction
  have afterInteger :=
    integerPart?_of_isIntegerPart isInteger (isFraction.beginsWithout endsFraction)
  have unsigned : ∀ byte ∈ (integer ++ (fraction ++ (exponent ++ rest))).head?,
      byte ∉ [Ascii.minus] := by
    intro byte isFirst isMinus
    have isDigit := isInteger.forall_mem_head? byte isFirst
    rw [List.mem_singleton] at isMinus
    subst isMinus
    exact absurd isDigit (by decide)
  have afterSign := signPart_of_isSign isSign unsigned
  simp only [List.append_assoc]
  simp [number?, afterSign, afterInteger, afterFraction, afterExponent]

/-- A number begins with a digit or with a minus sign. -/
theorem IsNumber.exists_cons (isNumber : IsNumber spelling) :
    ∃ first later, spelling = first :: later ∧
      (first = Ascii.minus ∨ Ascii.isDigit first = true) := by
  rcases isNumber with ⟨rfl | ⟨byte, listed, rfl⟩, isInteger, _, _⟩
  · cases isInteger with
    | zero => exact ⟨Ascii.zero, _, rfl, .inr (by decide)⟩
    | digits isDigits => exact ⟨_, _, rfl, .inr (isDigits.2 _ List.mem_cons_self)⟩
  · exact ⟨byte, _, rfl, .inl (List.mem_singleton.mp listed)⟩

/-! ## Bytes of a number -/

theorem lt_of_isDigit {byte : UInt8} (isDigit : Ascii.isDigit byte = true) : byte < 0x80 := by
  rw [Ascii.isDigit, Bool.and_eq_true, decide_eq_true_eq, decide_eq_true_eq] at isDigit
  exact UInt8.lt_of_le_of_lt isDigit.2 (by decide)

theorem IsIntegerPart.forall_lt {integer : Bytes} (isInteger : IsIntegerPart integer) :
    ∀ byte ∈ integer, byte < 0x80 := by
  cases isInteger with
  | zero => simp [Ascii.zero]
  | digits isDigits => exact fun byte listed => lt_of_isDigit (isDigits.2 byte listed)

theorem IsFractionPart.forall_lt {fraction : Bytes} (isFraction : IsFractionPart fraction) :
    ∀ byte ∈ fraction, byte < 0x80 := by
  cases isFraction with
  | absent => simp
  | present isDigits =>
      rw [List.forall_mem_cons]
      exact ⟨by decide, fun byte listed => lt_of_isDigit (isDigits.2 byte listed)⟩

theorem IsSign.forall_lt {signs : List UInt8} {sign : Bytes} (isSign : IsSign signs sign)
    (basic : ∀ byte ∈ signs, byte < 0x80) : ∀ byte ∈ sign, byte < 0x80 := by
  rcases isSign with rfl | ⟨byte, listed, rfl⟩
  · simp
  · simpa using basic byte listed

theorem IsExponentPart.forall_lt {exponent : Bytes} (isExponent : IsExponentPart exponent) :
    ∀ byte ∈ exponent, byte < 0x80 := by
  cases isExponent with
  | absent => simp
  | present isLetter isSign isDigits =>
      rw [List.forall_mem_append, List.forall_mem_cons]
      refine ⟨⟨?_, isSign.forall_lt (by simp [Ascii.plus, Ascii.minus])⟩, fun byte listed =>
        lt_of_isDigit (isDigits.2 byte listed)⟩
      rcases isLetter with rfl | rfl <;> decide

theorem IsNumber.forall_lt (isNumber : IsNumber spelling) : ∀ byte ∈ spelling, byte < 0x80 := by
  rcases isNumber with ⟨isSign, isInteger, isFraction, isExponent⟩
  simp only [List.forall_mem_append]
  exact ⟨⟨⟨isSign.forall_lt (by simp [Ascii.minus]), isInteger.forall_lt⟩, isFraction.forall_lt⟩,
    isExponent.forall_lt⟩

end Switchboard.Json
