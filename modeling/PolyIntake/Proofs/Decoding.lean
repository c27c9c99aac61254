/-
This file shows that bytes that come all at once are decoded exactly when they
are UTF-8, which means that they are the bytes of some characters, one after
the other. The text is then those characters.

A character has one to four bytes. The bounds that the decoder sets for the
second byte are what leaves a single form for each character: without them a
value could be written in more bytes than it needs, be half of a surrogate, or
lie beyond the last character.
-/

import PolyIntake.Text.Utf8

namespace PolyIntake

namespace Utf8

/-- The bytes of a text. -/
def encode (text : List Char) : List UInt8 :=
  text.flatMap String.utf8EncodeChar

/-- Bytes are UTF-8 if they are those of a text. -/
def IsEncoded (bytes : List UInt8) : Prop :=
  ∃ text, bytes = encode text

@[simp]
theorem encode_nil : encode [] = [] :=
  rfl

@[simp]
theorem encode_cons (char : Char) (text : List Char) :
    encode (char :: text) = String.utf8EncodeChar char ++ encode text :=
  List.flatMap_cons

/-! ### Bytes of a character -/

/-- The bytes that the decoder takes for a character. -/
inductive Form : Char → List UInt8 → Prop where
  | one {first : UInt8} (small : first.toNat < 0x80) : Form (Char.ofNat first.toNat) [first]
  | two {first second : UInt8} (low : 0xC2 ≤ first.toNat) (high : first.toNat < 0xE0)
      (isSecond : isContinuation second = true) :
      Form (Char.ofNat (append (first.toNat % 0x20) second)) [first, second]
  | three {first second third : UInt8} (low : 0xE0 ≤ first.toNat) (high : first.toNat < 0xF0)
      (isSecond : mayFollow first second = true) (isThird : isContinuation third = true) :
      Form (Char.ofNat (append (append (first.toNat % 0x10) second) third)) [first, second, third]
  | four {first second third fourth : UInt8} (low : 0xF0 ≤ first.toNat)
      (high : first.toNat < 0xF5) (isSecond : mayFollow first second = true)
      (isThird : isContinuation third = true) (isFourth : isContinuation fourth = true) :
      Form (Char.ofNat (append (append (append (first.toNat % 8) second) third) fourth))
        [first, second, third, fourth]

theorem isContinuation_iff {byte : UInt8} :
    isContinuation byte = true ↔ 0x80 ≤ byte.toNat ∧ byte.toNat < 0xC0 := by
  simp [isContinuation, UInt8.le_iff_toNat_le, UInt8.lt_iff_toNat_lt]

/-- What a second byte has to be in front of further ones. -/
theorem mayFollow_iff {first second : UInt8} :
    mayFollow first second = true ↔ (0x80 ≤ second.toNat ∧ second.toNat < 0xC0) ∧
      (first.toNat = 0xE0 → 0xA0 ≤ second.toNat) ∧ (first.toNat = 0xED → second.toNat < 0xA0) ∧
      (first.toNat = 0xF0 → 0x90 ≤ second.toNat) ∧ (first.toNat = 0xF4 → second.toNat < 0x90) := by
  rw [← isContinuation_iff]
  unfold mayFollow
  simp only [Bool.and_eq_true, beq_iff_eq, ← UInt8.toNat_inj, UInt8.reduceToNat]
  refine and_congr_right fun _ => ?_
  repeat' split
  all_goals simp_all [UInt8.le_iff_toNat_le, UInt8.lt_iff_toNat_lt]

/-- The value of a character that is made of its number. -/
theorem toNat_ofNat_of_isValidChar {number : Nat} (valid : number.isValidChar) :
    (Char.ofNat number).val.toNat = number := by
  unfold Char.ofNat
  rw [dif_pos valid]
  rfl

/-- A byte is made of its number. -/
theorem ofNat_eq_of_toNat (byte : UInt8) {number : Nat} (same : number = byte.toNat) :
    UInt8.ofNat number = byte := by
  rw [same, UInt8.ofNat_toNat]

/-- What the decoder takes for a character are its bytes: the bounds of the bytes keep the values
apart that have forms of different lengths. -/
theorem Form.eq_utf8EncodeChar {char : Char} {bytes : List UInt8} (form : Form char bytes) :
    bytes = String.utf8EncodeChar char := by
  unfold String.utf8EncodeChar
  cases form with
  | @one first small =>
    rw [toNat_ofNat_of_isValidChar (.inl (by omega)), if_pos (by omega), UInt8.ofNat_toNat]
  | @two first second low high isSecond =>
    rw [isContinuation_iff] at isSecond
    unfold append
    rw [toNat_ofNat_of_isValidChar (.inl (by omega)), if_neg (by omega), if_pos (by omega),
      ofNat_eq_of_toNat first (by omega), ofNat_eq_of_toNat second (by omega)]
  | @three first second third low high isSecond isThird =>
    rw [mayFollow_iff] at isSecond
    rw [isContinuation_iff] at isThird
    unfold append
    rw [toNat_ofNat_of_isValidChar (by unfold Nat.isValidChar; omega), if_neg (by omega),
      if_neg (by omega), if_pos (by omega), ofNat_eq_of_toNat first (by omega),
      ofNat_eq_of_toNat second (by omega), ofNat_eq_of_toNat third (by omega)]
  | @four first second third fourth low high isSecond isThird isFourth =>
    rw [mayFollow_iff] at isSecond
    rw [isContinuation_iff] at isThird isFourth
    unfold append
    rw [toNat_ofNat_of_isValidChar (by unfold Nat.isValidChar; omega), if_neg (by omega),
      if_neg (by omega), if_neg (by omega), ofNat_eq_of_toNat first (by omega),
      ofNat_eq_of_toNat second (by omega), ofNat_eq_of_toNat third (by omega),
      ofNat_eq_of_toNat fourth (by omega)]

/-- The decoder takes the bytes of a character for it. -/
theorem form_utf8EncodeChar (char : Char) : Form char (String.utf8EncodeChar char) := by
  have valid : char.val.toNat < 0xD800 ∨ 0xDFFF < char.val.toNat ∧ char.val.toNat < 0x110000 :=
    char.valid
  have byteOf (number : Nat) (small : number < 0x100) : (UInt8.ofNat number).toNat = number :=
    UInt8.toNat_ofNat_of_lt' small
  have whole (number : Nat) (bytes : List UInt8) (form : Form (Char.ofNat number) bytes)
      (same : number = char.val.toNat) : Form char bytes := by
    rwa [same, Char.toNat_val, Char.ofNat_toNat] at form
  unfold String.utf8EncodeChar
  dsimp only
  have one := byteOf char.val.toNat
  have lead2 := byteOf (char.val.toNat / 64 % 0x20 + 0xC0) (by omega)
  have lead3 := byteOf (char.val.toNat / 4096 % 0x10 + 0xE0) (by omega)
  have lead4 := byteOf (char.val.toNat / 262144 % 0x08 + 0xF0) (by omega)
  have tail1 := byteOf (char.val.toNat % 0x40 + 0x80) (by omega)
  have tail2 := byteOf (char.val.toNat / 64 % 0x40 + 0x80) (by omega)
  have tail3 := byteOf (char.val.toNat / 4096 % 0x40 + 0x80) (by omega)
  split
  case isTrue small => exact whole _ _ (.one (by omega)) (by omega)
  case isFalse large =>
  split
  case isTrue small =>
    refine whole _ _ (.two (by omega) (by omega) ?_) (by unfold append; omega)
    rw [isContinuation_iff]
    omega
  case isFalse large =>
  split
  case isTrue small =>
    refine whole _ _ (.three (by omega) (by omega) ?_ ?_) (by unfold append; omega)
    · rw [mayFollow_iff]
      omega
    · rw [isContinuation_iff]
      omega
  case isFalse large =>
    refine whole _ _ (.four (by omega) (by omega) ?_ ?_ ?_) (by unfold append; omega)
    · rw [mayFollow_iff]
      omega
    · rw [isContinuation_iff]
      omega
    · rw [isContinuation_iff]
      omega

/-! ### One character -/

/-- What is decoded as a character is a form of it. -/
theorem form_of_sequence {first : UInt8} {rest : List UInt8} {char : Char} {length : Nat}
    (found : sequence first rest = .char char length) :
    ∃ form, Form char form ∧ first :: rest = form ++ rest.drop (length - 1) := by
  unfold sequence at found
  simp only [UInt8.lt_iff_toNat_lt, UInt8.reduceToNat] at found
  split at found
  case isTrue small =>
    cases found
    exact ⟨_, .one small, rfl⟩
  split at found
  case isTrue => cases found
  case isFalse low =>
  split at found
  case isTrue high =>
    split at found
    case h_1 => cases found
    case h_2 second rest =>
      split at found
      case isTrue isSecond =>
        cases found
        exact ⟨_, .two (by omega) high isSecond, rfl⟩
      case isFalse => cases found
  split at found
  case isTrue high =>
    split at found
    case h_1 => cases found
    case h_2 second rest =>
      split at found
      case isTrue isSecond =>
        split at found
        case h_1 => cases found
        case h_2 third rest =>
          split at found
          case isTrue isThird =>
            cases found
            exact ⟨_, .three (by omega) high isSecond isThird, rfl⟩
          case isFalse => cases found
      case isFalse => split at found <;> cases found
  split at found
  case isTrue high =>
    split at found
    case h_1 => cases found
    case h_2 second rest =>
      split at found
      case isTrue isSecond =>
        split at found
        case h_1 => cases found
        case h_2 third rest =>
          split at found
          case isTrue isThird =>
            split at found
            case h_1 => cases found
            case h_2 fourth rest =>
              split at found
              case isTrue isFourth =>
                cases found
                exact ⟨_, .four (by omega) high isSecond isThird isFourth, rfl⟩
              case isFalse => cases found
          case isFalse => cases found
      case isFalse => cases found
  case isFalse => cases found

/-- A form of a character is decoded as it, whatever follows. -/
theorem Form.sequence {char : Char} {bytes : List UInt8} (form : Form char bytes)
    (behind : List UInt8) : ∃ first rest, bytes ++ behind = first :: rest ∧
      sequence first rest = .char char bytes.length ∧ rest.drop (bytes.length - 1) = behind := by
  cases form with
  | one small =>
    refine ⟨_, _, rfl, ?_, rfl⟩
    simp only [Utf8.sequence, UInt8.lt_iff_toNat_lt, UInt8.reduceToNat]
    rw [if_pos small]
    rfl
  | two low high isSecond =>
    refine ⟨_, _, rfl, ?_, rfl⟩
    simp only [Utf8.sequence, UInt8.lt_iff_toNat_lt, UInt8.reduceToNat]
    rw [if_neg (by omega), if_neg (by omega), if_pos high]
    exact if_pos isSecond
  | three low high isSecond isThird =>
    refine ⟨_, _, rfl, ?_, rfl⟩
    simp only [Utf8.sequence, UInt8.lt_iff_toNat_lt, UInt8.reduceToNat]
    rw [if_neg (by omega), if_neg (by omega), if_neg (by omega), if_pos high]
    exact (if_pos isSecond).trans (if_pos isThird)
  | four low high isSecond isThird isFourth =>
    refine ⟨_, _, rfl, ?_, rfl⟩
    simp only [Utf8.sequence, UInt8.lt_iff_toNat_lt, UInt8.reduceToNat]
    rw [if_neg (by omega), if_neg (by omega), if_neg (by omega), if_neg (by omega), if_pos high]
    exact (if_pos isSecond).trans ((if_pos isThird).trans (if_pos isFourth))

/-! ### Texts -/

/-- What is decoded are the bytes of its characters, behind those that are skipped and in front of
those that are left. -/
theorem eq_of_decodeFrom {position skip : Nat} {decoded text : List Char}
    {bytes carried : List UInt8}
    (accepted : decodeFrom position skip decoded bytes = .ok (text, carried)) :
    ∃ found, text = decoded.reverse ++ found ∧ bytes.drop skip = encode found ++ carried := by
  induction bytes generalizing position skip decoded with
  | nil =>
    cases accepted
    exact ⟨[], (List.append_nil _).symm, List.drop_nil⟩
  | cons first rest inductionHypothesis =>
    cases skip with
    | succ skip => exact inductionHypothesis accepted
    | zero =>
      simp only [decodeFrom] at accepted
      split at accepted
      case h_1 char length one =>
        obtain ⟨form, isForm, same⟩ := form_of_sequence one
        obtain ⟨found, rfl, behind⟩ := inductionHypothesis accepted
        refine ⟨char :: found, by simp, ?_⟩
        rw [List.drop_zero, same, behind, isForm.eq_utf8EncodeChar, encode_cons,
          List.append_assoc]
      case h_2 =>
        cases accepted
        exact ⟨[], (List.append_nil _).symm, rfl⟩
      case h_3 => cases accepted

/-- The bytes of characters are decoded as them. -/
theorem decodeFrom_of_eq {position skip : Nat} {decoded found : List Char} {bytes : List UInt8}
    (same : bytes.drop skip = encode found) :
    decodeFrom position skip decoded bytes = .ok (decoded.reverse ++ found, []) := by
  have filled (char : Char) : String.utf8EncodeChar char ≠ [] := String.utf8EncodeChar_ne_nil
  induction bytes generalizing position skip decoded found with
  | nil =>
    cases found with
    | nil => simp [decodeFrom]
    | cons char found => simp [filled] at same
  | cons first rest inductionHypothesis =>
    cases skip with
    | succ skip => exact inductionHypothesis same
    | zero =>
      cases found with
      | nil => cases same
      | cons char found =>
        obtain ⟨first', rest', whole, one, behind⟩ :=
          (form_utf8EncodeChar char).sequence (encode found)
        rw [List.drop_zero, encode_cons, whole] at same
        cases same
        simp only [decodeFrom, one]
        rw [inductionHypothesis behind]
        simp

/-- Bytes are decoded as a text exactly if they are the bytes of that text. -/
theorem decodeAll_eq_ok_iff {bytes : List UInt8} {text : List Char} :
    decodeAll bytes = .ok text ↔ bytes = encode text := by
  constructor
  · intro accepted
    unfold decodeAll at accepted
    split at accepted
    case h_1 => cases accepted
    case h_2 decoded =>
      cases accepted
      obtain ⟨found, rfl, same⟩ := eq_of_decodeFrom decoded
      rw [List.append_nil] at same
      exact same
    case h_3 => cases accepted
  · rintro rfl
    unfold decodeAll decode
    rw [decodeFrom_of_eq (show (encode text).drop 0 = encode text from rfl)]
    rfl

/-- Bytes are those of one text at most. -/
theorem encode_injective : Function.Injective encode := by
  intro text text' same
  have decoded := decodeAll_eq_ok_iff.mpr same
  rw [decodeAll_eq_ok_iff.mpr rfl] at decoded
  exact Except.ok.inj decoded

/-- Bytes that are not UTF-8 have a fault. -/
theorem exists_fault {bytes : List UInt8} (foreign : ¬IsEncoded bytes) :
    ∃ fault, decodeAll bytes = .error fault := by
  cases decoded : decodeAll bytes with
  | ok text => exact absurd ⟨text, decodeAll_eq_ok_iff.mp decoded⟩ foreign
  | error fault => exact ⟨fault, rfl⟩

end Utf8

end PolyIntake
