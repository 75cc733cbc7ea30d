import Mathlib.Data.String.Basic

/-!
# The order of texts and the order of their bytes

Texts are compared character by character.  Their bytes compare in the same
way: a longer encoding starts with a greater byte, and encodings of one length
have the leading bits of the code point first.
-/

namespace AsmListing

namespace Text

def bytes (text : String) : List UInt8 :=
  text.toUTF8.data.toList

/-! ## Encodings that keep the order -/

/-- An encoding of the numbers below a bound that starts with a byte in the
given range, and that keeps the order of the numbers whatever follows them. -/
structure OrderedEncoding (bound low high : Nat) (encode : Nat → List UInt8) : Prop where
  starts : ∀ number, ∃ byte rest, encode number = UInt8.ofNat byte :: rest ∧
    low ≤ byte ∧ byte < high
  increases : ∀ first second, first < second → second < bound → ∀ rest others,
    encode first ++ rest < encode second ++ others

/-- A first byte that carries a number below a modulus, moved by a mark. -/
def leadByte (modulus mark number : Nat) : List UInt8 :=
  [UInt8.ofNat (number % modulus + mark)]

/-- An encoding of all bits but six, followed by a byte with the last six. -/
def followed (encode : Nat → List UInt8) (number : Nat) : List UInt8 :=
  encode (number / 64) ++ [UInt8.ofNat (number % 64 + 128)]

theorem byte_lt {first second : Nat} (less : first < second) (small : second < 256) :
    UInt8.ofNat first < UInt8.ofNat second := by
  rw [UInt8.lt_iff_toNat_lt, UInt8.toNat_ofNat', UInt8.toNat_ofNat']
  omega

/-- The first bytes that differ decide. -/
theorem byte_cons_lt {first second : Nat} (less : first < second) (small : second < 256)
    (rest others : List UInt8) :
    UInt8.ofNat first :: rest < UInt8.ofNat second :: others :=
  List.cons_lt_cons_iff.mpr (.inl (byte_lt less small))

theorem leadByte_ordered {modulus mark : Nat} (positive : 0 < modulus)
    (small : modulus + mark ≤ 256) :
    OrderedEncoding modulus mark (modulus + mark) (leadByte modulus mark) where
  starts number := by
    have carried := Nat.mod_lt number positive
    exact ⟨number % modulus + mark, [], rfl, by omega, by omega⟩
  increases first second less bound rest others := by
    rw [leadByte, leadByte, Nat.mod_eq_of_lt (Nat.lt_trans less bound), Nat.mod_eq_of_lt bound]
    exact byte_cons_lt (by omega) (by omega) rest others

namespace OrderedEncoding

variable {bound low high : Nat} {encode : Nat → List UInt8}

/-- The last six bits only count among numbers that agree in all others. -/
theorem followed (ordered : OrderedEncoding bound low high encode) :
    OrderedEncoding (64 * bound) low high (followed encode) where
  starts number := by
    obtain ⟨byte, rest, start, inRange⟩ := ordered.starts (number / 64)
    exact ⟨byte, _, by rw [Text.followed, start, List.cons_append], inRange⟩
  increases first second less small rest others := by
    simp only [Text.followed, List.append_assoc]
    by_cases same : first / 64 = second / 64
    · rw [same]
      exact List.append_left_lt (byte_cons_lt (by omega) (by omega) rest others)
    · exact ordered.increases _ _ (by omega) (by omega) _ _

/-- Greater numbers can be encoded in another way, if that starts with greater
bytes. -/
theorem extend {small below above : Nat} {more : Nat → List UInt8}
    (ordered : OrderedEncoding small low below encode)
    (greater : OrderedEncoding bound above high more) (apart : below ≤ above)
    (bytes : high ≤ 256) :
    OrderedEncoding bound low high
      (fun number => if number < small then encode number else more number) where
  starts number := by
    obtain ⟨byte, rest, start, least, most⟩ := ordered.starts number
    obtain ⟨greaterByte, others, greaterStart, greaterLeast, greaterMost⟩ :=
      greater.starts number
    split
    · exact ⟨byte, rest, start, by omega, by omega⟩
    · exact ⟨greaterByte, others, greaterStart, by omega, by omega⟩
  increases first second less inside rest others := by
    by_cases secondSmall : second < small
    · rw [if_pos (Nat.lt_trans less secondSmall), if_pos secondSmall]
      exact ordered.increases first second less secondSmall rest others
    rw [if_neg secondSmall]
    by_cases firstSmall : first < small
    · rw [if_pos firstSmall]
      obtain ⟨byte, tail, start, _, most⟩ := ordered.starts first
      obtain ⟨greaterByte, greaterTail, greaterStart, least, _⟩ := greater.starts second
      rw [start, greaterStart]
      exact byte_cons_lt (by omega) (by omega) _ _
    · rw [if_neg firstSmall]
      exact greater.increases first second less inside rest others

end OrderedEncoding

/-! ## The encoding of characters -/

/-- The bytes of a code point: one to four of them. -/
def encodeCode (code : Nat) : List UInt8 :=
  if code < 128 then leadByte 128 0 code
  else if code < 64 * 32 then followed (leadByte 32 192) code
  else if code < 64 * (64 * 16) then followed (followed (leadByte 16 224)) code
  else followed (followed (followed (leadByte 8 240))) code

theorem encodeCode_ordered :
    OrderedEncoding (64 * (64 * (64 * 8))) 0 (8 + 240) encodeCode := by
  have one : OrderedEncoding 128 0 (128 + 0) (leadByte 128 0) :=
    leadByte_ordered (by omega) (by omega)
  have two : OrderedEncoding 32 192 (32 + 192) (leadByte 32 192) :=
    leadByte_ordered (by omega) (by omega)
  have three : OrderedEncoding 16 224 (16 + 224) (leadByte 16 224) :=
    leadByte_ordered (by omega) (by omega)
  have four : OrderedEncoding 8 240 (8 + 240) (leadByte 8 240) :=
    leadByte_ordered (by omega) (by omega)
  exact one.extend (two.followed.extend (three.followed.followed.extend
    four.followed.followed.followed (by omega) (by omega)) (by omega) (by omega))
    (by omega) (by omega)

theorem utf8EncodeChar_eq (character : Char) :
    String.utf8EncodeChar character = encodeCode character.val.toNat := by
  unfold String.utf8EncodeChar encodeCode
  generalize character.val.toNat = code
  simp only [followed, leadByte, Nat.div_div_eq_div_mul, List.cons_append, List.nil_append]
  by_cases one : code ≤ 127
  · rw [if_pos one, if_pos (by omega : code < 128), Nat.mod_eq_of_lt (by omega), Nat.add_zero]
  rw [if_neg one, if_neg (by omega : ¬ code < 128)]
  by_cases two : code ≤ 2047
  · rw [if_pos two, if_pos (by omega : code < 64 * 32)]
  rw [if_neg two, if_neg (by omega : ¬ code < 64 * 32)]
  by_cases three : code ≤ 65535
  · rw [if_pos three, if_pos (by omega : code < 64 * (64 * 16))]
  · rw [if_neg three, if_neg (by omega : ¬ code < 64 * (64 * 16))]

theorem utf8EncodeChar_append_lt {first second : Char} (less : first < second)
    (rest others : List UInt8) :
    String.utf8EncodeChar first ++ rest < String.utf8EncodeChar second ++ others := by
  have small : second.val.toNat < 64 * (64 * (64 * 8)) := by
    have valid : second.val.toNat.isValidChar := second.valid
    unfold Nat.isValidChar at valid
    omega
  rw [utf8EncodeChar_eq, utf8EncodeChar_eq]
  exact encodeCode_ordered.increases _ _ less small rest others

theorem bytes_eq (text : String) : bytes text = text.toList.flatMap String.utf8EncodeChar := by
  rw [bytes, String.toUTF8_eq_toByteArray, ← String.utf8Encode_toList, List.utf8Encode,
    List.toList_data_toByteArray]

/-- A text that comes before another one does so by its bytes. -/
theorem bytes_lt_bytes {first second : String} (less : first < second) :
    bytes first < bytes second := by
  rw [bytes_eq, bytes_eq]
  have characters : List.Lex (· < ·) first.toList second.toList := less
  clear less
  generalize first.toList = left at characters
  generalize second.toList = right at characters
  induction characters with
  | nil =>
      rename_i character rest
      have nonempty : String.utf8EncodeChar character ≠ [] := String.utf8EncodeChar_ne_nil
      obtain ⟨byte, others, start⟩ := List.exists_cons_of_ne_nil nonempty
      rw [List.flatMap_nil, List.flatMap_cons, start, List.cons_append]
      exact List.nil_lt_cons _ _
  | cons _ induction =>
      rw [List.flatMap_cons, List.flatMap_cons]
      exact List.append_left_lt induction
  | rel less =>
      rw [List.flatMap_cons, List.flatMap_cons]
      exact utf8EncodeChar_append_lt less _ _

end Text

end AsmListing
