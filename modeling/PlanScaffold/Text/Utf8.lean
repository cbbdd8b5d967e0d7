/-
  PlanScaffold/Text/Utf8.lean
  ===========================
  **Texts as bytes.**

  Files and the input stream hold bytes; texts are exchanged with them in UTF-8.
  `decode?` inverts `encode` and accepts nothing else (`decode?_eq_some_iff`).

  A text is encoded character by character.  The byte of an ASCII character stands for that
  character wherever it occurs, because all bytes of longer forms are above it.  So bytes may be cut
  at such a byte whether or not they are the form of a text.
-/
namespace PlanScaffold

abbrev Bytes := List UInt8

namespace Utf8

def encode (text : String) : Bytes := text.toUTF8.data.toList

/-- The text whose UTF-8 form the bytes are, if there is one. -/
def decode? (bytes : Bytes) : Option String := String.fromUTF8? ⟨bytes.toArray⟩

/-- Decoding accepts exactly what encoding produces. -/
theorem decode?_eq_some_iff {bytes : Bytes} {text : String} :
    decode? bytes = some text ↔ bytes = encode text := by
  unfold decode? encode String.fromUTF8?
  constructor
  · intro hdecode
    split at hdecode
    · next hvalid =>
      cases hdecode
      simp [String.fromUTF8, String.toUTF8]
    · cases hdecode
  · rintro rfl
    have hsame : (⟨(text.toUTF8.data.toList).toArray⟩ : ByteArray) = text.toUTF8 := by simp
    rw [hsame]
    simp [String.fromUTF8, String.toUTF8, text.isValidUTF8]

theorem decode?_encode (text : String) : decode? (encode text) = some text :=
  decode?_eq_some_iff.mpr rfl

theorem length_encode (text : String) : (encode text).length = text.utf8ByteSize := rfl

/-! ### Character by character -/

theorem encode_eq_flatMap (text : String) :
    encode text = text.toList.flatMap String.utf8EncodeChar := by
  have hbytes : text.toUTF8 = (text.toList.flatMap String.utf8EncodeChar).toByteArray := by
    rw [String.toUTF8_eq_toByteArray, ← String.utf8Encode_toList]
    rfl
  rw [encode, hbytes]
  simp

theorem encode_append (first second : String) :
    encode (first ++ second) = encode first ++ encode second := by
  rw [encode_eq_flatMap, encode_eq_flatMap, encode_eq_flatMap, String.toList_append,
    List.flatMap_append]

theorem encode_eq_nil_iff {text : String} : encode text = [] ↔ text = "" := by
  rw [← List.length_eq_zero_iff, length_encode, String.utf8ByteSize_eq_zero_iff]

/-- The byte of an ASCII character occurs in the form of no other character. -/
theorem mem_utf8EncodeChar_iff {a : Char} (ha : a.toNat < 128) {c : Char} :
    UInt8.ofNat a.toNat ∈ String.utf8EncodeChar c ↔ c = a := by
  have hbyte : ∀ n, UInt8.ofNat a.toNat = UInt8.ofNat n ↔ a.toNat = n % 256 := by
    intro n
    rw [← UInt8.toNat_inj, UInt8.toNat_ofNat', UInt8.toNat_ofNat',
      Nat.mod_eq_of_lt (by omega : a.toNat < 2 ^ 8)]
  have hsame : c = a ↔ a.toNat = c.val.toNat := by
    rw [eq_comm, ← Char.toNat_inj]
    rfl
  rw [hsame]
  unfold String.utf8EncodeChar
  dsimp only
  split
  · rw [List.mem_singleton, hbyte]
    omega
  · split
    · simp only [List.mem_cons, List.not_mem_nil, or_false, hbyte]
      omega
    · split <;> simp only [List.mem_cons, List.not_mem_nil, or_false, hbyte] <;> omega

theorem mem_encode_iff {a : Char} (ha : a.toNat < 128) {text : String} :
    UInt8.ofNat a.toNat ∈ encode text ↔ a ∈ text.toList := by
  rw [encode_eq_flatMap, List.mem_flatMap]
  constructor
  · rintro ⟨c, hc, hbyte⟩
    rw [← (mem_utf8EncodeChar_iff ha).mp hbyte]
    exact hc
  · intro hmem
    exact ⟨a, hmem, (mem_utf8EncodeChar_iff ha).mpr rfl⟩

end Utf8

end PlanScaffold
