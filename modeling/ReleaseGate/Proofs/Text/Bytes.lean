/-
# Proofs.Text.Bytes — the bytes of a text

A text is stored as the bytes of its characters, one after the other. A character
of ASCII is the one byte with its number (`encode_of_ascii`), and the bytes of any other
character are none of ASCII (`high_of_mem_encode`), so a byte of ASCII is a character.
-/
import ReleaseGate.Text.Hex

namespace ReleaseGate.Text

set_option autoImplicit false

/-- Characters are in the order of their numbers. -/
theorem le_iff_toNat {c d : Char} : c ≤ d ↔ c.toNat ≤ d.toNat := Iff.rfl

/-- The bytes of characters, one after the other. -/
def bytesOf (text : List Char) : List UInt8 := text.flatMap String.utf8EncodeChar

theorem bytes_ofList (text : List Char) :
    (String.ofList text).toUTF8.data.toList = bytesOf text := by
  simp [bytesOf, List.utf8Encode]

theorem utf8ByteSize_eq (text : String) : text.utf8ByteSize = (bytesOf text.toList).length := by
  rw [← bytes_ofList, String.ofList_toList]
  rfl

theorem encode_of_ascii {c : Char} (ascii : c.toNat < 128) :
    String.utf8EncodeChar c = [UInt8.ofNat c.toNat] := by
  have small : c.val.toNat ≤ 127 := Nat.le_of_lt_succ ascii
  rw [String.utf8EncodeChar, if_pos small]
  rfl

/-- The bytes of a character beyond ASCII are beyond ASCII as well. -/
theorem high_of_mem_encode {c : Char} (beyond : 128 ≤ c.toNat) {byte : UInt8}
    (member : byte ∈ String.utf8EncodeChar c) : 128 ≤ byte.toNat := by
  have large : ¬ c.val.toNat ≤ 127 := Nat.not_le.2 beyond
  simp only [String.utf8EncodeChar, large, if_false] at member
  split at member
  · simp only [List.mem_cons, List.not_mem_nil, or_false] at member
    rcases member with rfl | rfl <;> simp <;> omega
  split at member
  · simp only [List.mem_cons, List.not_mem_nil, or_false] at member
    rcases member with rfl | rfl | rfl <;> simp <;> omega
  · simp only [List.mem_cons, List.not_mem_nil, or_false] at member
    rcases member with rfl | rfl | rfl | rfl <;> simp <;> omega

/-- A text of ASCII has one byte for each character. -/
theorem bytesOf_of_ascii {text : List Char} (ascii : ∀ c ∈ text, c.toNat < 128) :
    bytesOf text = text.map fun c => UInt8.ofNat c.toNat := by
  induction text with
  | nil => rfl
  | cons c rest ih =>
      rw [List.forall_mem_cons] at ascii
      rw [bytesOf, List.flatMap_cons, encode_of_ascii ascii.1, List.map_cons, ← ih ascii.2]
      rfl

theorem bytesOf_append (front back : List Char) :
    bytesOf (front ++ back) = bytesOf front ++ bytesOf back := List.flatMap_append

theorem bytesOf_cons_of_ascii {c : Char} (ascii : c.toNat < 128) (rest : List Char) :
    bytesOf (c :: rest) = UInt8.ofNat c.toNat :: bytesOf rest := by
  rw [bytesOf, List.flatMap_cons, encode_of_ascii ascii]
  rfl

theorem ofNat_toNat_inj {c d : Char} (ascii : c.toNat < 128) (ascii' : d.toNat < 128) :
    UInt8.ofNat c.toNat = UInt8.ofNat d.toNat ↔ c = d := by
  rw [← UInt8.toNat_inj, UInt8.toNat_ofNat', UInt8.toNat_ofNat', ← Char.toNat_inj]
  omega

/-- The bytes of a text begin with those of ASCII characters only if the text begins
with these. -/
theorem bytesOf_prefix_iff {front text : List Char} (ascii : ∀ c ∈ front, c.toNat < 128) :
    bytesOf front <+: bytesOf text ↔ front <+: text := by
  induction front generalizing text with
  | nil => simp [bytesOf]
  | cons c front ih =>
      rw [List.forall_mem_cons] at ascii
      rw [bytesOf_cons_of_ascii ascii.1]
      cases text with
      | nil => simp [bytesOf]
      | cons d rest =>
          rw [List.cons_prefix_cons]
          by_cases ascii' : d.toNat < 128
          · rw [bytesOf_cons_of_ascii ascii', List.cons_prefix_cons, ih ascii.2,
              ofNat_toNat_inj ascii.1 ascii']
          · obtain ⟨byte, more, shape⟩ :=
              List.exists_cons_of_ne_nil (String.utf8EncodeChar_ne_nil (c := d))
            have high : 128 ≤ byte.toNat :=
              high_of_mem_encode (Nat.not_lt.1 ascii') (shape ▸ List.mem_cons_self)
            have apart : bytesOf (d :: rest) = byte :: (more ++ bytesOf rest) := by
              simp [bytesOf, shape]
            rw [apart, List.cons_prefix_cons]
            constructor
            · rintro ⟨rfl, -⟩
              rw [UInt8.toNat_ofNat'] at high
              omega
            · rintro ⟨rfl, -⟩
              exact absurd ascii.1 ascii'

end ReleaseGate.Text
