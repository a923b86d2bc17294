import Mathlib

/-!
# The bytes of ASCII texts

* `toUTF8_eq` — the bytes of a text, character by character.
* `toUTF8_ascii`, `ascii_of_toUTF8` — a text is ASCII when its bytes are, and then they are its
  characters.
-/

set_option autoImplicit false

namespace Utf8

theorem toUTF8_eq (text : String) :
    text.toUTF8.data.toList = text.toList.flatMap String.utf8EncodeChar := by
  show text.toByteArray.data.toList = _
  rw [← String.utf8Encode_toList, List.utf8Encode, List.toList_data_toByteArray]

theorem encodeChar_ascii {c : Char} (h : c.toNat < 128) :
    String.utf8EncodeChar c = [UInt8.ofNat c.toNat] := by
  unfold String.utf8EncodeChar
  exact if_pos (Nat.le_of_lt_succ h)

/-- The first byte of a character that is not ASCII. -/
theorem exists_high {c : Char} (h : 128 ≤ c.toNat) :
    ∃ byte ∈ String.utf8EncodeChar c, 128 ≤ byte.toNat := by
  have hhigh : ∀ {v base : Nat} {rest : List UInt8}, 128 ≤ base → v + base < 256 →
      ∃ byte ∈ UInt8.ofNat (v + base) :: rest, 128 ≤ byte.toNat := by
    intro v base rest hbase hlt
    refine ⟨_, List.mem_cons_self, ?_⟩
    rw [UInt8.toNat_ofNat_of_lt' hlt]
    omega
  have hascii : ¬ c.val.toNat ≤ 0x7f := Nat.not_le.2 h
  unfold String.utf8EncodeChar
  dsimp only
  rw [if_neg hascii]
  split
  · exact hhigh (by decide) (by omega)
  · split
    · exact hhigh (by decide) (by omega)
    · exact hhigh (by decide) (by omega)

theorem toUTF8_ascii {text : String} (h : ∀ c ∈ text.toList, c.toNat < 128) :
    text.toUTF8.data.toList = text.toList.map fun c => UInt8.ofNat c.toNat := by
  rw [toUTF8_eq, List.flatMap_congr fun c hc => encodeChar_ascii (h c hc)]
  exact List.flatMap_pure_eq_map _ _

theorem ascii_of_toUTF8 {text : String} (h : ∀ byte ∈ text.toUTF8.data.toList, byte.toNat < 128) :
    ∀ c ∈ text.toList, c.toNat < 128 := by
  intro c hc
  rw [toUTF8_eq] at h
  by_contra hhigh
  obtain ⟨byte, hbyte, hbig⟩ := exists_high (Nat.not_lt.1 hhigh)
  exact absurd (h byte (List.mem_flatMap.2 ⟨c, hc, hbyte⟩)) (Nat.not_lt.2 hbig)

end Utf8
