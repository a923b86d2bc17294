import Chancery.Lib.LittleEndian

/-!
# Type-length-value regions

Entries of a nonzero 16-bit type, a 16-bit length and that many bytes, one after another.  A
region stops at a header of type zero or where no header fits any more.

* `Entry`, `Entry.encode`, `encode` — an entry carries the bounds of its header.
* `Stops`, `Ends` — where the entries are over; `Ends` also asks a short rest to be zero.
* `exists_entry`, `Entry.drop_header`, `Entry.drop_value` — a header and its value, read and
  written.
-/

set_option autoImplicit false

namespace Tlv

open LittleEndian

/-- A tag with its value. -/
structure Entry where
  tag : Nat
  value : List UInt8
  tag_pos : 0 < tag
  tag_lt : tag < 2 ^ 16
  length_lt : value.length < 2 ^ 16

/-- Bytes of an entry. -/
def Entry.encode (entry : Entry) : List UInt8 :=
  toBytes 2 entry.tag ++ toBytes 2 entry.value.length ++ entry.value

/-- Bytes of the entries. -/
def encode (entries : List Entry) : List UInt8 := entries.flatMap Entry.encode

/-- No entry begins here. -/
def Stops (rest : List UInt8) : Prop := rest.length < 4 ∨ ofBytes (rest.take 2) = 0

/-- The entries are over: a header of type zero, or less than a header, all zero. -/
def Ends (rest : List UInt8) : Prop :=
  (4 ≤ rest.length ∧ ofBytes (rest.take 2) = 0) ∨ (rest.length < 4 ∧ ∀ byte ∈ rest, byte = 0)

theorem ends_iff {rest : List UInt8} :
    Ends rest ↔ Stops rest ∧ ¬ (rest.length < 4 ∧ ∃ byte ∈ rest, byte ≠ 0) := by
  unfold Ends Stops
  rcases Nat.lt_or_ge rest.length 4 with hshort | hlong
  · simp [hshort, Nat.not_le.2 hshort]
  · simp [hlong, Nat.not_lt.2 hlong]

theorem ends_replicate (n : Nat) : Ends (List.replicate n 0) := by
  unfold Ends
  rw [List.length_replicate]
  rcases Nat.lt_or_ge n 4 with hshort | hlong
  · exact .inr ⟨hshort, fun _ hbyte => List.eq_of_mem_replicate hbyte⟩
  · rw [List.take_replicate, Nat.min_eq_left (by omega)]
    exact .inl ⟨hlong, rfl⟩

@[simp] theorem Entry.length_encode (entry : Entry) :
    entry.encode.length = 4 + entry.value.length := by
  simp only [Entry.encode, List.length_append, length_toBytes]

@[simp] theorem encode_cons (entry : Entry) (entries : List Entry) :
    encode (entry :: entries) = entry.encode ++ encode entries := List.flatMap_cons

/-! ## One entry -/

section

variable {bytes : List UInt8} {position : Nat}

theorem Entry.encode_append (entry : Entry) (rest : List UInt8) : entry.encode ++ rest =
    toBytes 2 entry.tag ++ (toBytes 2 entry.value.length ++ (entry.value ++ rest)) := by
  rw [Entry.encode, List.append_assoc, List.append_assoc]

theorem Entry.drop_length {entry : Entry} {rest : List UInt8}
    (h : bytes.drop position = entry.encode ++ rest) :
    bytes.drop (position + 2) = toBytes 2 entry.value.length ++ (entry.value ++ rest) := by
  rw [Entry.encode_append] at h
  rw [← List.drop_drop, h, List.drop_left' (length_toBytes _ _)]

theorem Entry.drop_value {entry : Entry} {rest : List UInt8}
    (h : bytes.drop position = entry.encode ++ rest) :
    bytes.drop (position + 4) = entry.value ++ rest := by
  rw [show position + 4 = position + 2 + 2 from rfl, ← List.drop_drop, Entry.drop_length h,
    List.drop_left' (length_toBytes _ _)]

theorem Entry.drop_rest {entry : Entry} {rest : List UInt8}
    (h : bytes.drop position = entry.encode ++ rest) :
    bytes.drop (position + 4 + entry.value.length) = rest := by
  rw [← List.drop_drop, Entry.drop_value h, List.drop_left]

/-- A header with room for its value is an entry. -/
theorem exists_entry {byteLength : Nat} (htag : 0 < ofBytes ((bytes.drop position).take 2))
    (hlength : ofBytes ((bytes.drop (position + 2)).take 2) = byteLength)
    (hfits : position + 4 + byteLength ≤ bytes.length) :
    ∃ entry : Entry, entry.tag = ofBytes ((bytes.drop position).take 2) ∧
      entry.value.length = byteLength ∧
      entry.value = (bytes.drop (position + 4)).take byteLength ∧
      bytes.drop position = entry.encode ++ bytes.drop (position + 4 + byteLength) := by
  have htagBytes : ((bytes.drop position).take 2).length = 2 := by
    rw [List.length_take, List.length_drop]
    omega
  have hlengthBytes : ((bytes.drop (position + 2)).take 2).length = 2 := by
    rw [List.length_take, List.length_drop]
    omega
  have hvalue : ((bytes.drop (position + 4)).take byteLength).length = byteLength := by
    rw [List.length_take, List.length_drop]
    omega
  have htagLt := ofBytes_lt ((bytes.drop position).take 2)
  have hlengthLt := ofBytes_lt ((bytes.drop (position + 2)).take 2)
  rw [htagBytes] at htagLt
  rw [hlengthBytes, hlength] at hlengthLt
  refine ⟨⟨_, (bytes.drop (position + 4)).take byteLength, htag, htagLt, by
    rw [hvalue]
    exact hlengthLt⟩, rfl, hvalue, rfl, ?_⟩
  simp only [Entry.encode, hvalue]
  have hsplit : ∀ start n, bytes.drop start =
      (bytes.drop start).take n ++ bytes.drop (start + n) := by
    intro start n
    rw [← List.drop_drop, List.take_append_drop]
  rw [toBytes_ofBytes_of_length htagBytes, ← hlength, toBytes_ofBytes_of_length hlengthBytes,
    hlength, List.append_assoc, List.append_assoc]
  calc bytes.drop position
      = (bytes.drop position).take 2 ++ bytes.drop (position + 2) := hsplit _ _
    _ = (bytes.drop position).take 2 ++ ((bytes.drop (position + 2)).take 2 ++
          bytes.drop (position + 4)) := by rw [← hsplit (position + 2) 2]
    _ = _ := by rw [← hsplit (position + 4) byteLength]

end

end Tlv
