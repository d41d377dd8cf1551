import ImportMaps.Text.Basic

/-!
# ImportMaps — texts as UTF-8 bytes

Places in a source are counted by `byteLength` over characters. This module ties
that count to the bytes that a string really has, so that statements about offsets
can be made about bytes.

* `byteLength_eq_utf8ByteSize` — the count is the size of the string in UTF-8.
* `isValid_of_split` — a cut between characters is a valid byte position.
* `extract_of_split` — the bytes between two such positions.
* `fromUTF8?_toByteArray` — the bytes of a text are read as this text.
* `byteBefore_of_split` — after a character that is no word character no byte of
  a word character stands.
-/

namespace ImportMaps.Text

theorem byteLength_eq_utf8ByteSize (cs : List Char) :
    byteLength cs = (String.ofList cs).utf8ByteSize := by
  rw [← String.size_toByteArray, String.toByteArray_ofList, List.utf8Encode, List.size_toByteArray]
  induction cs with
  | nil => rfl
  | cons c cs ih => simp [ih]

theorem eq_ofList_of_toList_eq {s : String} {front rest : List Char}
    (h : s.toList = front ++ rest) : s = String.ofList front ++ String.ofList rest := by
  rw [← String.ofList_append, ← h, String.ofList_toList]

/-- A cut between characters is a valid position. -/
theorem isValid_of_split {s : String} {front rest : List Char} (h : s.toList = front ++ rest) :
    (String.Pos.Raw.mk (byteLength front)).IsValid s := by
  -- a position is valid exactly when it is the size of some front of the string
  refine String.Pos.Raw.isValid_iff_exists_append.2
    ⟨String.ofList front, String.ofList rest, eq_ofList_of_toList_eq h, ?_⟩
  rw [byteLength_eq_utf8ByteSize]
  rfl

/-- The bytes between two cuts are those of the characters between them. -/
theorem extract_of_split {s : String} {front mid rest : List Char}
    (h : s.toList = front ++ (mid ++ rest)) :
    s.toByteArray.extract (byteLength front) (byteLength front + byteLength mid) =
      (String.ofList mid).toByteArray := by
  have hsize : ∀ cs : List Char, (String.ofList cs).toByteArray.size = byteLength cs := by
    intro cs
    rw [String.size_toByteArray, byteLength_eq_utf8ByteSize]
  rw [eq_ofList_of_toList_eq h, String.toByteArray_append, String.ofList_append,
    String.toByteArray_append]
  -- the bytes of the front are skipped, and those of the rest are left
  have hskip := ByteArray.extract_append_size_add' (a := (String.ofList front).toByteArray)
    (b := (String.ofList mid).toByteArray ++ (String.ofList rest).toByteArray)
    (i := 0) (j := byteLength mid) (hsize front).symm
  rw [Nat.add_zero] at hskip
  rw [hskip]
  exact ByteArray.extract_append_eq_left (hsize mid).symm

theorem fromUTF8?_toByteArray (s : String) : String.fromUTF8? s.toByteArray = some s := by
  rw [String.fromUTF8?, dif_pos s.isValidUTF8]
  rfl

theorem fromUTF8?_eq_some_iff {bytes : ByteArray} {s : String} :
    String.fromUTF8? bytes = some s ↔ bytes = s.toByteArray := by
  constructor
  · intro h
    rw [String.fromUTF8?] at h
    split at h
    · next hvalid =>
      obtain rfl := Option.some.inj h
      rfl
    · cases h
  · rintro rfl
    exact fromUTF8?_toByteArray s

/-! ## The byte before a position -/

/-- A byte that is an ASCII letter, an ASCII digit or the underscore. -/
def isWordByte (b : UInt8) : Bool :=
  isWord (Char.ofUInt8 b)

/-- The byte just before a position; none at the start of the text. -/
def byteBefore (s : String) (pos : Nat) : Option UInt8 :=
  (s.toByteArray.extract 0 pos).data.back?

/-- Word characters are ASCII. -/
theorem toNat_lt_of_isWord {c : Char} (h : isWord c = true) : c.toNat < 128 := by
  rw [isWord, Bool.or_eq_true, beq_iff_eq] at h
  rcases h with h | rfl
  · have hcases : ((c.isUpper || c.isLower) || c.isDigit) = true := h
    rw [Bool.or_eq_true, Bool.or_eq_true] at hcases
    -- each of the three ranges of letters and digits ends before 128
    rcases hcases with (hupper | hlower) | hdigit
    · have hle := (of_decide_eq_true hupper).2
      exact Nat.lt_of_le_of_lt (UInt32.le_iff_toNat_le.1 hle) (by decide)
    · have hle := of_decide_eq_true (Bool.and_eq_true_iff.1 hlower).2
      exact Nat.lt_of_le_of_lt (UInt32.le_iff_toNat_le.1 hle) (by decide)
    · have hle := of_decide_eq_true (Bool.and_eq_true_iff.1 hdigit).2
      exact Nat.lt_of_le_of_lt (UInt32.le_iff_toNat_le.1 hle) (by decide)
  · decide

theorem isWordByte_of_le {b : UInt8} (h : 128 ≤ b.toNat) : isWordByte b = false := by
  cases hword : isWordByte b with
  | false => rfl
  | true =>
    have hlt : (Char.ofUInt8 b).toNat < 128 := toNat_lt_of_isWord hword
    have hb : (Char.ofUInt8 b).toNat = b.toNat := rfl
    omega

theorem toNat_ofNat_byte {n : Nat} (h : n < 256) : (UInt8.ofNat n).toNat = n :=
  UInt8.toNat_ofNat_of_lt' h

/-- The last byte of a character outside words is no word byte. -/
theorem isWordByte_of_encode {c : Char} (h : isWord c = false) :
    ∀ b ∈ (String.utf8EncodeChar c).getLast?, isWordByte b = false := by
  intro b hb
  rw [String.utf8EncodeChar] at hb
  split at hb
  · -- one byte, which is the character
    next hle =>
    obtain rfl : UInt8.ofNat c.val.toNat = b := by simpa using hb
    have hval : (Char.ofUInt8 (UInt8.ofNat c.val.toNat)).val.toNat = c.val.toNat := by
      show (UInt8.ofNat c.val.toNat).toUInt32.toNat = c.val.toNat
      rw [UInt8.toNat_toUInt32, toNat_ofNat_byte (by omega)]
    rw [isWordByte, Char.ext (UInt32.toNat_inj.1 hval), h]
  · -- several bytes, the last of which continues and so is not ASCII
    have hlast : b = UInt8.ofNat (c.val.toNat % 64 + 128) := by
      split at hb
      · simpa only [List.getLast?_cons_cons, List.getLast?_singleton, Option.mem_some_iff,
          eq_comm] using hb
      · split at hb <;>
          simpa only [List.getLast?_cons_cons, List.getLast?_singleton, Option.mem_some_iff,
            eq_comm] using hb
    have hlt := Nat.mod_lt c.val.toNat (show 0 < 64 by decide)
    refine isWordByte_of_le ?_
    rw [hlast, toNat_ofNat_byte (by omega)]
    omega

/-- After a character outside words no word byte stands. -/
theorem byteBefore_of_split {s : String} {front rest : List Char} (h : s.toList = front ++ rest)
    (hfront : ∀ c ∈ front.getLast?, isWord c = false) :
    ∀ b ∈ byteBefore s (byteLength front), isWordByte b = false := by
  have hbytes : s.toByteArray.extract 0 (byteLength front) = (String.ofList front).toByteArray := by
    rw [eq_ofList_of_toList_eq h, String.toByteArray_append]
    refine ByteArray.extract_append_eq_left ?_
    rw [String.size_toByteArray, byteLength_eq_utf8ByteSize]
  intro b hb
  rw [byteBefore, hbytes, String.toByteArray_ofList, List.utf8Encode, ← Array.getLast?_toList,
    List.toList_data_toByteArray] at hb
  rcases List.eq_nil_or_concat front with rfl | ⟨init, c, rfl⟩
  · simp at hb
  · -- the last byte of the front is the last one of its last character
    rw [List.concat_eq_append] at hb hfront
    rw [List.flatMap_append, List.getLast?_append, List.flatMap_singleton] at hb
    refine isWordByte_of_encode (hfront c (by simp)) b ?_
    cases hlast : (String.utf8EncodeChar c).getLast? with
    | none => exact absurd (List.getLast?_eq_none_iff.1 hlast) String.utf8EncodeChar_ne_nil
    | some last => rwa [hlast, Option.some_or] at hb

end ImportMaps.Text
