import AttributeRelease.Bytes.Base64
import AttributeRelease.Bytes.Hex
import AttributeRelease.Bytes.Sha2
import Mathlib.Logic.Function.Basic

/-!
What is lost when bytes are written down, and when texts and numbers are written as bytes: nothing. Hexadecimal digits
are read back, base64 of different bytes differs in its letters or in its padding, a text is known by its bytes, and a
number by as many bytes as it needs.
-/

namespace AttributeRelease.Bytes

theorem toList_loop (bytes : ByteArray) (i : Nat) (before : List UInt8) :
    ByteArray.toList.loop bytes i before = before.reverse ++ bytes.data.toList.drop i := by
  fun_induction ByteArray.toList.loop bytes i before with
  | case1 i before h ih =>
    have hi : i < bytes.data.toList.length := by simpa using h
    rw [ih, List.drop_eq_getElem_cons hi, List.reverse_cons, List.append_assoc, List.singleton_append]
    simp [ByteArray.get!, h]
  | case2 i before h =>
    rw [List.drop_eq_nil_of_le (by simpa using Nat.le_of_not_lt h), List.append_nil]

theorem toList_eq (bytes : ByteArray) : bytes.toList = bytes.data.toList := by
  rw [ByteArray.toList, toList_loop, List.reverse_nil, List.nil_append, List.drop_zero]

theorem length_toUTF8 (text : String) : text.toUTF8.toList.length = text.utf8ByteSize := by
  rw [toList_eq, Array.length_toList]
  exact String.size_toByteArray

theorem toUTF8_inj {text text' : String} : text.toUTF8.toList = text'.toUTF8.toList ↔ text = text' := by
  rw [toList_eq, toList_eq, Array.toList_inj, ← ByteArray.ext_iff]
  exact String.toByteArray_inj

theorem number_append (bytes : List UInt8) (b : UInt8) :
    Sha2.number (bytes ++ [b]) = Sha2.number bytes * 256 + b.toNat := by
  rw [Sha2.number, List.foldl_append]
  rfl

theorem bigEndian_succ (count n : Nat) :
    Sha2.bigEndian (count + 1) n = Sha2.bigEndian count (n >>> 8) ++ [UInt8.ofNat n] := by
  rw [Sha2.bigEndian, List.range_succ, List.map_append, Sha2.bigEndian]
  congr 1
  · refine List.map_congr_left fun i hi => ?_
    have hlt : i < count := List.mem_range.1 hi
    rw [← Nat.shiftRight_add]
    congr 2
    omega
  · simp

@[simp] theorem length_bigEndian (count n : Nat) : (Sha2.bigEndian count n).length = count := by
  rw [Sha2.bigEndian, List.length_map, List.length_range]

/-- A number is read back from its bytes if none of it is left out. -/
theorem number_bigEndian {count n : Nat} (h : n >>> (8 * count) = 0) : Sha2.number (Sha2.bigEndian count n) = n := by
  induction count generalizing n with
  | zero => exact h.symm
  | succ count ih =>
    rw [Nat.mul_succ, Nat.add_comm, Nat.shiftRight_add] at h
    rw [bigEndian_succ, number_append, ih h, UInt8.toNat_ofNat', Nat.shiftRight_eq_div_pow]
    omega

theorem hexValue?_hexLetter : ∀ n < 16, hexValue? (hexLetter n) = some n := by decide

theorem ofHexLetters?_hexLetters (bytes : List UInt8) : ofHexLetters? (hexLetters bytes) = some bytes := by
  induction bytes with
  | nil => rfl
  | cons b rest ih =>
    have hlt := b.toNat_lt
    have hb : b.toNat / 16 * 16 + b.toNat % 16 = b.toNat := by omega
    rw [hexLetters, ofHexLetters?, hexValue?_hexLetter _ (by omega), hexValue?_hexLetter _ (by omega), ih]
    change some (UInt8.ofNat (b.toNat / 16 * 16 + b.toNat % 16) :: rest) = some (b :: rest)
    rw [hb, UInt8.ofNat_toNat]

theorem ofHex?_toHex (bytes : List UInt8) : ofHex? (toHex bytes) = some bytes := by
  rw [ofHex?, toHex, String.toList_ofList, ofHexLetters?_hexLetters]

theorem toHex_injective : Function.Injective toHex := by
  intro bytes bytes' h
  have hread := ofHex?_toHex bytes
  rw [h, ofHex?_toHex] at hread
  exact (Option.some.inj hread).symm

/-- The number that a letter stands for. -/
def base64Value (c : Char) : Nat := ((List.range 64).map base64Letter).idxOf c

theorem base64Value_base64Letter : ∀ n < 64, base64Value (base64Letter n) = n := by decide

theorem base64Letter_ne_pad : ∀ n < 64, base64Letter n ≠ '=' := by decide

/-- The bytes of letters in groups of four; padding shows how many bytes the last group has. -/
def ofBase64Letters : List Char → List UInt8
  | a :: b :: c :: d :: rest =>
    let n := base64Value a * 64 + base64Value b
    if c = '=' then [UInt8.ofNat (n / 16)]
    else
      let n := n * 64 + base64Value c
      if d = '=' then [UInt8.ofNat (n / 1024), UInt8.ofNat (n / 4)]
      else
        let n := n * 64 + base64Value d
        UInt8.ofNat (n / 65536) :: UInt8.ofNat (n / 256) :: UInt8.ofNat n :: ofBase64Letters rest
  | _ => []

theorem ofNat_eq_of_mod {n : Nat} {b : UInt8} (h : n % 256 = b.toNat) : UInt8.ofNat n = b :=
  UInt8.toNat_inj.1 (UInt8.toNat_ofNat'.trans h)

theorem ofBase64Letters_base64Letters (bytes : List UInt8) : ofBase64Letters (base64Letters bytes) = bytes := by
  fun_induction base64Letters bytes with
  | case1 => rfl
  | case2 a n =>
    have ha := a.toNat_lt
    rw [ofBase64Letters, if_pos rfl, base64Value_base64Letter _ (by omega), base64Value_base64Letter _ (by omega)]
    rw [ofNat_eq_of_mod (b := a) (by omega)]
  | case3 a b n =>
    have ha := a.toNat_lt
    have hb := b.toNat_lt
    rw [ofBase64Letters, if_neg (base64Letter_ne_pad _ (by omega)), if_pos rfl, base64Value_base64Letter _ (by omega),
      base64Value_base64Letter _ (by omega), base64Value_base64Letter _ (by omega)]
    rw [ofNat_eq_of_mod (b := a) (by omega), ofNat_eq_of_mod (b := b) (by omega)]
  | case4 a b c rest n ih =>
    have ha := a.toNat_lt
    have hb := b.toNat_lt
    have hc := c.toNat_lt
    rw [ofBase64Letters, if_neg (base64Letter_ne_pad _ (by omega)), if_neg (base64Letter_ne_pad _ (by omega)),
      base64Value_base64Letter _ (by omega), base64Value_base64Letter _ (by omega),
      base64Value_base64Letter _ (by omega), base64Value_base64Letter _ (by omega), ih]
    dsimp only
    rw [ofNat_eq_of_mod (b := a) (by omega), ofNat_eq_of_mod (b := b) (by omega), ofNat_eq_of_mod (b := c) (by omega)]

theorem toBase64_injective : Function.Injective toBase64 := by
  intro bytes bytes' h
  rw [← ofBase64Letters_base64Letters bytes, ← ofBase64Letters_base64Letters bytes', String.ofList_injective h]

end AttributeRelease.Bytes
