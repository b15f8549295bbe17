import Mathlib.Data.Nat.Digits.Lemmas
import NetworkPolicy.Proofs.Numbers

namespace NetworkPolicy

namespace Text

def bytesOf (s : String) : List UInt8 :=
  s.toUTF8.data.toList

def digitByte (d : Nat) : UInt8 :=
  (upperDigit d).toNat.toUInt8

variable {base d : Nat} {ds es : List Nat}

theorem bytesOf_eq (s : String) : bytesOf s = s.toList.flatMap String.utf8EncodeChar := by
  show s.toByteArray.data.toList = _
  rw [← String.utf8Encode_toList, List.utf8Encode, List.data_toByteArray]

theorem utf8EncodeChar_upperDigit : ∀ d < 16,
    String.utf8EncodeChar (upperDigit d) = [digitByte d] := by
  decide

theorem digitByte_lt_iff : ∀ d < 16, ∀ e < 16,
    (digitByte d < digitByte e ↔ d < e) ∧ (digitByte d = digitByte e ↔ d = e) := by
  decide

theorem bytesOf_digits {s : String} (hs : s.toList = ds.map upperDigit) (hds : ∀ d ∈ ds, d < 16) :
    bytesOf s = ds.map digitByte := by
  rw [bytesOf_eq, hs, List.flatMap_map, List.map_eq_flatMap]
  exact List.flatMap_congr fun d hd => utf8EncodeChar_upperDigit d (hds d hd)

theorem number_cons (base d : Nat) (ds : List Nat) :
    number base (d :: ds) = number base ds + base ^ ds.length * d := by
  rw [number_eq_ofDigits, number_eq_ofDigits, Nat.ofDigits_reverse_cons]

theorem number_lt (hbase : 1 < base) (hds : ∀ d ∈ ds, d < base) :
    number base ds < base ^ ds.length := by
  rw [number_eq_ofDigits, ← List.length_reverse]
  exact Nat.ofDigits_lt_base_pow_length hbase fun d hd => hds d (List.mem_reverse.1 hd)

/-- Digits in the same number of places compare as the numbers that they stand for, first digit
first. By induction on the digits: what follows a digit counts for less than one in its place. -/
theorem map_lt_map_iff_number {α : Type} [LT α] {f : Nat → α} (hbase : 1 < base)
    (hf : ∀ d < base, ∀ e < base, (f d < f e ↔ d < e) ∧ (f d = f e ↔ d = e))
    (hlen : ds.length = es.length) (hds : ∀ d ∈ ds, d < base) (hes : ∀ e ∈ es, e < base) :
    ds.map f < es.map f ↔ number base ds < number base es := by
  induction ds generalizing es with
  | nil =>
    cases es with
    | nil => simp
    | cons e es => cases hlen
  | cons d ds ih =>
    cases es with
    | nil => cases hlen
    | cons e es =>
      obtain ⟨hd, hds⟩ := List.forall_mem_cons.1 hds
      obtain ⟨he, hes⟩ := List.forall_mem_cons.1 hes
      have hlen : ds.length = es.length := Nat.succ.inj hlen
      have hrest := ih hlen hds hes
      have hdslt := number_lt hbase hds
      have heslt := number_lt hbase hes
      rw [List.map_cons, List.map_cons, List.cons_lt_cons_iff, (hf d hd e he).1, (hf d hd e he).2,
        hrest, number_cons, number_cons]
      rw [hlen] at hdslt ⊢
      rcases Nat.lt_trichotomy d e with hlt | rfl | hgt
      · have hplace := Nat.mul_le_mul_left (base ^ es.length) (Nat.succ_le_of_lt hlt)
        rw [Nat.mul_succ] at hplace
        omega
      · omega
      · have hplace := Nat.mul_le_mul_left (base ^ es.length) (Nat.succ_le_of_lt hgt)
        rw [Nat.mul_succ] at hplace
        omega

end Text

namespace TagLength

open Text

variable (n : TagLength)

theorem toNat_toUInt64 (slot : Int64) :
    slot.toUInt64.toNat = (slot.toInt % UInt64.size).toNat := by
  have hlt : slot.toUInt64.toNat < UInt64.size := slot.toUInt64.toNat_lt
  have hbits : slot.toInt = Int.bmod slot.toUInt64.toNat UInt64.size :=
    BitVec.toInt_eq_toNat_bmod slot.toBitVec
  rw [hbits, Int.bmod_emod, Int.emod_eq_of_lt (by omega) (by omega), Int.toNat_natCast]

theorem max_length_toDigits {width : Nat} (hwidth : 0 < width) (k : Nat) :
    max width (Nat.toDigits 16 k).length = max width (Nat.digits 16 k).length := by
  apply eq_of_forall_ge_iff
  intro j
  rw [max_le_iff, max_le_iff]
  apply and_congr_right
  intro hj
  rw [Nat.length_toDigits_le_iff (by decide) (by omega), Nat.digits_length_le_iff (by decide)]

theorem format_injective : Function.Injective fun slot : Int64 => n.format slot.toInt := by
  intro a b h
  have hnumber := congrArg hexNumber? h
  simp only [hexNumber?_format, ← toNat_toUInt64] at hnumber
  have hbits := UInt64.toNat_inj.1 (Option.some.inj hnumber)
  rw [← Int64.toInt64_toUInt64 a, hbits, Int64.toInt64_toUInt64]

section Pool
variable {n} {a b : Int}

theorem mod_of_lt (ha : 0 ≤ a) (hle : a < 2 ^ (8 * n.bytes)) :
    ((a % UInt64.size).toNat : Int) = a ∧ (a % UInt64.size).toNat ≤ n.poolSize := by
  have hpool : (n.poolSize : Int) + 1 = 2 ^ (8 * n.bytes) := by
    rw [Int.pow_mul]
    exact_mod_cast n.poolSize_add_one
  have hsize := n.poolSize_lt
  rw [Int.emod_eq_of_lt ha (by omega)]
  omega

theorem length_format_of_lt (ha : 0 ≤ a) (hle : a < 2 ^ (8 * n.bytes)) :
    (n.format a).length = 2 * n.bytes :=
  n.length_format_eq_iff.2 (mod_of_lt ha hle).2

theorem bytesOf_format_lt_iff (ha : 0 ≤ a) (hale : a < 2 ^ (8 * n.bytes)) (hb : 0 ≤ b)
    (hble : b < 2 ^ (8 * n.bytes)) : bytesOf (n.format a) < bytesOf (n.format b) ↔ a < b := by
  obtain ⟨ds, hds, hdslt, hdsnumber⟩ := n.exists_digits_format a
  obtain ⟨es, hes, heslt, hesnumber⟩ := n.exists_digits_format b
  have hlen : ds.length = es.length := by
    have hads := length_format_of_lt ha hale
    have hbes := length_format_of_lt hb hble
    rw [← String.length_toList, hds, List.length_map] at hads
    rw [← String.length_toList, hes, List.length_map] at hbes
    rw [hads, hbes]
  rw [bytesOf_digits hds hdslt, bytesOf_digits hes heslt,
    map_lt_map_iff_number (by decide) digitByte_lt_iff hlen hdslt heslt, hdsnumber, hesnumber]
  have hanumber := (mod_of_lt ha hale).1
  have hbnumber := (mod_of_lt hb hble).1
  omega

end Pool

/-- A tag is the slot's bits in upper-case hex, with as many digits as they take but no fewer than
the tag length asks for. Tags of the pool have just as many, and are ordered as their slots are. -/
theorem tag_text_encodes_slot :
    (∀ slot : Int64, IsUpperHex (n.format slot.toInt) ∧
      (n.format slot.toInt).length =
        max (2 * n.bytes) (Nat.digits 16 slot.toUInt64.toNat).length ∧
      hexNumber? (n.format slot.toInt) = some slot.toUInt64.toNat ∧
      (slot.toUInt64.toNat : Int) = slot.toInt % 2 ^ 64) ∧
    (Function.Injective fun slot : Int64 => n.format slot.toInt) ∧
    (∀ a : Int, 1 ≤ a → a < 2 ^ (8 * n.bytes) → (n.format a).length = 2 * n.bytes ∧
      ∀ b : Int, 1 ≤ b → b < 2 ^ (8 * n.bytes) →
        (bytesOf (n.format a) < bytesOf (n.format b) ↔ a < b)) := by
  refine ⟨fun slot => ⟨n.isUpperHex_format _, ?_, ?_, ?_⟩, n.format_injective, ?_⟩
  · have hbytes := n.bytes_pos
    rw [length_format, ← toNat_toUInt64, max_length_toDigits (by omega)]
  · rw [hexNumber?_format, toNat_toUInt64]
  · rw [toNat_toUInt64, Int.toNat_of_nonneg (Int.emod_nonneg _ (by decide))]
    rfl
  · intro a ha hale
    have ha : 0 ≤ a := by omega
    exact ⟨length_format_of_lt ha hale,
      fun b hb hble => bytesOf_format_lt_iff ha hale (by omega) hble⟩

/-- Zeros in front put the tag of the ninth slot before that of the sixteenth. -/
theorem tag_text_encodes_ninth_slot :
    ((1 : Int) ≤ 9 ∧ (9 : Int) < 2 ^ (8 * 2)) ∧ ((1 : Int) ≤ 16 ∧ (16 : Int) < 2 ^ (8 * 2)) ∧
      (format { bytes := 2 } 9).length = 4 ∧
      bytesOf (format { bytes := 2 } 9) < bytesOf (format { bytes := 2 } 16) := by
  have htexts := (tag_text_encodes_slot { bytes := 2 }).2.2 9 (by decide) (by decide)
  exact ⟨⟨by decide, by decide⟩, ⟨by decide, by decide⟩, htexts.1,
    (htexts.2 16 (by decide) (by decide)).2 (by decide)⟩

end TagLength

end NetworkPolicy
