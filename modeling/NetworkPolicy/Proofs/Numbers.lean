import Mathlib.Algebra.Group.Nat.Defs
import Mathlib.Data.List.Forall2
import Mathlib.Data.Nat.Digits.Defs
import NetworkPolicy.TagLength
import NetworkPolicy.Text.Digit

namespace NetworkPolicy

namespace Text

/-- The number that a text of hex digits stands for. -/
def hexNumber? (s : String) : Option Nat :=
  (s.toList.mapM hexDigit?).map (number 16)

def IsUpperHex (s : String) : Prop :=
  ∀ c ∈ s.toList, ('0' ≤ c ∧ c ≤ '9') ∨ ('A' ≤ c ∧ c ≤ 'F')

def upperDigit (d : Nat) : Char :=
  (Nat.digitChar d).toUpper

/-- The character is the digit of that value, in either case. -/
def IsDigit (base : Nat) (c : Char) (d : Nat) : Prop :=
  d < base ∧ (c = Nat.digitChar d ∨ c = upperDigit d)

instance (base : Nat) (c : Char) (d : Nat) : Decidable (IsDigit base c d) :=
  inferInstanceAs (Decidable (_ ∧ _))

/-- The characters are digits that stand for the number, the first for most. -/
def Spells (base : Nat) (cs : List Char) (n : Nat) : Prop :=
  ∃ ds, List.Forall₂ (IsDigit base) cs ds ∧ Nat.ofDigits base ds.reverse = n

variable {base d : Nat} {digits : List Nat}

theorem number_append (base : Nat) (digits : List Nat) (d : Nat) :
    number base (digits ++ [d]) = number base digits * base + d := by
  rw [number, List.foldl_append]
  rfl

theorem number_zeros_append (base count : Nat) (digits : List Nat) :
    number base (List.replicate count 0 ++ digits) = number base digits := by
  induction count with
  | zero => rfl
  | succ count ih =>
    rw [List.replicate_succ, List.cons_append, number, List.foldl_cons, Nat.zero_mul]
    exact ih

/-- By induction on the number: it is written with digits that stand for it. -/
theorem exists_digits (hbase : 1 < base) (n : Nat) :
    ∃ digits, Nat.toDigits base n = digits.map Nat.digitChar ∧ (∀ d ∈ digits, d < base) ∧
      number base digits = n := by
  induction n using Nat.strongRecOn with
  | ind n ih =>
    rw [Nat.toDigits_eq_if hbase]
    split
    · next hlt => exact ⟨[n], rfl, by simpa using hlt, by simp [number]⟩
    · next hge =>
      have hpos : 0 < n := Nat.lt_of_lt_of_le (Nat.zero_lt_of_lt hbase) (Nat.le_of_not_lt hge)
      obtain ⟨digits, hwritten, hlt, hnumber⟩ := ih (n / base) (Nat.div_lt_self hpos hbase)
      refine ⟨digits ++ [n % base], by simp [hwritten], ?_, ?_⟩
      · intro d hd
        rcases List.mem_append.1 hd with hd | hd
        · exact hlt d hd
        · rw [List.mem_singleton.1 hd]
          exact Nat.mod_lt n (Nat.zero_lt_of_lt hbase)
      · rw [number_append, hnumber, Nat.mul_comm]
        exact Nat.div_add_mod n base

theorem hexDigit?_upperDigit : ∀ d < 16, hexDigit? (upperDigit d) = some d := by
  decide

theorem upperDigit_range : ∀ d < 16,
    ('0' ≤ upperDigit d ∧ upperDigit d ≤ '9') ∨ ('A' ≤ upperDigit d ∧ upperDigit d ≤ 'F') := by
  decide

theorem hexDigit?_digitChar : ∀ d < 16, hexDigit? (Nat.digitChar d) = some d := by
  decide

/-- By induction on the digits: each is read as what it was. -/
theorem mapM_hexDigit? {write : Nat → Char} (hwrite : ∀ d < 16, hexDigit? (write d) = some d)
    (hdigits : ∀ d ∈ digits, d < 16) : (digits.map write).mapM hexDigit? = some digits := by
  induction digits with
  | nil => rfl
  | cons d rest ih =>
    have hrest := ih fun e he => hdigits e (List.mem_cons_of_mem d he)
    rw [List.map_cons, List.mapM_cons, hwrite d (hdigits d List.mem_cons_self), hrest]
    rfl

theorem repr_injective : Function.Injective Nat.repr := by
  intro m n h
  obtain ⟨digits, hm, hlt, hnumber⟩ := exists_digits (by decide : 1 < 10) m
  obtain ⟨digits', hn, hlt', hnumber'⟩ := exists_digits (by decide : 1 < 10) n
  have hwritten : digits.map Nat.digitChar = digits'.map Nat.digitChar := by
    have hlist := congrArg String.toList h
    simpa only [Nat.repr, String.toList_ofList, hm, hn] using hlist
  have hread := mapM_hexDigit? hexDigit?_digitChar fun d hd => Nat.lt_trans (hlt d hd) (by decide)
  have hread' := mapM_hexDigit? hexDigit?_digitChar fun d hd => Nat.lt_trans (hlt' d hd) (by decide)
  rw [hwritten, hread'] at hread
  rw [← hnumber, ← hnumber', Option.some.inj hread]

end Text

section Digits

open Text

variable {c : Char} {d : Nat} {cs : List Char} {ds : List Nat}

theorem isDigit_of_ascii : ∀ n < 128,
    (∀ d ∈ decimalDigit? (Char.ofNat n), IsDigit 10 (Char.ofNat n) d) ∧
      ∀ d ∈ hexDigit? (Char.ofNat n), IsDigit 16 (Char.ofNat n) d := by
  decide

theorem decimalDigit?_digit : ∀ d < 10,
    decimalDigit? (Nat.digitChar d) = some d ∧ decimalDigit? (upperDigit d) = some d := by
  decide

theorem decimalDigit?_eq_some : decimalDigit? c = some d ↔ IsDigit 10 c d := by
  constructor
  · intro h
    have hascii : c.toNat < 128 := by
      rw [decimalDigit?, Option.ite_none_right_eq_some] at h
      exact Nat.lt_of_le_of_lt h.1.2 (by decide)
    have hdigit := (isDigit_of_ascii c.toNat hascii).1
    rw [Char.ofNat_toNat] at hdigit
    exact hdigit d h
  · rintro ⟨hlt, rfl | rfl⟩
    · exact (decimalDigit?_digit d hlt).1
    · exact (decimalDigit?_digit d hlt).2

theorem hexDigit?_eq_some : hexDigit? c = some d ↔ IsDigit 16 c d := by
  constructor
  · intro h
    have hascii : c.toNat < 128 := by
      rw [hexDigit?] at h
      split at h
      · next hrange => exact Nat.lt_of_le_of_lt hrange.2 (by decide)
      split at h
      · next hrange => exact Nat.lt_of_le_of_lt hrange.2 (by decide)
      split at h
      · next hrange => exact Nat.lt_of_le_of_lt hrange.2 (by decide)
      · cases h
    have hdigit := (isDigit_of_ascii c.toNat hascii).2
    rw [Char.ofNat_toNat] at hdigit
    exact hdigit d h
  · rintro ⟨hlt, rfl | rfl⟩
    · exact hexDigit?_digitChar d hlt
    · exact hexDigit?_upperDigit d hlt

theorem mapM_eq_some_iff {α β : Type} {f : α → Option β} {R : α → β → Prop}
    (hf : ∀ a b, f a = some b ↔ R a b) {as : List α} {bs : List β} :
    as.mapM f = some bs ↔ List.Forall₂ R as bs := by
  induction as generalizing bs with
  | nil => simp [eq_comm]
  | cons a as ih =>
    rw [List.mapM_cons, List.forall₂_cons_left_iff]
    constructor
    · intro h
      obtain ⟨b, hb, hrest⟩ := Option.bind_eq_some_iff.1 h
      obtain ⟨bs', hbs', hcons⟩ := Option.bind_eq_some_iff.1 hrest
      exact ⟨b, bs', (hf a b).1 hb, ih.1 hbs', (Option.some.inj hcons).symm⟩
    · rintro ⟨b, bs', hb, hbs', rfl⟩
      rw [(hf a b).2 hb, ih.2 hbs']
      rfl

theorem number_eq_ofDigits (base : Nat) (ds : List Nat) :
    number base ds = Nat.ofDigits base ds.reverse := by
  rw [Nat.ofDigits_eq_foldr, List.foldr_reverse, number]
  congr 1
  funext n d
  rw [Nat.mul_comm, Nat.add_comm]
  rfl

end Digits

namespace TagLength

open Text

variable (n : TagLength) {slot : Int}

theorem poolSize_add_one : n.poolSize + 1 = 256 ^ n.bytes :=
  Nat.sub_add_cancel (Nat.one_le_pow _ _ (by decide))

theorem poolSize_le {m : TagLength} (h : n.bytes ≤ m.bytes) : n.poolSize ≤ m.poolSize :=
  Nat.sub_le_sub_right (Nat.pow_le_pow_right (by decide) h) 1

theorem poolSize_lt : n.poolSize < UInt64.size :=
  Nat.lt_of_lt_of_le (Nat.sub_lt (Nat.pow_pos (by decide)) (by decide))
    (Nat.le_trans (Nat.pow_le_pow_right (by decide) n.bytes_le) (by decide))

theorem exists_digits_format (slot : Int) :
    ∃ digits, (n.format slot).toList = digits.map upperDigit ∧ (∀ d ∈ digits, d < 16) ∧
      number 16 digits = (slot % UInt64.size).toNat := by
  obtain ⟨digits, hwritten, hlt, hnumber⟩ :=
    exists_digits (by decide : 1 < 16) (slot % UInt64.size).toNat
  refine ⟨List.replicate (2 * n.bytes - digits.length) 0 ++ digits, ?_, ?_, ?_⟩
  · have hzero : upperDigit 0 = '0' := by decide
    rw [format, hwritten, String.toList_ofList, List.leftpad, List.map_append, List.map_replicate,
      hzero, List.map_map, List.length_map]
    rfl
  · intro d hd
    rcases List.mem_append.1 hd with hd | hd
    · rw [List.eq_of_mem_replicate hd]
      decide
    · exact hlt d hd
  · rw [number_zeros_append, hnumber]

theorem isUpperHex_format (slot : Int) : IsUpperHex (n.format slot) := by
  obtain ⟨digits, hwritten, hlt, -⟩ := n.exists_digits_format slot
  intro c hc
  rw [hwritten] at hc
  obtain ⟨d, hd, rfl⟩ := List.mem_map.1 hc
  exact upperDigit_range d (hlt d hd)

/-- A tag denotes its slot, as an unsigned number of 64 bits. -/
theorem hexNumber?_format (slot : Int) :
    hexNumber? (n.format slot) = some (slot % UInt64.size).toNat := by
  obtain ⟨digits, hwritten, hlt, hnumber⟩ := n.exists_digits_format slot
  rw [hexNumber?, hwritten, mapM_hexDigit? hexDigit?_upperDigit hlt, Option.map_some, hnumber]

theorem length_format (slot : Int) :
    (n.format slot).length =
      max (2 * n.bytes) (Nat.toDigits 16 (slot % UInt64.size).toNat).length := by
  rw [format, String.length_ofList, List.length_leftpad, List.length_map]

theorem length_format_eq_iff :
    (n.format slot).length = 2 * n.bytes ↔ (slot % UInt64.size).toNat ≤ n.poolSize := by
  have hbytes := n.bytes_pos
  have hpow : 16 ^ (2 * n.bytes) = n.poolSize + 1 := by
    rw [poolSize_add_one, Nat.pow_mul]
  have hshort := Nat.length_toDigits_le_iff (by decide : 1 < 16) (by omega : 0 < 2 * n.bytes)
    (n := (slot % UInt64.size).toNat)
  rw [hpow] at hshort
  rw [length_format]
  omega

/-- What a tag of this length is to be: two upper-case hex digits a byte, for a slot of the pool. -/
structure Fits (text : String) : Prop where
  isUpperHex : IsUpperHex text
  length_eq : text.length = 2 * n.bytes
  slot : ∃ k, hexNumber? text = some k ∧ 1 ≤ k ∧ k ≤ n.poolSize

section Pool
variable {n} {m : TagLength} {k : Nat} (hk : k ≤ n.poolSize)
include hk

theorem mod_of_le_poolSize : ((k : Int) % UInt64.size).toNat = k := by
  have hsize := n.poolSize_lt
  rw [Int.emod_eq_of_lt (by omega) (by omega), Int.toNat_natCast]

theorem hexNumber?_format_of_le : hexNumber? (m.format k) = some k := by
  rw [hexNumber?_format, mod_of_le_poolSize hk]

theorem fits_format_iff (hpos : 1 ≤ k) : m.Fits (m.format k) ↔ k ≤ m.poolSize := by
  have hnumber := hexNumber?_format_of_le (m := m) hk
  constructor
  · intro h
    obtain ⟨j, hj, -, hle⟩ := h.slot
    rw [hnumber] at hj
    exact Option.some.inj hj ▸ hle
  · intro hle
    have hlength : (m.format k).length = 2 * m.bytes :=
      m.length_format_eq_iff.2 (by rwa [mod_of_le_poolSize hk])
    exact ⟨m.isUpperHex_format k, hlength, k, hnumber, hpos, hle⟩

end Pool

end TagLength

end NetworkPolicy
