import NetworkPolicy.Proofs.Json.Taking
import NetworkPolicy.Proofs.Numbers

namespace NetworkPolicy.Json.Reader

open Text (Symbol)

variable {front : List Char} {rest : List Symbol} {c : Char} {n : Nat}

/-- What follows does not continue a number. -/
def Ends (rest : List Symbol) : Prop :=
  ∀ s ∈ rest.head?, digitOf s = none ∧ s ≠ .char '.' ∧ s ≠ .char 'e' ∧ s ≠ .char 'E'

theorem ends_nil : Ends [] :=
  fun _ hs => nomatch hs

theorem ends_cons {s : Symbol}
    (h : digitOf s = none ∧ s ≠ .char '.' ∧ s ≠ .char 'e' ∧ s ≠ .char 'E') :
    Ends (s :: rest) := by
  rintro _ ⟨⟩
  exact h

def digitValue (c : Char) : Nat :=
  c.toNat - '0'.toNat

theorem digitOf_char (hc : c.isDigit = true) : digitOf (.char c) = some (digitValue c) :=
  if_pos hc

/-- By induction on the digits: all of them are taken, and no more. -/
theorem takes_digits (hfront : ∀ c ∈ front, c.isDigit = true)
    (hrest : ∀ s ∈ rest.head?, digitOf s = none) :
    digits.Takes front rest (front.map digitValue) := by
  have hspan : spanDigits (front.map .char ++ rest) = (front.map digitValue, rest) := by
    induction front with
    | nil =>
      cases rest with
      | nil => rfl
      | cons s rest =>
        have hs := hrest s rfl
        simp only [List.map_nil, List.nil_append, spanDigits, hs]
    | cons c front ih =>
      have hc := digitOf_char (hfront c List.mem_cons_self)
      have hmore := ih fun d hd => hfront d (List.mem_cons_of_mem c hd)
      simp only [List.map_cons, List.cons_append, spanDigits, hc, hmore]
  intro p
  refine ⟨⟨p.line, p.column + (front.map digitValue).length⟩, ?_⟩
  simp only [digits, hspan]

section Decimal

theorem number_toDigits (n : Nat) :
    Text.number 10 ((Nat.toDigits 10 n).map digitValue) = n := by
  obtain ⟨digits, hwritten, hlt, hnumber⟩ := Text.exists_digits (by decide : 1 < 10) n
  have hdigits : digits.map (digitValue ∘ Nat.digitChar) = digits :=
    (List.map_congr_left fun d hd => Nat.toNat_digitChar_sub_48_of_lt_ten (hlt d hd)).trans
      (List.map_id digits)
  rw [hwritten, List.map_map, hdigits, hnumber]

theorem toDigits_eq_cons (hn : n ≠ 0) : ∃ c cs, Nat.toDigits 10 n = c :: cs ∧ c ≠ '0' := by
  induction n using Nat.strongRecOn with
  | ind n ih =>
    rw [Nat.toDigits_eq_if (by decide)]
    split
    · exact ⟨_, [], rfl, by simpa using hn⟩
    · obtain ⟨c, cs, hcs, hc⟩ := ih (n / 10) (by omega) (by omega)
      exact ⟨c, cs ++ [Nat.digitChar (n % 10)], by rw [hcs, List.cons_append], hc⟩

theorem isDigit_of_mem_toDigits (hc : c ∈ Nat.toDigits 10 n) : c.isDigit = true :=
  Nat.isDigit_of_mem_toDigits (by decide) (by decide) hc

/-- By induction on the digits: as long as the number fits, all of them are gathered. -/
theorem gather_eq (ds : List Nat) (hfits : ds.foldl (fun n d => n * 10 + d) n < UInt64.size) :
    gather n ds = (ds.foldl (fun n d => n * 10 + d) n, 0) := by
  have hgrows : ∀ (ds : List Nat) (n : Nat), n ≤ ds.foldl (fun n d => n * 10 + d) n := by
    intro ds
    induction ds with
    | nil => exact fun n => Nat.le_refl n
    | cons d ds ih => exact fun n => Nat.le_trans (by omega) (ih (n * 10 + d))
  induction ds generalizing n with
  | nil => rfl
  | cons d ds ih =>
    have hnext := Nat.lt_of_le_of_lt (hgrows ds (n * 10 + d)) hfits
    rw [gather, if_pos hnext]
    exact ih hfits

end Decimal

def signed (negative : Bool) (n : Nat) : Int :=
  if negative then -n else n

theorem takes_numberTail {negative : Bool} (hrest : Ends rest)
    (hfits : negative = true → n ≠ 0 ∧ n ≤ UInt64.size / 2) :
    (numberTail negative n 0).Takes [] rest (.integer (signed negative n)) := by
  rw [numberTail]
  refine takes_peek ?_
  split
  · next h => exact absurd rfl (hrest _ h).2.1
  · next h => exact absurd rfl (hrest _ h).2.2.1
  · next h => exact absurd rfl (hrest _ h).2.2.2
  · rw [if_neg (by simp)]
    cases negative with
    | false => exact takes_pure _ _
    | true =>
      obtain ⟨hpos, hle⟩ := hfits rfl
      rw [if_neg (by simp), if_neg (by simpa [hpos] using hle)]
      exact takes_pure _ _

/-- A number is read back from its decimal digits. -/
theorem takes_number (negative : Bool) (hrest : Ends rest) (hsize : n < UInt64.size)
    (hfits : negative = true → n ≠ 0 ∧ n ≤ UInt64.size / 2) :
    (number negative).Takes (Nat.toDigits 10 n) rest (.integer (signed negative n)) := by
  have htail := takes_numberTail hrest hfits
  by_cases hn : n = 0
  · subst hn
    rw [number, Nat.toDigits_zero]
    refine takes_peek_cons (takes_advance_bind (takes_peek ?_))
    split
    · next s hs =>
      rw [(hrest s hs).1]
      exact htail
    · exact htail
  · obtain ⟨c, cs, hcs, hc⟩ := toDigits_eq_cons hn
    have hdigits : ∀ d ∈ Nat.toDigits 10 n, d.isDigit = true := fun d hd =>
      isDigit_of_mem_toDigits hd
    have hgathered : gather 0 ((Nat.toDigits 10 n).map digitValue) = (n, 0) := by
      have hvalue : ((Nat.toDigits 10 n).map digitValue).foldl (fun n d => n * 10 + d) 0 = n :=
        number_toDigits n
      rw [gather_eq _ (by rwa [hvalue]), hvalue]
    have hread := takes_digits hdigits fun s hs => (hrest s hs).1
    rw [hcs] at hdigits hread hgathered ⊢
    rw [number]
    refine takes_peek_cons ?_
    split
    · contradiction
    · next h =>
      -- a number that begins with zero is zero
      cases h
      exact absurd rfl hc
    · next h =>
      cases h
      rw [digitOf_char (hdigits c List.mem_cons_self), if_neg (by simp), ← List.append_nil (c :: cs)]
      refine hread.bind ?_
      rw [hgathered]
      exact htail

end NetworkPolicy.Json.Reader
