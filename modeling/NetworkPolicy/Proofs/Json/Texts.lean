import NetworkPolicy.Proofs.Json.Taking
import NetworkPolicy.Proofs.Numbers

namespace NetworkPolicy.Text

theorem symbolsFrom_utf8Encode (chars : List Char) (before : ByteArray) :
    symbolsFrom (before ++ chars.utf8Encode) before.size = chars.map .char := by
  induction chars generalizing before with
  | nil =>
    rw [symbolsFrom, dif_neg]
    · rfl
    · simp
  | cons c chars ih =>
    have hdecoded : (before ++ (c :: chars).utf8Encode).utf8DecodeChar? before.size = some c := by
      rw [ByteArray.utf8DecodeChar?_eq_utf8DecodeChar?_extract,
        ByteArray.extract_append_eq_right rfl (by simp), List.utf8DecodeChar?_utf8Encode_cons]
    have hlt : before.size < (before ++ (c :: chars).utf8Encode).size :=
      ByteArray.lt_size_of_isSome_utf8DecodeChar? (by rw [hdecoded]; rfl)
    have hsize : (before ++ [c].utf8Encode).size = before.size + c.utf8Size := by
      rw [ByteArray.size_append, List.utf8Encode_singleton, List.size_toByteArray,
        String.length_utf8EncodeChar]
    -- the character is part of what was read when the others follow
    have hrest := ih (before ++ [c].utf8Encode)
    rw [hsize, ByteArray.append_assoc, ← List.utf8Encode_cons] at hrest
    rw [symbolsFrom, dif_pos hlt, hdecoded, List.map_cons, ← hrest]

theorem symbols_toUTF8 (s : String) : symbols s.toUTF8 = symbolsOf s := by
  have hread := symbolsFrom_utf8Encode s.toList ByteArray.empty
  rwa [ByteArray.empty_append, String.utf8Encode_toList] at hread

end NetworkPolicy.Text

namespace NetworkPolicy.Json

open Text (Spells)

/-- The letters that make an escape, with what they stand for. -/
def letters : List (Char × Char) :=
  [('"', '"'), ('\\', '\\'), ('/', '/'), ('b', '\x08'), ('f', '\x0c'), ('n', '\n'), ('r', '\r'),
    ('t', '\t')]

structure IsCode (digits : List Char) (n : Nat) : Prop where
  spells : Spells 16 digits n
  four : digits.length = 4

/-- The spellings of a character in a quoted text: itself, unless it has to be escaped, and its
escapes. A character too large for one code is escaped by two. -/
inductive SpelledChar : Char → List Char → Prop
  | plain {c : Char} : c ≠ '"' → c ≠ '\\' → 0x20 ≤ c.toNat → SpelledChar c [c]
  | letter {letter c : Char} : (letter, c) ∈ letters → SpelledChar c ['\\', letter]
  | code {c : Char} {digits : List Char} : IsCode digits c.toNat →
    SpelledChar c ('\\' :: 'u' :: digits)
  | pair {c : Char} {high low : List Char} : 0x10000 ≤ c.toNat →
    IsCode high (0xD800 + (c.toNat - 0x10000) / 0x400) →
    IsCode low (0xDC00 + (c.toNat - 0x10000) % 0x400) →
    SpelledChar c ('\\' :: 'u' :: (high ++ '\\' :: 'u' :: low))

inductive Spelled : String → List Char → Prop
  | intro {s : String} {spellings : List (List Char)} :
    List.Forall₂ SpelledChar s.toList spellings → Spelled s ('"' :: (spellings.flatten ++ ['"']))

theorem Spelled.exists_cons {s : String} {cs : List Char} (h : Spelled s cs) :
    ∃ spelling, cs = '"' :: spelling := by
  cases h with
  | intro => exact ⟨_, rfl⟩

section Printing

theorem isCode_control {n : Nat} (hn : n < 0x20) :
    IsCode ['0', '0', Nat.digitChar (n / 16), Nat.digitChar (n % 16)] n where
  spells := by
    refine ⟨[0, 0, n / 16, n % 16], ?_, ?_⟩
    · exact .cons ⟨by decide, .inl rfl⟩ (.cons ⟨by decide, .inl rfl⟩
        (.cons ⟨by omega, .inl rfl⟩ (.cons ⟨by omega, .inl rfl⟩ .nil)))
    · simp only [List.reverse_cons, List.reverse_nil, List.nil_append, List.cons_append,
        Nat.ofDigits_cons, Nat.ofDigits_nil]
      omega
  four := rfl

theorem spelledChar_escaped (c : Char) : SpelledChar c (escaped c) := by
  unfold escaped
  split
  any_goals exact .letter (by decide)
  next hquote hbackslash _ _ _ _ _ =>
  split
  · next hcontrol => exact .code (isCode_control hcontrol)
  · next hcontrol => exact .plain hquote hbackslash (Nat.le_of_not_lt hcontrol)

theorem spelled_quoted (s : String) : Spelled s (quoted s) := by
  rw [quoted, List.flatMap_def, List.cons_append]
  exact .intro (List.forall₂_map_right_iff.2 (List.forall₂_same.2 fun c _ => spelledChar_escaped c))

end Printing

end NetworkPolicy.Json

namespace NetworkPolicy.Json.Reader

open Text (Symbol)

variable {before : List Symbol} {front : List Char} {rest : List Symbol} {c : Char} {s : String}
  {fuel : Nat}

theorem mapM_char? (chars : List Char) : (chars.map Symbol.char).mapM Symbol.char? = some chars := by
  induction chars with
  | nil => rfl
  | cons c chars ih =>
    rw [List.map_cons, List.mapM_cons, ih]
    rfl

theorem takes_keep (chars : List Char) : (keep (chars.map .char)).Takes [] rest (.ofList chars) := by
  rw [keep, mapM_char?]
  exact takes_pure _ _

theorem utf8Size_digit : ∀ d < 16,
    (Nat.digitChar d).utf8Size = 1 ∧ (Text.upperDigit d).utf8Size = 1 := by
  decide

theorem takes_hexEscape {digits : List Char} {n : Nat} (h : IsCode digits n) :
    hexEscape.Takes digits rest n := by
  obtain ⟨⟨ds, hds, rfl⟩, hfour⟩ := h
  obtain ⟨a, b, d, e, rfl⟩ := List.length_eq_four.1 hfour
  have hdigit {c : Char} {k : Nat} (hc : Text.IsDigit 16 c k) :
      Text.hexDigit? c = some k ∧ c.utf8Size = 1 := by
    refine ⟨hexDigit?_eq_some.2 hc, ?_⟩
    obtain ⟨hlt, rfl | rfl⟩ := hc
    · exact (utf8Size_digit k hlt).1
    · exact (utf8Size_digit k hlt).2
  cases hds with | cons ha hds =>
  cases hds with | cons hb hds =>
  cases hds with | cons hd hds =>
  cases hds with | cons he hds =>
  cases hds
  obtain ⟨ha, hawidth⟩ := hdigit ha
  obtain ⟨hb, hbwidth⟩ := hdigit hb
  obtain ⟨hd, hdwidth⟩ := hdigit hd
  obtain ⟨he, hewidth⟩ := hdigit he
  intro p
  refine ⟨p.after 4 (.char a :: .char b :: .char d :: .char e :: rest), ?_⟩
  have hwhole :
      ¬ Symbol.widths ((.char a :: .char b :: .char d :: .char e :: rest).take 4) < 4 := by
    show ¬ a.utf8Size + (b.utf8Size + (d.utf8Size + (e.utf8Size + 0))) < 4
    omega
  show hexEscape ⟨.char a :: .char b :: .char d :: .char e :: rest, p⟩ = _
  simp only [hexEscape, if_neg hwhole, fourDigits, ha, hb, hd, he, ← number_eq_ofDigits,
    Text.number, List.foldl_cons, List.foldl_nil, Nat.zero_mul, Nat.zero_add]

theorem isHalf_toNat (c : Char) : isTrailing c.toNat = false ∧ isLeading c.toNat = false := by
  have hvalid : c.toNat < 0xD800 ∨ 0xDFFF < c.toNat ∧ c.toNat < 0x110000 := c.valid
  simp only [isTrailing, isLeading, Bool.and_eq_false_iff, decide_eq_false_iff_not]
  omega

theorem takes_escape_code {digits : List Char} (h : IsCode digits c.toNat) :
    escape.Takes ('u' :: digits) rest c := by
  obtain ⟨htrailing, hleading⟩ := isHalf_toNat c
  rw [escape, ← List.append_nil digits]
  refine takes_peek_cons (takes_advance_bind ((takes_hexEscape h).bind ?_))
  rw [htrailing, hleading, Char.ofNat_toNat]
  exact takes_pure c rest

theorem takes_escape_pair {high low : List Char} (hc : 0x10000 ≤ c.toNat)
    (hhigh : IsCode high (0xD800 + (c.toNat - 0x10000) / 0x400))
    (hlow : IsCode low (0xDC00 + (c.toNat - 0x10000) % 0x400)) :
    escape.Takes ('u' :: (high ++ '\\' :: 'u' :: low)) rest c := by
  have hlt : c.toNat < 0x110000 := by
    have hvalid : c.toNat < 0xD800 ∨ 0xDFFF < c.toNat ∧ c.toNat < 0x110000 := c.valid
    omega
  have htrailing : isTrailing (0xD800 + (c.toNat - 0x10000) / 0x400) = false := by
    simp only [isTrailing, Bool.and_eq_false_iff, decide_eq_false_iff_not]
    omega
  have hleading : isLeading (0xD800 + (c.toNat - 0x10000) / 0x400) = true := by
    simp only [isLeading, Bool.and_eq_true, decide_eq_true_eq]
    omega
  have hsecond : isTrailing (0xDC00 + (c.toNat - 0x10000) % 0x400) = true := by
    simp only [isTrailing, Bool.and_eq_true, decide_eq_true_eq]
    omega
  have hwhole : (0xD800 + (c.toNat - 0x10000) / 0x400 - 0xD800) * 0x400 +
      (0xDC00 + (c.toNat - 0x10000) % 0x400 - 0xDC00) + 0x10000 = c.toNat := by
    omega
  rw [escape]
  refine takes_peek_cons (takes_advance_bind ((takes_hexEscape hhigh).bind ?_))
  rw [htrailing, hleading, pairedWith, ← List.append_nil low]
  refine takes_peek_cons (takes_advance_bind (takes_peek_cons (takes_advance_bind
    ((takes_hexEscape hlow).bind ?_))))
  rw [hsecond, if_pos rfl, hwhole, Char.ofNat_toNat]
  exact takes_pure c rest

theorem shortEscape_of_mem {letter : Char} (hl : (letter, c) ∈ letters) :
    shortEscape letter = some c := by
  have hall : ∀ p ∈ letters, shortEscape p.1 = some p.2 := by decide
  exact hall _ hl

theorem takes_escape_letter {letter : Char} (hl : (letter, c) ∈ letters) :
    escape.Takes [letter] rest c := by
  have hshort := shortEscape_of_mem hl
  rw [escape]
  refine takes_peek_cons ?_
  split
  · contradiction
  · next h =>
    cases h
    cases hshort
  · next h =>
    cases h
    rw [hshort]
    exact takes_advance_bind (takes_pure _ _)
  · next h => cases h

theorem takes_textFrom_escape {letters : List Char}
    (he : escape.Takes letters (front.map .char ++ rest) c)
    (h : (textFrom fuel (.char c :: before)).Takes front rest s) :
    (textFrom (fuel + 1) before).Takes ('\\' :: (letters ++ front)) rest s := by
  rw [textFrom]
  exact takes_peek_cons (takes_advance_bind (he.bind h))

theorem takes_textFrom_spelled {spelling : List Char} (hc : SpelledChar c spelling)
    (h : (textFrom fuel (.char c :: before)).Takes front rest s) :
    (textFrom (fuel + 1) before).Takes (spelling ++ front) rest s := by
  cases hc with
  | plain hquote hbackslash hcontrol =>
    rw [textFrom]
    refine takes_peek_cons ?_
    split
    · contradiction
    · next heq =>
      cases heq
      exact absurd rfl hquote
    · next heq =>
      cases heq
      exact absurd rfl hbackslash
    · next heq =>
      cases heq
      rw [if_neg (by simpa [Symbol.isControl] using hcontrol)]
      exact takes_advance_bind h
  | letter hl => exact takes_textFrom_escape (takes_escape_letter hl) h
  | code hcode => exact takes_textFrom_escape (takes_escape_code hcode) h
  | pair hlarge hhigh hlow => exact takes_textFrom_escape (takes_escape_pair hlarge hhigh hlow) h

/-- By induction on the characters: they are read one after the other, up to the quote. -/
theorem takes_textFrom {chars : List Char} {spellings : List (List Char)}
    (hchars : List.Forall₂ SpelledChar chars spellings) (read : List Char) (rest : List Symbol)
    (hfuel : chars.length < fuel) :
    (textFrom fuel (read.map .char)).Takes (spellings.flatten ++ ['"']) rest
      (.ofList (read.reverse ++ chars)) := by
  obtain ⟨fuel, rfl⟩ := Nat.exists_eq_succ_of_ne_zero (Nat.ne_of_gt (Nat.zero_lt_of_lt hfuel))
  induction hchars generalizing read fuel with
  | nil =>
    have hkept : (keep (read.map Symbol.char).reverse).Takes [] rest (.ofList read.reverse) := by
      rw [← List.map_reverse]
      exact takes_keep read.reverse
    rw [textFrom, List.append_nil]
    exact takes_peek_cons (takes_advance_bind hkept)
  | @cons c _ chars _ hc hchars ih =>
    obtain ⟨fuel, rfl⟩ := Nat.exists_eq_succ_of_ne_zero
      (Nat.ne_of_gt (Nat.zero_lt_of_lt (Nat.lt_of_succ_lt_succ hfuel)))
    have hrest := ih (c :: read) fuel (Nat.lt_of_succ_lt_succ hfuel)
    rw [List.reverse_cons, List.append_assoc] at hrest
    rw [List.flatten_cons, List.append_assoc]
    exact takes_textFrom_spelled hc hrest

theorem length_le_flatten {chars : List Char} {spellings : List (List Char)}
    (h : List.Forall₂ SpelledChar chars spellings) : chars.length ≤ spellings.flatten.length := by
  induction h with
  | nil => exact Nat.le_refl 0
  | @cons c spelling _ _ hc _ ih =>
    have hpos : 0 < spelling.length := by
      cases hc <;> exact Nat.zero_lt_succ _
    rw [List.flatten_cons, List.length_append, List.length_cons]
    omega

/-- A text is read up to its closing quote. -/
theorem takes_text {spelling : List Char} (h : Spelled s ('"' :: spelling)) (rest : List Symbol) :
    text.Takes spelling rest s := by
  cases h with
  | @intro spellings hchars =>
    refine takes_get fun p => ?_
    have hfuel : s.toList.length <
        ((spellings.flatten ++ ['"']).map Symbol.char ++ rest).length + 1 := by
      have hle := length_le_flatten hchars
      simp only [List.length_append, List.length_map]
      omega
    have hread := takes_textFrom hchars [] rest hfuel
    rwa [List.reverse_nil, List.nil_append, String.ofList_toList] at hread

end NetworkPolicy.Json.Reader
