import NetworkPolicy.Json.Skip
import NetworkPolicy.Proofs.Json.Faithful

namespace NetworkPolicy.Json

open Text (Symbol)

section Grammar

structure IsDigits (cs : List Char) : Prop where
  digits : ∀ c ∈ cs, c.isDigit = true
  nonempty : cs ≠ []

/-- The whole part of a number, which does not begin with zero unless it is zero. -/
structure IsWhole (cs : List Char) : Prop extends IsDigits cs where
  plain : cs.head? = some '0' → cs = ['0']

inductive IsFraction : List Char → Prop
  | none : IsFraction []
  | some {cs : List Char} : IsDigits cs → IsFraction ('.' :: cs)

inductive IsExponent : List Char → Prop
  | none : IsExponent []
  | some {letter : Char} {sign cs : List Char} : letter ∈ ['e', 'E'] →
    sign ∈ [[], ['+'], ['-']] → IsDigits cs → IsExponent (letter :: (sign ++ cs))

inductive IsMagnitude : List Char → Prop
  | intro {whole fraction exponent : List Char} : IsWhole whole → IsFraction fraction →
    IsExponent exponent → IsMagnitude (whole ++ (fraction ++ exponent))

/-- A piece of a quoted text: a character, or an escape of any code. -/
inductive TextPiece : List Char → Prop
  | plain {c : Char} : c ≠ '"' → c ≠ '\\' → 0x20 ≤ c.toNat → TextPiece [c]
  | letter {letter c : Char} : (letter, c) ∈ letters → TextPiece ['\\', letter]
  | code {digits : List Char} {n : Nat} : IsCode digits n → TextPiece ('\\' :: 'u' :: digits)

inductive IsQuoted : List Char → Prop
  | intro {pieces : List (List Char)} : (∀ p ∈ pieces, TextPiece p) →
    IsQuoted ('"' :: (pieces.flatten ++ ['"']))

structure Pair where
  key : List Char
  before : List Char
  after : List Char
  value : List Char

def Pair.chars (p : Pair) : List Char :=
  p.key ++ (p.before ++ [':'] ++ (p.after ++ p.value))

/-- The text is a JSON value. -/
inductive WellFormed : List Char → Prop
  | null : WellFormed ['n', 'u', 'l', 'l']
  | true : WellFormed ['t', 'r', 'u', 'e']
  | false : WellFormed ['f', 'a', 'l', 's', 'e']
  | number {cs : List Char} : IsMagnitude cs → WellFormed cs
  | negative {cs : List Char} : IsMagnitude cs → WellFormed ('-' :: cs)
  | text {cs : List Char} : IsQuoted cs → WellFormed cs
  | array {texts : List (List Char)} {cs : List Char} : (∀ t ∈ texts, WellFormed t) →
    Parts ']' true texts cs → WellFormed ('[' :: cs)
  | object {pairs : List Pair} {cs : List Char} : (∀ p ∈ pairs, IsQuoted p.key) →
    (∀ p ∈ pairs, Blank p.before ∧ Blank p.after) → (∀ p ∈ pairs, WellFormed p.value) →
    Parts '\x7d' true (pairs.map Pair.chars) cs → WellFormed ('\x7b' :: cs)

theorem IsDigits.exists_cons {cs : List Char} (h : IsDigits cs) :
    ∃ c rest, cs = c :: rest ∧ c.isDigit = true := by
  obtain ⟨c, rest, rfl⟩ := List.exists_cons_of_ne_nil h.nonempty
  exact ⟨c, rest, rfl, h.digits c List.mem_cons_self⟩

theorem IsMagnitude.exists_cons {cs : List Char} (h : IsMagnitude cs) :
    ∃ c rest, cs = c :: rest ∧ c.isDigit = true := by
  cases h with
  | intro hwhole _ _ =>
    obtain ⟨c, rest, rfl, hc⟩ := hwhole.exists_cons
    exact ⟨c, _, rfl, hc⟩

theorem IsQuoted.exists_cons {cs : List Char} (h : IsQuoted cs) :
    ∃ spelling, cs = '"' :: spelling := by
  cases h with
  | intro => exact ⟨_, rfl⟩

theorem opens_of_isDigit {c : Char} (hc : c.isDigit = true) (cs : List Char) : Opens (c :: cs) := by
  refine ⟨c, cs, rfl, isBlank_of_isDigit hc, ?_⟩
  rintro rfl
  exact absurd hc (by decide)

theorem WellFormed.opens {cs : List Char} (h : WellFormed cs) : Opens cs := by
  cases h with
  | null => exact ⟨_, _, rfl, rfl, by decide⟩
  | true => exact ⟨_, _, rfl, rfl, by decide⟩
  | false => exact ⟨_, _, rfl, rfl, by decide⟩
  | number h =>
    obtain ⟨c, rest, rfl, hc⟩ := h.exists_cons
    exact opens_of_isDigit hc rest
  | negative => exact ⟨_, _, rfl, rfl, by decide⟩
  | text h =>
    obtain ⟨spelling, rfl⟩ := h.exists_cons
    exact ⟨_, _, rfl, rfl, by decide⟩
  | array => exact ⟨_, _, rfl, rfl, by decide⟩
  | object => exact ⟨_, _, rfl, rfl, by decide⟩

end Grammar

namespace Reader

variable {rest : List Symbol} {cs before after more : List Char} {fuel : Nat}

theorem takes_word (cs : List Char) (rest : List Symbol) : (word cs).Takes cs rest () := by
  induction cs with
  | nil => exact takes_pure () rest
  | cons c cs ih =>
    rw [word]
    refine takes_peek_cons ?_
    simp only [if_true]
    exact takes_advance_bind ih

section Numbers

theorem takes_isDigits {β : Type} {f : List Nat → Reader β} {b : β} (h : IsDigits cs)
    (hmore : ∀ s ∈ (more.map Symbol.char ++ rest).head?, digitOf s = none)
    (hf : ∀ ds, ds ≠ [] → (f ds).Takes more rest b) : (digits >>= f).Takes (cs ++ more) rest b :=
  (takes_digits h.digits hmore).bind (hf _ (by simpa using h.nonempty))

theorem digitOf_exponent {exponent : List Char} (h : IsExponent exponent) (hrest : Ends rest) :
    ∀ s ∈ (exponent.map Symbol.char ++ rest).head?, digitOf s = none := by
  cases h with
  | none => exact fun s hs => (hrest s hs).1
  | some hletter =>
    rintro _ ⟨⟩
    simp only [List.mem_cons, List.not_mem_nil, or_false] at hletter
    rcases hletter with rfl | rfl <;> rfl

theorem takes_skipExponent {letter : Char} {sign : List Char} (hsign : sign ∈ [[], ['+'], ['-']])
    (h : IsDigits cs) (hrest : Ends rest) :
    skipExponent.Takes (letter :: (sign ++ cs)) rest () := by
  obtain ⟨c, cs, rfl, hc⟩ := h.exists_cons
  have hdigits : ∀ s ∈ (([] : List Char).map Symbol.char ++ rest).head?, digitOf s = none :=
    fun s hs => (hrest s hs).1
  have hdone := takes_isDigits h hdigits fun _ _ => takes_pure () rest
  rw [List.append_nil] at hdone
  rw [skipExponent]
  refine takes_advance_bind ?_
  simp only [List.mem_cons, List.not_mem_nil, or_false] at hsign
  -- behind the sign, or where none is, the digits begin
  rcases hsign with rfl | rfl | rfl
  · refine takes_peek_cons ?_
    split
    · next heq =>
      cases heq
      exact absurd hc (by decide)
    · next heq =>
      cases heq
      exact absurd hc (by decide)
    · refine takes_peek_cons ?_
      dsimp only
      rw [digitOf_char hc, if_neg (by simp)]
      exact hdone
  · refine takes_peek_cons (takes_advance_bind (takes_peek_cons ?_))
    dsimp only
    rw [digitOf_char hc, if_neg (by simp)]
    exact hdone
  · refine takes_peek_cons (takes_advance_bind (takes_peek_cons ?_))
    dsimp only
    rw [digitOf_char hc, if_neg (by simp)]
    exact hdone

theorem takes_exponent_or_end {f : Option Symbol → Reader Unit} {exponent : List Char}
    (h : IsExponent exponent) (hrest : Ends rest)
    (hexponent : ∀ letter ∈ ['e', 'E'], f (some (.char letter)) = skipExponent)
    (hend : f rest.head? = pure ()) : (peek >>= f).Takes exponent rest () := by
  cases h with
  | none =>
    refine takes_peek ?_
    rw [hend]
    exact takes_pure () rest
  | some hletter hsign hdigits =>
    refine takes_peek_cons ?_
    rw [hexponent _ hletter]
    exact takes_skipExponent hsign hdigits hrest

theorem takes_skipTail {fraction exponent : List Char} (hfraction : IsFraction fraction)
    (hexponent : IsExponent exponent) (hrest : Ends rest) :
    skipNumber.skipTail.Takes (fraction ++ exponent) rest () := by
  rw [skipNumber.skipTail]
  cases hfraction with
  | none =>
    refine takes_exponent_or_end hexponent hrest ?_ ?_
    · intro letter hletter
      simp only [List.mem_cons, List.not_mem_nil, or_false] at hletter
      rcases hletter with rfl | rfl <;> rfl
    · split
      · next h => exact absurd rfl (hrest _ h).2.1
      · next h => exact absurd rfl (hrest _ h).2.2.1
      · next h => exact absurd rfl (hrest _ h).2.2.2
      · rfl
  | some hdigits =>
    refine takes_peek_cons ?_
    show skipFraction.Takes _ rest ()
    rw [skipFraction]
    refine takes_advance_bind (takes_isDigits hdigits (digitOf_exponent hexponent hrest) ?_)
    intro ds hds
    rw [if_neg (by simpa using hds)]
    refine takes_exponent_or_end hexponent hrest ?_ ?_
    · intro letter hletter
      simp only [List.mem_cons, List.not_mem_nil, or_false] at hletter
      rcases hletter with rfl | rfl <;> rfl
    · split
      · next h => exact absurd rfl (hrest _ h).2.2.1
      · next h => exact absurd rfl (hrest _ h).2.2.2
      · rfl

theorem digitOf_fraction {fraction exponent : List Char} (hfraction : IsFraction fraction)
    (hexponent : IsExponent exponent) (hrest : Ends rest) :
    ∀ s ∈ ((fraction ++ exponent).map Symbol.char ++ rest).head?, digitOf s = none := by
  cases hfraction with
  | none => exact digitOf_exponent hexponent hrest
  | some =>
    rintro _ ⟨⟩
    rfl

theorem takes_skipNumber (h : IsMagnitude cs) (hrest : Ends rest) :
    skipNumber.Takes cs rest () := by
  cases h with
  | @intro whole fraction exponent hwhole hfraction hexponent =>
    have htail := takes_skipTail hfraction hexponent hrest
    have hmore := digitOf_fraction hfraction hexponent hrest
    obtain ⟨c, cs, rfl, hc⟩ := hwhole.exists_cons
    rw [skipNumber]
    refine takes_peek_cons ?_
    split
    · contradiction
    · next heq =>
      -- a zero stands alone before the tail
      cases heq
      obtain rfl : cs = [] := (List.cons.inj (hwhole.plain rfl)).2
      refine takes_advance_bind (takes_peek_head ?_)
      split
      · next s hs =>
        rw [hmore s hs]
        exact htail
      · next hnone =>
        have hempty : fraction ++ exponent = [] := by
          cases hfront : fraction ++ exponent with
          | nil => rfl
          | cons => rw [hfront] at hnone; cases hnone
        rw [hempty]
        exact takes_pure () rest
    · next heq =>
      cases heq
      rw [digitOf_char hc, if_neg (by simp)]
      exact takes_isDigits hwhole.toIsDigits hmore fun _ _ => htail

end Numbers

section Texts

theorem takes_skipTextFrom_escape {escape : List Char}
    (he : skipEscape.Takes escape (more.map .char ++ rest) ())
    (h : (skipTextFrom fuel).Takes more rest ()) :
    (skipTextFrom (fuel + 1)).Takes ('\\' :: (escape ++ more)) rest () := by
  rw [skipTextFrom]
  exact takes_peek_cons (takes_advance_bind (he.bind h))

theorem takes_skipTextFrom_piece {piece : List Char} (hp : TextPiece piece)
    (h : (skipTextFrom fuel).Takes more rest ()) :
    (skipTextFrom (fuel + 1)).Takes (piece ++ more) rest () := by
  cases hp with
  | @plain c hquote hbackslash hcontrol =>
    rw [skipTextFrom]
    refine takes_peek_cons ?_
    split
    · contradiction
    · next heq =>
      cases heq
      exact absurd rfl hquote
    · next heq =>
      cases heq
      exact absurd rfl hbackslash
    · next heq =>
      cases heq
      rw [if_neg (Nat.not_lt.2 hcontrol)]
      exact takes_advance_bind h
    · next heq => cases heq
  | @letter letter c hl =>
    refine takes_skipTextFrom_escape ?_ h
    have hu : letter ≠ 'u' := by
      have hall : ∀ p ∈ letters, p.1 ≠ 'u' := by decide
      exact hall _ hl
    rw [skipEscape]
    refine takes_peek_cons ?_
    split
    · contradiction
    · next heq =>
      cases heq
      exact absurd rfl hu
    · next heq =>
      cases heq
      rw [shortEscape_of_mem hl, Option.isSome_some, if_pos rfl]
      exact takes_advance
    · next heq => cases heq
  | @code digits n hcode =>
    refine takes_skipTextFrom_escape ?_ h
    rw [skipEscape, ← List.append_nil digits]
    exact takes_peek_cons (takes_advance_bind ((takes_hexEscape hcode).bind (takes_pure () _)))

/-- By induction on the pieces: they are passed over one after the other, up to the quote. -/
theorem takes_skipTextFrom {pieces : List (List Char)} (h : ∀ p ∈ pieces, TextPiece p)
    (rest : List Symbol) (hfuel : pieces.length < fuel) :
    (skipTextFrom fuel).Takes (pieces.flatten ++ ['"']) rest () := by
  obtain ⟨fuel, rfl⟩ := Nat.exists_eq_succ_of_ne_zero (Nat.ne_of_gt (Nat.zero_lt_of_lt hfuel))
  induction pieces generalizing fuel with
  | nil =>
    rw [skipTextFrom]
    exact takes_peek_cons takes_advance
  | cons piece pieces ih =>
    obtain ⟨hpiece, hpieces⟩ := List.forall_mem_cons.1 h
    obtain ⟨fuel, rfl⟩ := Nat.exists_eq_succ_of_ne_zero
      (Nat.ne_of_gt (Nat.zero_lt_of_lt (Nat.lt_of_succ_lt_succ hfuel)))
    rw [List.flatten_cons, List.append_assoc]
    exact takes_skipTextFrom_piece hpiece (ih hpieces fuel (Nat.lt_of_succ_lt_succ hfuel))

theorem length_pieces_le {pieces : List (List Char)} (h : ∀ p ∈ pieces, TextPiece p) :
    pieces.length ≤ pieces.flatten.length := by
  induction pieces with
  | nil => exact Nat.le_refl 0
  | cons piece pieces ih =>
    obtain ⟨hpiece, hpieces⟩ := List.forall_mem_cons.1 h
    have hrest := ih hpieces
    have hpos : 0 < piece.length := by
      cases hpiece <;> exact Nat.zero_lt_succ _
    rw [List.flatten_cons, List.length_append, List.length_cons]
    omega

theorem takes_skipText {spelling : List Char} (h : IsQuoted ('"' :: spelling))
    (rest : List Symbol) : skipText.Takes spelling rest () := by
  cases h with
  | @intro pieces hpieces =>
    refine takes_get fun p => takes_skipTextFrom hpieces rest ?_
    have hle := length_pieces_le hpieces
    simp only [List.length_append, List.length_map]
    omega

end Texts

section Values

/-- The text is passed over as a value, with fuel for two calls a character. -/
def Skips (cs : List Char) : Prop :=
  ∀ fuel before rest, 2 * cs.length ≤ fuel → Blank before → Ends rest →
    (skipValueFrom fuel).Takes (before ++ cs) rest ()

theorem takes_separated {f : Option Symbol → Reader Unit} {loop : Reader Unit} {closing : Char}
    {texts : List (List Char)} (hcomma : f (some (.char ',')) = (do advance; loop))
    (hclosing : f (some (.char closing)) = advance)
    (hblank : (Symbol.char closing).isBlank = false) (hmore : Parts closing false texts more)
    (hloop : ∀ text rest' before more', texts = text :: rest' → Blank before →
      Parts closing false rest' more' → text.length + more'.length < more.length →
      loop.Takes (before ++ (text ++ more')) rest ()) :
    (next >>= f).Takes more rest () := by
  cases hmore with
  | nil hbefore =>
    refine takes_next hbefore rfl hblank ?_
    rw [hclosing]
    exact takes_advance
  | @cons _ before after text more _ hbefore hafter hmore =>
    have hshort : text.length + more.length <
        (before ++ (separator false ++ after) ++ (text ++ more)).length := by
      simp only [separator, List.length_append, Bool.false_eq_true, if_false, List.length_cons]
      omega
    rw [List.append_assoc, separator, if_neg (by decide), List.append_assoc]
    refine takes_next hbefore rfl rfl ?_
    rw [hcomma]
    exact takes_advance_bind (hloop text _ after more rfl hafter hmore hshort)

/-- By induction on the fuel: the items are passed over one after the other, up to the bracket. -/
theorem takes_skipItemsFrom {text : List Char} {texts : List (List Char)}
    (htexts : ∀ t ∈ text :: texts, Skips t) (hmore : Parts ']' false texts more)
    (hbefore : Blank before) (hfuel : 2 * (text.length + more.length) ≤ fuel) :
    (skipItemsFrom fuel).Takes (before ++ (text ++ more)) rest () := by
  have hpos := hmore.length_pos
  induction fuel generalizing text texts before more with
  | zero => omega
  | succ fuel ih =>
    have htext := htexts text List.mem_cons_self fuel before _ (by omega) hbefore
      (hmore.ends (.inl rfl) rest)
    rw [skipItemsFrom, ← List.append_assoc]
    refine htext.bind (takes_separated rfl rfl rfl hmore ?_)
    rintro text' texts' before' more' rfl hbefore' hmore' hshort
    exact ih (fun t ht => htexts t (List.mem_cons_of_mem _ ht)) hmore' hbefore' (by omega)
      hmore'.length_pos

/-- The pair is passed over as a member, up to what stands behind its value. -/
structure SkipsPair (p : Pair) : Prop where
  key : IsQuoted p.key
  before : Blank p.before
  after : Blank p.after
  value : Skips p.value

theorem takes_skipMembersFrom_cons {p : Pair} (hp : SkipsPair p) (hbefore : Blank before)
    (hfuel : 2 * p.value.length ≤ fuel) (hends : Ends (more.map .char ++ rest))
    (hmore : (do
      match ← next with
      | none => failHere .endOfObject
      | some (.char ',') =>
        advance
        skipMembersFrom fuel
      | some (.char '\x7d') => advance
      | some _ => failNext .expectedObjectEnd : Reader Unit).Takes more rest ()) :
    (skipMembersFrom (fuel + 1)).Takes (before ++ (p.chars ++ more)) rest () := by
  have hread := hp.value fuel p.after _ hfuel hp.after hends
  obtain ⟨spelling, hspelling⟩ := hp.key.exists_cons
  have htext := takes_skipText (hspelling ▸ hp.key)
    ((p.before ++ [':'] ++ (p.after ++ p.value ++ more)).map .char ++ rest)
  rw [skipMembersFrom, Pair.chars, hspelling, List.append_assoc (_ :: _),
    List.append_assoc (_ ++ [':']), List.cons_append]
  refine takes_next hbefore rfl rfl (takes_advance_bind (htext.bind ?_))
  exact (takes_colon hp.before).bind (hread.bind hmore)

/-- By induction on the fuel, as with items. -/
theorem takes_skipMembersFrom {p : Pair} {pairs : List Pair}
    (hpairs : ∀ q ∈ p :: pairs, SkipsPair q)
    (hmore : Parts '\x7d' false (pairs.map Pair.chars) more) (hbefore : Blank before)
    (hfuel : 2 * (p.chars.length + more.length) ≤ fuel) :
    (skipMembersFrom fuel).Takes (before ++ (p.chars ++ more)) rest () := by
  have hpos := hmore.length_pos
  induction fuel generalizing p pairs before more with
  | zero => omega
  | succ fuel ih =>
    have hvalue : p.value.length ≤ p.chars.length := by
      simp only [Pair.chars, List.length_append]
      omega
    refine takes_skipMembersFrom_cons (hpairs p List.mem_cons_self) hbefore (by omega)
      (hmore.ends (.inr rfl) rest) (takes_separated rfl rfl rfl hmore ?_)
    intro text' texts' before' more' hcons hbefore' hmore' hshort
    obtain ⟨q, pairs, rfl, rfl, rfl⟩ := List.map_eq_cons_iff.1 hcons
    exact ih (fun r hr => hpairs r (List.mem_cons_of_mem _ hr)) hmore' hbefore' (by omega)
      hmore'.length_pos

theorem skips_of_succ (hcs : cs ≠ [])
    (h : ∀ fuel before rest, 2 * cs.length ≤ fuel + 1 → Blank before → Ends rest →
      (skipValueFrom (fuel + 1)).Takes (before ++ cs) rest ()) : Skips cs := by
  intro fuel before rest hfuel
  have hpos := List.length_pos_iff.2 hcs
  obtain ⟨fuel, rfl⟩ : ∃ n, fuel = n + 1 := ⟨fuel - 1, by omega⟩
  exact h fuel before rest hfuel

theorem skips_number (h : IsMagnitude cs) : Skips cs := by
  obtain ⟨c, cs, rfl, hc⟩ := h.exists_cons
  refine skips_of_succ (List.cons_ne_nil c cs) fun fuel before rest _ hbefore hrest => ?_
  rw [skipValueFrom]
  refine takes_next hbefore rfl (isBlank_of_isDigit hc) ?_
  -- the value begins with a digit, and so with no sign, quote, bracket or letter of a word
  split
  · contradiction
  iterate 7
    · next heq =>
      cases heq
      exact absurd hc (by decide)
  · next heq =>
    cases heq
    rw [digitOf_char hc, Option.isSome_some, if_pos rfl]
    exact takes_skipNumber h hrest

theorem skips_array {texts : List (List Char)} (htexts : ∀ t ∈ texts, Skips t ∧ Opens t)
    (hparts : Parts ']' true texts cs) : Skips ('[' :: cs) := by
  refine skips_of_succ (List.cons_ne_nil _ _) fun fuel before rest hfuel hbefore _ => ?_
  rw [skipValueFrom]
  refine takes_next hbefore rfl rfl (takes_advance_bind ?_)
  cases hparts with
  | nil hinner => exact takes_next hinner rfl rfl takes_advance
  | @cons _ gap after text more texts hgap hafter hmore =>
    have hblanks : Blank (gap ++ after) := List.forall_mem_append.2 ⟨hgap, hafter⟩
    have hlength : 2 * (text.length + more.length) ≤ fuel := by
      simp only [List.length_cons, List.length_append] at hfuel
      omega
    have hitems : (skipItemsFrom fuel).Takes (text ++ more) rest () :=
      takes_skipItemsFrom (fun t ht => (htexts t ht).1) hmore blank_nil hlength
    obtain ⟨-, d, ds, rfl, hblank, hne⟩ := htexts text List.mem_cons_self
    refine takes_next hblanks rfl hblank ?_
    split
    · contradiction
    · next heq =>
      cases heq
      exact absurd rfl hne
    · exact hitems

theorem skips_object {pairs : List Pair} (hpairs : ∀ p ∈ pairs, SkipsPair p)
    (hparts : Parts '\x7d' true (pairs.map Pair.chars) cs) : Skips ('\x7b' :: cs) := by
  refine skips_of_succ (List.cons_ne_nil _ _) fun fuel before rest hfuel hbefore _ => ?_
  rw [skipValueFrom]
  refine takes_next hbefore rfl rfl (takes_advance_bind ?_)
  cases pairs with
  | nil =>
    cases hparts with
    | nil hinner => exact takes_next hinner rfl rfl takes_advance
  | cons p pairs =>
    cases hparts with
    | @cons _ gap after _ more _ hgap hafter hmore =>
      have hblanks : Blank (gap ++ after) := List.forall_mem_append.2 ⟨hgap, hafter⟩
      have hlength : 2 * (p.chars.length + more.length) ≤ fuel := by
        simp only [List.length_cons, List.length_append] at hfuel ⊢
        omega
      have hmembers : (skipMembersFrom fuel).Takes (p.chars ++ more) rest () :=
        takes_skipMembersFrom hpairs hmore blank_nil hlength
      obtain ⟨spelling, hkey⟩ := (hpairs p List.mem_cons_self).key.exists_cons
      have hquote : ((p.chars ++ more).map Symbol.char ++ rest).head? = some (.char '"') := by
        rw [Pair.chars, hkey]
        rfl
      exact takes_next hblanks hquote rfl hmembers

/-- By induction on how the value is made up: it is passed over. -/
theorem skips_of_wellFormed (h : WellFormed cs) : Skips cs := by
  induction h with
  | null =>
    refine skips_of_succ (List.cons_ne_nil _ _) fun fuel before rest _ hbefore _ => ?_
    rw [skipValueFrom]
    exact takes_next hbefore rfl rfl (takes_advance_bind (takes_word _ rest))
  | true =>
    refine skips_of_succ (List.cons_ne_nil _ _) fun fuel before rest _ hbefore _ => ?_
    rw [skipValueFrom]
    exact takes_next hbefore rfl rfl (takes_advance_bind (takes_word _ rest))
  | false =>
    refine skips_of_succ (List.cons_ne_nil _ _) fun fuel before rest _ hbefore _ => ?_
    rw [skipValueFrom]
    exact takes_next hbefore rfl rfl (takes_advance_bind (takes_word _ rest))
  | number h => exact skips_number h
  | negative h =>
    refine skips_of_succ (List.cons_ne_nil _ _) fun fuel before rest _ hbefore hrest => ?_
    rw [skipValueFrom]
    exact takes_next hbefore rfl rfl (takes_advance_bind (takes_skipNumber h hrest))
  | text h =>
    obtain ⟨spelling, rfl⟩ := h.exists_cons
    refine skips_of_succ (List.cons_ne_nil _ _) fun fuel before rest _ hbefore _ => ?_
    rw [skipValueFrom]
    exact takes_next hbefore rfl rfl (takes_advance_bind (takes_skipText h rest))
  | array htexts hparts ih => exact skips_array (fun t ht => ⟨ih t ht, (htexts t ht).opens⟩) hparts
  | object hkeys hblanks _ hparts ih =>
    exact skips_object
      (fun p hp => ⟨hkeys p hp, (hblanks p hp).1, (hblanks p hp).2, ih p hp⟩) hparts

/-- A value that nobody asked for is passed over, whatever it is. -/
theorem takes_skipValue (h : WellFormed cs) (hbefore : Blank before) (hrest : Ends rest) :
    skipValue.Takes (before ++ cs) rest () := by
  refine takes_get fun p => skips_of_wellFormed h _ before rest ?_ hbefore hrest
  simp only [List.length_append, List.length_map]
  omega

end Values

end Reader

end NetworkPolicy.Json
