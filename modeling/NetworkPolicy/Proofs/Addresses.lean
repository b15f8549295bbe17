import NetworkPolicy.Proofs.Numbers
import NetworkPolicy.Proofs.Payloads

namespace NetworkPolicy

namespace Address

open Text (IsDigit Spells number pieces hexDigit? decimalDigit? upperDigit)

section Grammar

/-- A decimal number up to 255, of at most three digits, with no zero in front. -/
structure IsOctet (cs : List Char) (n : Nat) : Prop where
  spells : Spells 10 cs n
  nonempty : cs ≠ []
  short : cs.length ≤ 3
  plain : cs.head? = some '0' → cs.length = 1
  small : n ≤ 255

structure IsGroup (cs : List Char) (n : Nat) : Prop where
  spells : Spells 16 cs n
  nonempty : cs ≠ []
  short : cs.length ≤ 4

inductive IsDotted : List Char → Nat → Nat → Nat → Nat → Prop
  | intro {p q r s : List Char} {a b c d : Nat} :
    IsOctet p a → IsOctet q b → IsOctet r c → IsOctet s d →
      IsDotted (p ++ '.' :: (q ++ '.' :: (r ++ '.' :: s))) a b c d

/-- The text of an IPv4 address, and its number of 32 bits. -/
def IsV4 (cs : List Char) (value : Nat) : Prop :=
  ∃ a b c d, IsDotted cs a b c d ∧ Nat.ofDigits 256 [d, c, b, a] = value

/-- What stands last among groups: a group, or in a mixed text four octets for two groups. -/
inductive IsLast : Bool → List Char → List Nat → Prop
  | group {mixed : Bool} {cs : List Char} {g : Nat} : IsGroup cs g → IsLast mixed cs [g]
  | dotted {cs : List Char} {a b c d : Nat} :
    IsDotted cs a b c d → IsLast true cs [a * 256 + b, c * 256 + d]

inductive IsGroups (mixed : Bool) : List Char → List Nat → Prop
  | last {cs : List Char} {gs : List Nat} : IsLast mixed cs gs → IsGroups mixed cs gs
  | more {cs rest : List Char} {g : Nat} {gs : List Nat} :
    IsGroup cs g → IsGroups mixed rest gs → IsGroups mixed (cs ++ ':' :: rest) (g :: gs)

/-- One side of a double colon, where there may be no groups. -/
inductive IsSide (mixed : Bool) : List Char → List Nat → Prop
  | empty : IsSide mixed [] []
  | groups {cs : List Char} {gs : List Nat} : IsGroups mixed cs gs → IsSide mixed cs gs

/-- The eight groups of an IPv6 text. A double colon stands for at least one group of zero. -/
inductive HasGroups : List Char → List Nat → Prop
  | whole {cs : List Char} {gs : List Nat} : IsGroups true cs gs → gs.length = 8 → HasGroups cs gs
  | short {before after : List Char} {high low : List Nat} {zeros : Nat} :
    IsSide false before high → IsSide true after low → 1 ≤ zeros →
      high.length + zeros + low.length = 8 →
      HasGroups (before ++ ':' :: ':' :: after) (high ++ List.replicate zeros 0 ++ low)

/-- The text of an IPv6 address, and its number of 128 bits. -/
def IsV6 (cs : List Char) (value : Nat) : Prop :=
  ∃ gs, HasGroups cs gs ∧ Nat.ofDigits (2 ^ 16) gs.reverse = value

end Grammar

end Address

section Pieces

open Text (pieces)

variable {separator : Char} {a b cs : List Char}

theorem pieces_ne_nil (separator : Char) (cs : List Char) : pieces separator cs ≠ [] := by
  cases cs with
  | nil => exact List.cons_ne_nil _ _
  | cons c cs =>
    rw [pieces]
    split
    · exact List.cons_ne_nil _ _
    · split <;> exact List.cons_ne_nil _ _

theorem pieces_cons_of_ne {c : Char} (hc : c ≠ separator) {p : List Char} {ps : List (List Char)}
    (h : pieces separator cs = p :: ps) : pieces separator (c :: cs) = (c :: p) :: ps := by
  rw [pieces, if_neg hc, h]

theorem pieces_of_not_mem (h : separator ∉ cs) : pieces separator cs = [cs] := by
  induction cs with
  | nil => rfl
  | cons c cs ih =>
    rw [List.mem_cons, not_or] at h
    obtain ⟨hc, hcs⟩ := h
    exact pieces_cons_of_ne (Ne.symm hc) (ih hcs)

theorem pieces_append (h : separator ∉ a) :
    pieces separator (a ++ separator :: b) = a :: pieces separator b := by
  induction a with
  | nil => rw [List.nil_append, pieces, if_pos rfl]
  | cons c a ih =>
    rw [List.mem_cons, not_or] at h
    obtain ⟨hc, ha⟩ := h
    exact pieces_cons_of_ne (Ne.symm hc) (ih ha)

theorem pieces_cases (separator : Char) (cs : List Char) :
    separator ∉ cs ∧ pieces separator cs = [cs] ∨
      ∃ a b, separator ∉ a ∧ cs = a ++ separator :: b ∧
        pieces separator cs = a :: pieces separator b := by
  by_cases h : separator ∈ cs
  · obtain ⟨a, b, rfl, ha⟩ := List.eq_append_cons_of_mem h
    exact .inr ⟨a, b, ha, rfl, pieces_append ha⟩
  · exact .inl ⟨h, pieces_of_not_mem h⟩

theorem eq_of_pieces_eq_singleton {p : List Char} (h : pieces separator cs = [p]) : cs = p := by
  obtain ⟨-, hone⟩ | ⟨a, b, -, -, hmore⟩ := pieces_cases separator cs
  · rw [hone] at h
    exact (List.cons.inj h).1
  · rw [hmore] at h
    exact absurd (List.cons.inj h).2 (pieces_ne_nil separator b)

theorem eq_append_of_pieces_eq_cons {p q : List Char} {ps : List (List Char)}
    (h : pieces separator cs = p :: q :: ps) :
    ∃ b, cs = p ++ separator :: b ∧ pieces separator b = q :: ps := by
  obtain ⟨-, hone⟩ | ⟨a, b, -, hcs, hmore⟩ := pieces_cases separator cs
  · rw [hone] at h
    cases (List.cons.inj h).2
  · rw [hmore] at h
    obtain ⟨rfl, hb⟩ := List.cons.inj h
    exact ⟨b, hcs, hb⟩

end Pieces

namespace Address

open Text

variable {cs : List Char} {n : Nat}

section Numbers

theorem head?_digits {ds : List Nat} (h : List.Forall₂ (IsDigit 10) cs ds) :
    cs.head? = some '0' ↔ ds.head? = some 0 := by
  have hzero : ∀ d < 10, (Nat.digitChar d = '0' ↔ d = 0) ∧ (upperDigit d = '0' ↔ d = 0) := by
    decide
  cases h with
  | nil => simp
  | cons hdigit _ =>
    obtain ⟨hlt, rfl | rfl⟩ := hdigit
    · simp [(hzero _ hlt).1]
    · simp [(hzero _ hlt).2]

theorem ne_nil_digits {base : Nat} {ds : List Nat} (h : List.Forall₂ (IsDigit base) cs ds) :
    cs ≠ [] ↔ ds ≠ [] := by
  rw [← List.length_pos_iff, ← List.length_pos_iff, h.length_eq]

theorem octet?_eq_some : octet? cs = some n ↔ IsOctet cs n := by
  have hread : octet? cs = some n ↔ ∃ ds, List.Forall₂ (IsDigit 10) cs ds ∧
      (ds ≠ [] ∧ ds.length ≤ 3 ∧ (ds.head? = some 0 → ds.length = 1) ∧ number 10 ds < 256) ∧
      number 10 ds = n := by
    simp only [← mapM_eq_some_iff fun _ _ => decimalDigit?_eq_some]
    rw [octet?]
    cases cs.mapM decimalDigit? with
    | none => simp
    | some ds => simp
  rw [hread]
  constructor
  · rintro ⟨ds, hds, hcond, rfl⟩
    rw [← ne_nil_digits hds, ← head?_digits hds, ← hds.length_eq] at hcond
    obtain ⟨hne, hshort, hplain, hsmall⟩ := hcond
    exact ⟨⟨ds, hds, (number_eq_ofDigits 10 ds).symm⟩, hne, hshort, hplain, Nat.le_of_lt_succ hsmall⟩
  · rintro ⟨⟨ds, hds, hn⟩, hne, hshort, hplain, hsmall⟩
    rw [← number_eq_ofDigits] at hn
    refine ⟨ds, hds, ?_, hn⟩
    rw [← ne_nil_digits hds, ← head?_digits hds, ← hds.length_eq, hn]
    exact ⟨hne, hshort, hplain, Nat.lt_succ_of_le hsmall⟩

theorem group?_eq_some : group? cs = some n ↔ IsGroup cs n := by
  have hread : group? cs = some n ↔ ∃ ds, List.Forall₂ (IsDigit 16) cs ds ∧
      (ds ≠ [] ∧ ds.length ≤ 4) ∧ number 16 ds = n := by
    simp only [← mapM_eq_some_iff fun _ _ => hexDigit?_eq_some]
    rw [group?]
    cases cs.mapM hexDigit? with
    | none => simp
    | some ds => simp
  rw [hread]
  constructor
  · rintro ⟨ds, hds, hcond, rfl⟩
    rw [← ne_nil_digits hds, ← hds.length_eq] at hcond
    exact ⟨⟨ds, hds, (number_eq_ofDigits 16 ds).symm⟩, hcond.1, hcond.2⟩
  · rintro ⟨⟨ds, hds, hn⟩, hne, hshort⟩
    rw [← number_eq_ofDigits] at hn
    refine ⟨ds, hds, ?_, hn⟩
    rw [← ne_nil_digits hds, ← hds.length_eq]
    exact ⟨hne, hshort⟩

theorem not_mem_of_spells {base : Nat} (hbase : base ≤ 16) {separator : Char}
    (hsep : separator = '.' ∨ separator = ':') (h : Spells base cs n) : separator ∉ cs := by
  have hdigit : ∀ d < 16, Nat.digitChar d ≠ '.' ∧ Nat.digitChar d ≠ ':' ∧
      upperDigit d ≠ '.' ∧ upperDigit d ≠ ':' := by decide
  obtain ⟨ds, hds, -⟩ := h
  induction hds with
  | nil => exact List.not_mem_nil
  | cons hd _ ih =>
    obtain ⟨hlt, hc⟩ := hd
    have hne := hdigit _ (Nat.lt_of_lt_of_le hlt hbase)
    rw [List.mem_cons, not_or]
    refine ⟨?_, ih⟩
    rcases hsep with rfl | rfl <;> rcases hc with rfl | rfl
    · exact Ne.symm hne.1
    · exact Ne.symm hne.2.2.1
    · exact Ne.symm hne.2.1
    · exact Ne.symm hne.2.2.2

end Numbers

section Dotted

variable {a b c d v : Nat}

theorem mapM_octet?_iff :
    (pieces '.' cs).mapM octet? = some [a, b, c, d] ↔ IsDotted cs a b c d := by
  rw [mapM_eq_some_iff fun _ _ => octet?_eq_some]
  constructor
  · intro h
    generalize hpieces : pieces '.' cs = ps at h
    obtain _ | ⟨hp, _ | ⟨hq, _ | ⟨hr, _ | ⟨hs, _ | _⟩⟩⟩⟩ := h
    obtain ⟨afterFirst, rfl, hfirst⟩ := eq_append_of_pieces_eq_cons hpieces
    obtain ⟨afterSecond, rfl, hsecond⟩ := eq_append_of_pieces_eq_cons hfirst
    obtain ⟨afterThird, rfl, hthird⟩ := eq_append_of_pieces_eq_cons hsecond
    rw [eq_of_pieces_eq_singleton hthird]
    exact .intro hp hq hr hs
  · rintro ⟨hp, hq, hr, hs⟩
    have hfree : ∀ {cs n}, IsOctet cs n → '.' ∉ cs := fun h =>
      not_mem_of_spells (by decide) (.inl rfl) h.spells
    rw [pieces_append (hfree hp), pieces_append (hfree hq), pieces_append (hfree hr),
      pieces_of_not_mem (hfree hs)]
    exact .cons hp (.cons hq (.cons hr (.cons hs .nil)))

theorem v4Value?_eq_some :
    v4Value? cs = some v ↔ ∃ a b c d, IsDotted cs a b c d ∧ number 256 [a, b, c, d] = v := by
  simp only [← mapM_octet?_iff]
  rw [v4Value?]
  constructor
  · intro h
    split at h
    · next a b c d hread => exact ⟨a, b, c, d, hread, Option.some.inj h⟩
    · cases h
  · rintro ⟨a, b, c, d, hread, rfl⟩
    rw [hread]

theorem v4Value?_iff_isV4 : v4Value? cs = some v ↔ IsV4 cs v := by
  simp only [v4Value?_eq_some, number_eq_ofDigits]
  rfl

theorem IsDotted.separators (h : IsDotted cs a b c d) : '.' ∈ cs ∧ ':' ∉ cs := by
  obtain ⟨hp, hq, hr, hs⟩ := h
  have hfree : ∀ {cs n}, IsOctet cs n → ':' ∉ cs := fun h =>
    not_mem_of_spells (by decide) (.inr rfl) h.spells
  have hpoint : ':' ≠ '.' := by decide
  simp [hfree hp, hfree hq, hfree hr, hfree hs]

end Dotted

section Groups

variable {mixed : Bool} {gs : List Nat} {g : Nat}

theorem IsGroup.not_mem {separator : Char} (hsep : separator = '.' ∨ separator = ':')
    (h : IsGroup cs g) : separator ∉ cs :=
  not_mem_of_spells (Nat.le_refl 16) hsep h.spells

theorem IsLast.not_mem (h : IsLast mixed cs gs) : ':' ∉ cs := by
  cases h with
  | group hg => exact hg.not_mem (.inr rfl)
  | dotted hd => exact hd.separators.2

theorem isGroups_of_not_mem (h : ':' ∉ cs) : IsGroups mixed cs gs ↔ IsLast mixed cs gs := by
  refine ⟨fun hgs => ?_, .last⟩
  cases hgs with
  | last hlast => exact hlast
  | more => simp at h

theorem isGroups_append {a b : List Char} (ha : ':' ∉ a) :
    IsGroups mixed (a ++ ':' :: b) gs ↔
      ∃ g rest, IsGroup a g ∧ IsGroups mixed b rest ∧ g :: rest = gs := by
  constructor
  · intro h
    generalize hcs : a ++ ':' :: b = cs at h
    cases h with
    | last hlast => exact absurd (by simp [← hcs]) hlast.not_mem
    | @more a' b' g rest hg hrest =>
      have hsame : a :: pieces ':' b = a' :: pieces ':' b' := by
        rw [← pieces_append ha, hcs, pieces_append (hg.not_mem (.inr rfl))]
      obtain ⟨rfl, -⟩ := List.cons.inj hsame
      obtain rfl := (List.cons.inj (List.append_cancel_left hcs)).2
      exact ⟨g, rest, hg, hrest, rfl⟩
  · rintro ⟨g, rest, hg, hrest, rfl⟩
    exact .more hg hrest

/-- By induction on the length of the text: groups that are read one after the other, the last by a
reader of its own, are those between the colons. -/
theorem groups?_eq_some {groups? : List (List Char) → Option (List Nat)}
    (hone : ∀ p gs, groups? [p] = some gs ↔ IsLast mixed p gs)
    (hmore : ∀ p q ps, groups? (p :: q :: ps) = do return (← group? p) :: (← groups? (q :: ps))) :
    groups? (pieces ':' cs) = some gs ↔ IsGroups mixed cs gs := by
  induction hlength : cs.length using Nat.strongRecOn generalizing cs gs with
  | ind length ih =>
    obtain ⟨hfree, hpieces⟩ | ⟨a, b, ha, rfl, hpieces⟩ := pieces_cases ':' cs
    · rw [hpieces, hone, isGroups_of_not_mem hfree]
    · have hb : ∀ gs, groups? (pieces ':' b) = some gs ↔ IsGroups mixed b gs := fun gs =>
        ih b.length (by simp [← hlength]; omega) rfl
      obtain ⟨q, ps, hq⟩ := List.exists_cons_of_ne_nil (pieces_ne_nil ':' b)
      rw [hpieces, isGroups_append ha, hq, hmore, ← hq]
      simp only [Option.bind_eq_bind, Option.bind_eq_some_iff, Option.pure_def, Option.some.injEq,
        group?_eq_some, hb, exists_and_left]

theorem mapM_group?_iff : (pieces ':' cs).mapM group? = some gs ↔ IsGroups false cs gs := by
  refine groups?_eq_some (fun p gs => ?_) fun p q ps => ?_
  · have hone : [p].mapM group? = (group? p).map ([·]) := by cases h : group? p <;> simp [h]
    rw [hone, Option.map_eq_some_iff]
    simp only [group?_eq_some]
    constructor
    · rintro ⟨g, hg, rfl⟩
      exact .group hg
    · rintro ⟨hg⟩
      exact ⟨_, hg, rfl⟩
  · rw [List.mapM_cons]

theorem IsOctet.lt (h : IsOctet cs n) : n < 256 :=
  Nat.lt_succ_of_le h.small

theorem halves_octets {a b c d : Nat} (h : IsDotted cs a b c d) :
    [number 256 [a, b, c, d] / groupSize, number 256 [a, b, c, d] % groupSize] =
      [a * 256 + b, c * 256 + d] := by
  obtain ⟨-, -, hr, hs⟩ := h
  have hc := hr.lt
  have hd := hs.lt
  have hsize : groupSize = 65536 := rfl
  simp only [number, List.foldl_cons, List.foldl_nil, hsize, List.cons.injEq, and_true]
  omega

theorem closedGroups?_iff : closedGroups? (pieces ':' cs) = some gs ↔ IsGroups true cs gs := by
  refine groups?_eq_some (fun p gs => ?_) fun p q ps => ?_
  · rw [closedGroups?]
    constructor
    · intro h
      split at h
      · next v hv =>
        obtain ⟨a, b, c, d, hd, rfl⟩ := v4Value?_eq_some.1 hv
        rw [halves_octets hd] at h
        exact Option.some.inj h ▸ .dotted hd
      · obtain ⟨g, hg, rfl⟩ := Option.map_eq_some_iff.1 h
        exact .group (group?_eq_some.1 hg)
    · intro h
      cases h with
      | group hg =>
        -- a group has no points, so it is not read as an IPv4 text
        have hnone : v4Value? p = none := by
          rw [Option.eq_none_iff_forall_ne_some]
          intro v hv
          obtain ⟨a, b, c, d, hd, -⟩ := v4Value?_eq_some.1 hv
          exact hg.not_mem (.inl rfl) hd.separators.1
        rw [hnone, group?_eq_some.2 hg]
        rfl
      | dotted hd =>
        rw [v4Value?_eq_some.2 ⟨_, _, _, _, hd, rfl⟩]
        exact congrArg some (halves_octets hd)
  · rw [closedGroups?]

end Groups

section DoubleColon

variable {mixed : Bool} {gs high low : List Nat} {before after rest : List Char} {v : Nat}

theorem splitAtDouble_cons {c : Char} (h : c = ':' → rest.head? ≠ some ':') :
    splitAtDouble (c :: rest) = (splitAtDouble rest).map fun s => (c :: s.1, s.2) := by
  rw [splitAtDouble]
  rintro more rfl rfl
  exact h rfl rfl

theorem splitAtDouble_append (h : ':' ∉ cs) :
    splitAtDouble (cs ++ rest) = (splitAtDouble rest).map fun s => (cs ++ s.1, s.2) := by
  induction cs with
  | nil => simp
  | cons c cs ih =>
    rw [List.mem_cons, not_or] at h
    rw [List.cons_append, splitAtDouble_cons fun hc => absurd hc.symm h.1, ih h.2, Option.map_map]
    rfl

theorem eq_of_splitAtDouble (h : splitAtDouble cs = some (before, after)) :
    cs = before ++ ':' :: ':' :: after := by
  induction cs using splitAtDouble.induct generalizing before with
  | case1 rest =>
    rw [splitAtDouble] at h
    cases h
    rfl
  | case2 c rest hne ih =>
    rw [splitAtDouble] at h
    · obtain ⟨⟨b, a⟩, hsplit, heq⟩ := Option.map_eq_some_iff.1 h
      cases heq
      rw [ih hsplit]
      rfl
    · exact hne
  | case3 => cases h

theorem IsLast.exists_cons (h : IsLast mixed cs gs) : ∃ c cs', cs = c :: cs' ∧ c ≠ ':' := by
  have hne : cs ≠ [] := by
    cases h with
    | group hg => exact hg.nonempty
    | dotted hd => exact List.ne_nil_of_mem hd.separators.1
  obtain ⟨c, cs', rfl⟩ := List.exists_cons_of_ne_nil hne
  refine ⟨c, cs', rfl, ?_⟩
  rintro rfl
  exact h.not_mem List.mem_cons_self

theorem IsGroups.exists_cons (h : IsGroups mixed cs gs) : ∃ c cs', cs = c :: cs' ∧ c ≠ ':' := by
  cases h with
  | last hlast => exact hlast.exists_cons
  | more hg _ =>
    obtain ⟨c, cs', rfl, hc⟩ := (IsLast.group hg : IsLast mixed _ _).exists_cons
    exact ⟨c, _, rfl, hc⟩

/-- By induction on the groups: between them stand single colons only, so the double colon comes
behind them. -/
theorem IsGroups.splitAtDouble_append (h : IsGroups mixed cs gs) (rest : List Char) :
    splitAtDouble (cs ++ rest) = (splitAtDouble rest).map fun s => (cs ++ s.1, s.2) := by
  induction h with
  | last hlast => exact Address.splitAtDouble_append hlast.not_mem
  | @more cs more g gs hg hmore ih =>
    obtain ⟨c, cs', rfl, hc⟩ := hmore.exists_cons
    have hcolon : splitAtDouble (':' :: (c :: cs' ++ rest)) =
        (splitAtDouble (c :: cs' ++ rest)).map fun s => (':' :: s.1, s.2) :=
      splitAtDouble_cons fun _ => by simpa using hc
    rw [List.append_assoc, List.cons_append,
      Address.splitAtDouble_append (hg.not_mem (.inr rfl)), hcolon, ih, Option.map_map,
      Option.map_map]
    simp [Function.comp_def]

theorem IsGroups.splitAtDouble_eq_none (h : IsGroups mixed cs gs) : splitAtDouble cs = none := by
  have hend := h.splitAtDouble_append []
  rwa [List.append_nil] at hend

theorem IsSide.splitAtDouble_eq_some (h : IsSide mixed before high) :
    splitAtDouble (before ++ ':' :: ':' :: after) = some (before, after) := by
  cases h with
  | empty => rfl
  | groups hgs =>
    rw [hgs.splitAtDouble_append]
    simp [splitAtDouble]

theorem side?_eq_some {groups? : List (List Char) → Option (List Nat)}
    (h : groups? (pieces ':' cs) = some gs ↔ IsGroups mixed cs gs) :
    side? groups? cs = some gs ↔ IsSide mixed cs gs := by
  rw [side?]
  cases cs with
  | nil =>
    constructor
    · rintro ⟨⟩
      exact .empty
    · intro hside
      cases hside with
      | empty => rfl
      | groups hgs => obtain ⟨c, cs', hnil, -⟩ := hgs.exists_cons; cases hnil
  | cons c cs =>
    rw [if_neg (by simp), h]
    refine ⟨.groups, fun hside => ?_⟩
    cases hside with
    | groups hgs => exact hgs

theorem hasGroups_of_none (h : splitAtDouble cs = none) :
    HasGroups cs gs ↔ IsGroups true cs gs ∧ gs.length = 8 := by
  refine ⟨fun hgs => ?_, fun hgs => .whole hgs.1 hgs.2⟩
  cases hgs with
  | whole hgroups hlength => exact ⟨hgroups, hlength⟩
  | short hhigh =>
    rw [hhigh.splitAtDouble_eq_some] at h
    cases h

theorem hasGroups_of_some (h : splitAtDouble cs = some (before, after)) :
    HasGroups cs gs ↔ ∃ high low, IsSide false before high ∧ IsSide true after low ∧
      high.length + low.length < 8 ∧
      high ++ List.replicate (8 - high.length - low.length) 0 ++ low = gs := by
  constructor
  · intro hgs
    cases hgs with
    | whole hgroups =>
      rw [hgroups.splitAtDouble_eq_none] at h
      cases h
    | @short before' after' high low zeros hhigh hlow hpos hlength =>
      rw [hhigh.splitAtDouble_eq_some] at h
      cases h
      have hzeros : 8 - high.length - low.length = zeros := by omega
      exact ⟨high, low, hhigh, hlow, by omega, by rw [hzeros]⟩
  · rintro ⟨high, low, hhigh, hlow, hlt, rfl⟩
    rw [eq_of_splitAtDouble h]
    exact .short hhigh hlow (by omega) (by omega)

theorem v6Value?_iff_isV6 : v6Value? cs = some v ↔ IsV6 cs v := by
  have hread : v6Value? cs = some v ↔ ∃ gs, HasGroups cs gs ∧ number groupSize gs = v := by
    rw [v6Value?]
    cases hsplit : splitAtDouble cs with
    | none =>
      simp only [hasGroups_of_none hsplit, ← closedGroups?_iff]
      simp [Option.bind_eq_some_iff, and_assoc]
    | some sides =>
      obtain ⟨before, after⟩ := sides
      simp only [hasGroups_of_some hsplit, ← side?_eq_some mapM_group?_iff,
        ← side?_eq_some closedGroups?_iff]
      simp [Option.bind_eq_some_iff, and_assoc]
  rw [hread]
  simp only [number_eq_ofDigits]
  rfl

end DoubleColon

section Families

variable {gs : List Nat} {v : Nat} {s : String}

theorem HasGroups.colon_mem (h : HasGroups cs gs) : ':' ∈ cs := by
  cases h with
  | short => simp
  | whole hgroups hlength =>
    cases hgroups with
    | more => simp
    | last hlast => cases hlast <;> simp at hlength

theorem ofText?_eq_v4 : ofText? s = some (.v4 v) ↔ IsV4 s.toList v := by
  rw [ofText?, ← v4Value?_iff_isV4]
  cases v4Value? s.toList with
  | some a => simp
  | none => simp

theorem ofText?_eq_v6 : ofText? s = some (.v6 v) ↔ IsV6 s.toList v := by
  rw [ofText?]
  cases hv4 : v4Value? s.toList with
  | none => simp [v6Value?_iff_isV6]
  | some a =>
    obtain ⟨_, _, _, _, hdotted, -⟩ := v4Value?_eq_some.1 hv4
    simp only [Option.some.injEq, reduceCtorEq, false_iff]
    rintro ⟨gs, hgs, -⟩
    exact hdotted.separators.2 hgs.colon_mem

end Families

end Address

namespace Payload

open Address

theorem checkRange_iff_ordered {r : AddressRange} : r.check = .ok () ↔ r.toStored.Ordered := by
  refine ⟨ordered_toStored, fun h => ?_⟩
  obtain ⟨a, b, hfirst, hlast, hle⟩ | ⟨a, b, hfirst, hlast, hle⟩ := h <;>
    exact checkRange_eq_ok.2 ⟨_, _, hfirst, hlast, by simpa [notAfter] using hle⟩

/-- A range is accepted exactly when both ends are IPv4 texts or both are IPv6 texts, and the number
of the first is at most that of the last. -/
theorem check_accepts_ordered_texts (first last : String) :
    (⟨first, last⟩ : AddressRange).check = .ok () ↔
      (∃ a b, IsV4 first.toList a ∧ IsV4 last.toList b ∧ a ≤ b) ∨
        ∃ a b, IsV6 first.toList a ∧ IsV6 last.toList b ∧ a ≤ b := by
  simp only [checkRange_iff_ordered, NetworkPolicy.AddressRange.Ordered, ofText?_eq_v4,
    ofText?_eq_v6, AddressRange.toStored]

/-- An IPv4 address that is written as an IPv6 text is one of that family only. -/
example : (⟨"::ffff:10.0.0.1", "::ffff:a00:9"⟩ : AddressRange).check = .ok () ∧
    (⟨"::ffff:10.0.0.1", "10.0.0.9"⟩ : AddressRange).check =
      .error (.range "::ffff:10.0.0.1" "10.0.0.9") := by
  decide +kernel

end Payload

end NetworkPolicy
