import Mathlib.Algebra.Group.Int.Defs
import NetworkPolicy.Proofs.Json.Numerals
import NetworkPolicy.Proofs.Json.Texts
import NetworkPolicy.Proofs.Slots

namespace NetworkPolicy.Json

open Reader
open Text (Symbol)

section Layout

/-- The text begins with a character that is no blank and closes no list. -/
def Opens (chars : List Char) : Prop :=
  ∃ c cs, chars = c :: cs ∧ (Symbol.char c).isBlank = false ∧ c ≠ ']'

theorem isBlank_of_isDigit {c : Char} (hc : c.isDigit = true) : (Symbol.char c).isBlank = false := by
  have hblank : c ≠ ' ' ∧ c ≠ '\n' ∧ c ≠ '\t' ∧ c ≠ '\r' := by
    refine ⟨?_, ?_, ?_, ?_⟩ <;>
    · rintro rfl
      exact absurd hc (by decide)
  simp [Symbol.isBlank, hblank]

theorem toDigits_cons (n : Nat) : ∃ c cs, Nat.toDigits 10 n = c :: cs ∧ c.isDigit = true := by
  obtain ⟨c, cs, hcs⟩ := List.exists_cons_of_ne_nil (Nat.toDigits_ne_nil : Nat.toDigits 10 n ≠ [])
  exact ⟨c, cs, hcs, isDigit_of_mem_toDigits (hcs ▸ List.mem_cons_self)⟩

theorem LaidOut.opens {j : Json} {cs : List Char} (h : LaidOut j cs) : Opens cs := by
  cases h with
  | null => exact ⟨_, _, by rw [compactChars], rfl, by decide⟩
  | bool b => cases b <;> exact ⟨_, _, by rw [compactChars], rfl, by decide⟩
  | number n =>
    rw [compactChars, Number.chars]
    cases n.negative with
    | false =>
      obtain ⟨c, cs, hcs, hc⟩ := toDigits_cons n.whole
      refine ⟨c, _, by rw [hcs]; rfl, isBlank_of_isDigit hc, ?_⟩
      rintro rfl
      exact absurd hc (by decide)
    | true => exact ⟨'-', _, rfl, rfl, by decide⟩
  | text s => exact ⟨_, _, by rw [compactChars, quoted, List.cons_append], rfl, by decide⟩
  | array => exact ⟨_, _, rfl, rfl, by decide⟩
  | object => exact ⟨_, _, rfl, rfl, by decide⟩

theorem ends_blank_append {before cs : List Char} {rest : List Symbol} (hbefore : Blank before)
    (h : Ends (cs.map .char ++ rest)) : Ends ((before ++ cs).map .char ++ rest) := by
  cases before with
  | nil => exact h
  | cons c before =>
    refine ends_cons ?_
    have hblank := hbefore c List.mem_cons_self
    simp only [Symbol.isBlank, Bool.or_eq_true, decide_eq_true_eq] at hblank
    obtain ((rfl | rfl) | rfl) | rfl := hblank <;> decide

theorem Parts.ends {closing : Char} (hclosing : closing = ']' ∨ closing = '\x7d')
    {ps : List (List Char)} {cs : List Char} (h : Parts closing false ps cs) (rest : List Symbol) :
    Ends (cs.map .char ++ rest) := by
  cases h with
  | nil hbefore =>
    refine ends_blank_append hbefore (ends_cons ?_)
    rcases hclosing with rfl | rfl <;> decide
  | cons hbefore =>
    rw [List.append_assoc]
    exact ends_blank_append hbefore (ends_cons (by decide))

/-- The reader takes the text for `a`, with any blanks in front and whatever follows that does not
continue a number. -/
def Reader.ReadsText {α : Type} (r : Reader α) (cs : List Char) (a : α) : Prop :=
  ∀ before rest, Blank before → Ends rest → r.Takes (before ++ cs) rest a

theorem Reader.ReadsText.map {α β : Type} {r : Reader α} {cs : List Char} {a : α} {g : α → β}
    (h : r.ReadsText cs a) : (do return g (← r)).ReadsText cs (g a) :=
  fun before rest hbefore hrest => (h before rest hbefore hrest).map

/-- The reader takes the value for `a` in every layout. -/
def Reader.Reads {α : Type} (r : Reader α) (j : Json) (a : α) : Prop :=
  ∀ cs, LaidOut j cs → r.ReadsText cs a

theorem Reader.Reads.map {α β : Type} {r : Reader α} {j : Json} {a : α} {g : α → β}
    (h : r.Reads j a) : (do return g (← r)).Reads j (g a) :=
  fun cs hcs => (h cs hcs).map

end Layout

namespace Codec

variable {α : Type} {c : Codec α}

/-- What the codec writes it reads back, whatever follows that does not continue a number. -/
def Faithful (c : Codec α) : Prop :=
  ∀ a rest, Ends rest → c.read.Takes (c.write a).compactChars rest a

/-- What the codec writes it reads back in every layout. -/
def Legible (c : Codec α) : Prop :=
  ∀ a, c.read.Reads (c.write a) a

theorem Legible.faithful (hc : c.Legible) : c.Faithful :=
  fun a rest hrest => hc a _ (laidOut_compactChars _) [] rest blank_nil hrest

theorem readsText_text {s : String} {cs : List Char} (h : Spelled s cs) : text.read.ReadsText cs s := by
  intro before rest hbefore _
  have htaken {spelling : List Char} (h : Spelled s ('"' :: spelling)) := takes_text h rest
  cases h with
  | intro hchars => exact takes_next hbefore rfl rfl (takes_advance_bind (htaken (.intro hchars)))

theorem legible_text : text.Legible := by
  intro s cs hcs
  cases hcs
  rw [compactChars]
  exact readsText_text (spelled_quoted s)

theorem takes_accept (name : String) {ofInt : Int → α} {toInt : α → Int} {a : α}
    (hback : ofInt (toInt a) = a) (rest : List Symbol) :
    (integer.accept name ofInt toInt (.integer (toInt a))).Takes [] rest a := by
  rw [integer.accept, hback, if_pos rfl]
  exact takes_pure a rest

theorem legible_integer (name : String) {ofInt : Int → α} {toInt : α → Int}
    (hback : ∀ a, ofInt (toInt a) = a) (hfits : ∀ a, -(2 ^ 63) ≤ toInt a ∧ toInt a < 2 ^ 64) :
    (integer name ofInt toInt).Legible := by
  intro a cs hcs before rest hbefore hrest
  obtain ⟨hlow, hhigh⟩ := hfits a
  have haccept := takes_accept name (hback a) rest
  have hsize : (toInt a).natAbs < UInt64.size := by
    show (toInt a).natAbs < 2 ^ 64
    omega
  cases hcs
  show (next >>= _).Takes
    (before ++ Number.chars ⟨decide (toInt a < 0), (toInt a).natAbs, [], none⟩) rest a
  by_cases hneg : toInt a < 0
  · have hchars : Number.chars ⟨decide (toInt a < 0), (toInt a).natAbs, [], none⟩ =
        '-' :: (Nat.toDigits 10 (toInt a).natAbs ++ []) := by
      simp [Number.chars, hneg]
    have hsigned : signed true (toInt a).natAbs = toInt a := by
      show -((toInt a).natAbs : Int) = toInt a
      omega
    have hnumber := takes_number true hrest hsize fun _ => by
      show (toInt a).natAbs ≠ 0 ∧ (toInt a).natAbs ≤ 2 ^ 63
      omega
    rw [hsigned] at hnumber
    rw [hchars]
    exact takes_next hbefore rfl rfl (takes_advance_bind (hnumber.bind haccept))
  · have hchars : Number.chars ⟨decide (toInt a < 0), (toInt a).natAbs, [], none⟩ =
        Nat.toDigits 10 (toInt a).natAbs ++ [] := by
      simp [Number.chars, hneg]
    have hsigned : signed false (toInt a).natAbs = toInt a := by
      show ((toInt a).natAbs : Int) = toInt a
      omega
    have hnumber := takes_number false hrest hsize fun h => nomatch h
    obtain ⟨c, cs, hcs, hc⟩ := toDigits_cons (toInt a).natAbs
    rw [hsigned, hcs] at hnumber
    rw [hchars, hcs]
    refine takes_next hbefore rfl (isBlank_of_isDigit hc) ?_
    split
    · contradiction
    · next h =>
      cases h
      exact absurd hc (by decide)
    · next h =>
      cases h
      rw [digitOf_char hc, Option.isSome_some, if_pos rfl]
      exact hnumber.bind haccept

theorem readsText_choice {names : List (String × α)} {name : α → String} {a : α}
    (hname : names.lookup (name a) = some a) {cs : List Char} (h : Spelled (name a) cs) :
    (choice names name).read.ReadsText cs a := by
  intro before rest hbefore _
  have htaken {spelling : List Char} (h : Spelled (name a) ('"' :: spelling)) :
      (choice.named names).Takes (spelling ++ []) rest a := by
    refine Takes.bind (takes_text h _) ?_
    rw [hname]
    exact takes_pure a rest
  cases h with
  | intro hchars =>
    have hnamed := htaken (.intro hchars)
    rw [List.append_nil] at hnamed
    exact takes_next hbefore rfl rfl (takes_advance_bind hnamed)

theorem legible_choice {names : List (String × α)} {name : α → String}
    (hnames : ∀ a, names.lookup (name a) = some a) : (choice names name).Legible := by
  intro a cs hcs
  cases hcs
  rw [compactChars]
  exact readsText_choice (hnames a) (spelled_quoted (name a))

end Codec

section Items

variable {α : Type} {c : Codec α} {item : Reader α} {first : Bool} {before after : List Char}
  {rest : List Symbol} {s : Symbol}

theorem takes_nextItem (hbefore : Blank before) (hafter : Blank after) (hs : rest.head? = some s)
    (hblank : s.isBlank = false) (hs' : s ≠ .char ']') :
    (nextItem first).Takes (before ++ (separator first ++ after)) rest true := by
  cases first with
  | true =>
    have hblanks : Blank (before ++ after) := List.forall_mem_append.2 ⟨hbefore, hafter⟩
    refine takes_next_end hblanks hs hblank ?_
    split
    · contradiction
    · next h => exact absurd (Option.some.inj h) hs'
    · exact takes_pure _ _
  | false =>
    refine takes_next hbefore rfl rfl (takes_advance_bind (takes_next_end hafter hs hblank ?_))
    split
    · contradiction
    · next h => exact absurd (Option.some.inj h) hs'
    · exact takes_pure _ _

theorem takes_nextItem_end (hbefore : Blank before) :
    (nextItem first).Takes before (.char ']' :: rest) false :=
  takes_next_end hbefore rfl rfl (takes_pure _ _)

/-- By induction on the items: they are read one after the other, up to the bracket. -/
theorem takes_itemsFrom {as : List α} (read : List α) {texts : List (List Char)}
    (htexts : List.Forall₂ (fun a text => item.ReadsText text a ∧ Opens text) as texts)
    {cs : List Char} (hcs : Parts ']' read.isEmpty texts cs) {fuel : Nat}
    (hfuel : texts.length < fuel) :
    (itemsFrom item fuel read).Takes cs rest (read.reverse ++ as) := by
  obtain ⟨fuel, rfl⟩ := Nat.exists_eq_succ_of_ne_zero (Nat.ne_of_gt (Nat.zero_lt_of_lt hfuel))
  induction htexts generalizing read cs fuel with
  | nil =>
    cases hcs with
    | nil hbefore =>
      rw [itemsFrom, List.append_nil]
      exact Takes.bind (takes_nextItem_end hbefore) (takes_advance_bind (takes_pure _ _))
  | @cons a text as texts htext _ ih =>
    cases hcs with
    | @cons _ _ _ _ more _ hbefore hafter hmore =>
      obtain ⟨fuel, rfl⟩ := Nat.exists_eq_succ_of_ne_zero
        (Nat.ne_of_gt (Nat.zero_lt_of_lt (Nat.lt_of_succ_lt_succ hfuel)))
      have hread := ih (a :: read) hmore fuel (Nat.lt_of_succ_lt_succ hfuel)
      rw [List.reverse_cons, List.append_assoc] at hread
      have hitem := htext.1 [] _ blank_nil (hmore.ends (.inl rfl) rest)
      obtain ⟨d, ds, rfl, hblank, hne⟩ := htext.2
      have hhead : (((d :: ds) ++ more).map Symbol.char ++ rest).head? = some (.char d) := rfl
      rw [itemsFrom]
      exact Takes.bind
        (takes_nextItem hbefore hafter hhead hblank fun h => hne (Symbol.char.inj h))
        (hitem.bind hread)

theorem readsText_list {as : List α} {texts : List (List Char)} {cs : List Char}
    (htexts : List.Forall₂ (fun a text => c.read.ReadsText text a ∧ Opens text) as texts)
    (hcs : Parts ']' true texts cs) : (Codec.list c).read.ReadsText ('[' :: cs) as := by
  intro before rest hbefore _
  refine takes_next hbefore rfl rfl (takes_advance_bind (takes_get fun p => ?_))
  refine takes_itemsFrom [] htexts hcs ?_
  have hlength := hcs.length_le
  simp only [List.length_append, List.length_map]
  omega

theorem Codec.Legible.list (hc : c.Legible) : (Codec.list c).Legible := by
  intro as cs hcs
  cases hcs with
  | array htexts hparts =>
    refine readsText_list (List.Forall₂.imp ?_ (List.forall₂_map_left_iff.1 htexts)) hparts
    exact fun a text htext => ⟨hc a text htext, htext.opens⟩

end Items

section Members

variable {σ α : Type} {c : Codec α} {first : Bool} {before after : List Char} {rest : List Symbol}

inductive MemberText (value : List Char → Prop) (name : String) : List Char → Prop
  | intro {key before after cs : List Char} : Spelled name key → Blank before → Blank after →
    value cs → MemberText value name (key ++ (before ++ [':'] ++ (after ++ cs)))

theorem MemberText.imp {value value' : List Char → Prop} {name : String} {text : List Char}
    (h : MemberText value name text) (hvalue : ∀ cs, value cs → value' cs) :
    MemberText value' name text := by
  cases h with
  | intro hkey hbefore hafter hcs => exact .intro hkey hbefore hafter (hvalue _ hcs)

theorem MemberText.compact {value : List Char → Prop} {cs : List Char} (name : String)
    (h : value cs) : MemberText value name (quoted name ++ ([] ++ [':'] ++ ([] ++ cs))) :=
  .intro (spelled_quoted name) blank_nil blank_nil h

theorem MemberLaidOut.memberText {name : String} {j : Json} {text : List Char}
    (h : MemberLaidOut (name, j) text) : MemberText (LaidOut j) name text := by
  cases h with
  | intro hbefore hafter hcs => exact .intro (spelled_quoted name) hbefore hafter hcs

/-- Read after it was written from the value, in any layout, the field takes the step. Only an
optional one may be left out, and then there is no step. -/
def Field.Steps (f : Field σ) (s : σ) (step : σ → σ) : Prop :=
  match f.write s with
  | none => f.optional = true ∧ step = id
  | some j => ∀ s', (f.read s').Reads j (step s')

variable {key : String} {isEmpty : α → Bool} {get : σ → α} {set : α → σ → σ} {s : σ}

theorem steps_required (hc : c.Legible) :
    (Field.required key c get set).Steps s (set (get s)) :=
  fun _ => (hc (get s)).map

theorem steps_defaulted (hc : c.Legible) :
    (Field.defaulted key c get set).Steps s (set (get s)) :=
  fun _ => (hc (get s)).map

theorem steps_sparse (hc : c.Legible) :
    (Field.sparse key c isEmpty get set).Steps s
      (if isEmpty (get s) then id else set (get s)) := by
  unfold Field.Steps Field.sparse
  by_cases hempty : isEmpty (get s) = true
  · simp only [hempty, if_true]
    trivial
  · simp only [hempty]
    exact fun _ => (hc (get s)).map

theorem takes_nextKey (hbefore : Blank before) (hafter : Blank after)
    (hs : rest.head? = some (.char '"')) :
    (nextKey first).Takes (before ++ (separator first ++ after)) rest true := by
  cases first with
  | true =>
    have hblanks : Blank (before ++ after) := List.forall_mem_append.2 ⟨hbefore, hafter⟩
    exact takes_next_end hblanks hs rfl (takes_pure _ _)
  | false =>
    exact takes_next hbefore rfl rfl
      (takes_advance_bind (takes_next_end hafter hs rfl (takes_pure _ _)))

theorem takes_nextKey_end (hbefore : Blank before) :
    (nextKey first).Takes before (.char '\x7d' :: rest) false :=
  takes_next_end hbefore rfl rfl (takes_pure _ _)

def written (fields : List (Field σ)) (s : σ) : List (String × Json) :=
  fields.filterMap fun f => (f.write s).map (f.key, ·)

theorem written_cons_none {f : Field σ} (hw : f.write s = none) (fields : List (Field σ)) :
    written (f :: fields) s = written fields s := by
  simp [written, hw]

theorem written_cons_some {f : Field σ} {j : Json} (hw : f.write s = some j)
    (fields : List (Field σ)) : written (f :: fields) s = (f.key, j) :: written fields s := by
  simp [written, hw]

/-- The keys seen are of the fields that are done, and those of required fields are among them. -/
structure Seen (done : List (Field σ)) (seen : List String) : Prop where
  required : ∀ f ∈ done, f.optional = false → f.key ∈ seen
  done : ∀ k ∈ seen, k ∈ done.map (·.key)

namespace Seen

variable {done : List (Field σ)} {seen : List String} {f : Field σ}

theorem nil : Seen ([] : List (Field σ)) [] :=
  ⟨fun _ hf => (nomatch hf), fun _ hk => (nomatch hk)⟩

theorem skip (h : Seen done seen) (hf : f.optional = true) : Seen (done ++ [f]) seen where
  required g hg hrequired := by
    rcases List.mem_append.1 hg with hg | hg
    · exact h.required g hg hrequired
    · rw [List.mem_singleton.1 hg, hf] at hrequired
      cases hrequired
  done k hk := by
    rw [List.map_append]
    exact List.mem_append_left _ (h.done k hk)

theorem read (h : Seen done seen) (f : Field σ) : Seen (done ++ [f]) (f.key :: seen) where
  required g hg hrequired := by
    rcases List.mem_append.1 hg with hg | hg
    · exact List.mem_cons_of_mem _ (h.required g hg hrequired)
    · rw [List.mem_singleton.1 hg]
      exact List.mem_cons_self
  done k hk := by
    rw [List.map_append]
    rcases List.mem_cons.1 hk with rfl | hk
    · exact List.mem_append_right _ List.mem_cons_self
    · exact List.mem_append_left _ (h.done k hk)

end Seen

section Reading

variable {r : Record σ} {done : List (Field σ)} {seen : List String} {fuel : Nat} {s' s'' : σ}

theorem takes_members_end (hrequired : ∀ f ∈ r.fields, f.optional = false → f.key ∈ seen)
    (hbefore : Blank before) :
    (r.members (fuel + 1) first seen s').Takes (before ++ ['\x7d']) rest s' := by
  have hnone : (r.fields.find? fun f => !f.optional && f.key ∉ seen) = none := by
    rw [List.find?_eq_none]
    intro f hf
    cases hoptional : f.optional with
    | true => simp
    | false => simp [hrequired f hf hoptional]
  rw [Record.members]
  refine Takes.bind (takes_nextKey_end hbefore) ?_
  rw [if_neg (by decide), hnone]
  exact takes_advance_bind (takes_pure _ _)

theorem takes_members_cons {f : Field σ} {value : List Char → Prop} {text more : List Char}
    {s₁ : σ} (hfound : (r.fields.find? (·.key = f.key)) = some f) (hunseen : f.key ∉ seen)
    (hvalue : ∀ cs, value cs → (f.read s').ReadsText cs s₁)
    (hbefore : Blank before) (hafter : Blank after) (htext : MemberText value f.key text)
    (hends : Ends (more.map .char ++ rest))
    (hmore : (r.members fuel false (f.key :: seen) s₁).Takes more rest s'') :
    (r.members (fuel + 1) first seen s').Takes
      (before ++ (separator first ++ after) ++ (text ++ more)) rest s'' := by
  cases htext with
  | intro hkey hcolon hgap hcs =>
    obtain ⟨spelling, rfl⟩ := hkey.exists_cons
    have hread := hvalue _ hcs _ _ hgap hends
    rw [Record.members, List.append_assoc (_ :: _), List.append_assoc (_ ++ [':']), List.cons_append]
    refine Takes.bind (takes_nextKey hbefore hafter rfl) ?_
    rw [if_pos rfl]
    refine takes_advance_bind (Takes.bind (takes_text hkey _) ?_)
    rw [hfound]
    simp only [if_neg hunseen]
    exact (takes_colon hcolon).bind (hread.bind hmore)

/-- By induction on the fields that are left: the members are read one after the other, up to the
brace, and a field that was not written is not missed. -/
theorem takes_members (hkeys : (r.fields.map (·.key)).Nodup)
    {fields : List (Field σ)} {steps : List (σ → σ)}
    (hsteps : List.Forall₂ (fun f step => f.Steps s step) fields steps)
    {texts : List (List Char)} (htexts : List.Forall₂ MemberLaidOut (written fields s) texts)
    {cs : List Char} (hcs : Parts '\x7d' first texts cs) (hr : r.fields = done ++ fields)
    (hseen : Seen done seen) (hfuel : (written fields s).length < fuel) (s' : σ)
    (rest : List Symbol) :
    (r.members fuel first seen s').Takes cs rest (steps.foldl (fun s' step => step s') s') := by
  obtain ⟨fuel, rfl⟩ := Nat.exists_eq_succ_of_ne_zero (Nat.ne_of_gt (Nat.zero_lt_of_lt hfuel))
  induction hsteps generalizing texts cs done seen fuel s' first with
  | nil =>
    -- all fields are done, and every required one was seen
    rw [List.append_nil] at hr
    rw [← hr] at hseen
    cases htexts
    cases hcs with
    | nil hbefore => exact takes_members_end hseen.required hbefore
  | @cons f step fields steps hstep hsteps ih =>
    have hr' : r.fields = (done ++ [f]) ++ fields := by rw [hr, List.append_assoc]; rfl
    rw [List.foldl_cons]
    unfold Field.Steps at hstep
    cases hw : f.write s with
    | none =>
      rw [hw] at hstep
      -- nothing is written of the field, and it is not missed in the end
      obtain ⟨hoptional, rfl⟩ := hstep
      rw [written_cons_none hw] at htexts hfuel
      exact ih htexts hcs hr' (hseen.skip hoptional) s' fuel hfuel
    | some j =>
      rw [hw] at hstep
      rw [written_cons_some hw] at htexts hfuel
      obtain ⟨fuel, rfl⟩ := Nat.exists_eq_succ_of_ne_zero
        (Nat.ne_of_gt (Nat.zero_lt_of_lt (Nat.lt_of_succ_lt_succ hfuel)))
      have hf : f ∈ r.fields := by
        rw [hr]
        exact List.mem_append_right _ List.mem_cons_self
      have hfound : (r.fields.find? (·.key = f.key)) = some f :=
        find?_eq_some_of_unique hf (by simp) fun g hg hkey =>
          List.inj_on_of_nodup_map hkeys hg hf (by simpa using hkey)
      -- keys differ, so that of a later field was not seen before
      have hunseen : f.key ∉ seen := by
        intro hmem
        rw [hr, List.map_append, List.map_cons] at hkeys
        exact List.disjoint_of_nodup_append hkeys (hseen.done _ hmem) List.mem_cons_self
      cases htexts with
      | cons htext htexts =>
        cases hcs with
        | cons hbefore hafter hmore =>
          have hread := ih htexts hmore hr' (hseen.read f) (step s') fuel
            (Nat.lt_of_succ_lt_succ hfuel)
          exact takes_members_cons hfound hunseen (hstep s') hbefore hafter htext.memberText
            (hmore.ends (.inr rfl) rest) hread

end Reading

/-- A record is read back when its keys differ and its fields make up the whole value. -/
theorem Record.legible {r : Record σ} (hkeys : (r.fields.map (·.key)).Nodup)
    (h : ∀ s, ∃ steps, List.Forall₂ (fun f step => f.Steps s step) r.fields steps ∧
      steps.foldl (fun s' step => step s') r.blank = s) : r.codec.Legible := by
  intro s cs hcs before rest hbefore _
  obtain ⟨steps, hsteps, hwhole⟩ := h s
  cases hcs with
  | @object _ texts cs htexts hparts =>
    have hfuel : (written r.fields s).length < (cs.map Symbol.char ++ rest).length + 1 := by
      have hmembers : (written r.fields s).length = texts.length := htexts.length_eq
      have hlength := hparts.length_le
      simp only [List.length_append, List.length_map]
      omega
    refine takes_next hbefore rfl rfl (takes_advance_bind (takes_get fun p => ?_))
    have hread := takes_members hkeys hsteps htexts hparts rfl .nil hfuel r.blank rest
    rwa [hwhole] at hread

end Members

namespace Codec

variable {α : Type} {c : Codec α}

/-- What a faithful codec prints it parses, as text or as bytes. -/
theorem Faithful.parse_print (hc : c.Faithful) (a : α) : c.parse (c.print a) = .ok a := by
  rw [parse, print, compact, Text.symbolsOf, String.toList_ofList]
  exact (hc a [] ends_nil).run

theorem Faithful.parseBytes_print (hc : c.Faithful) (a : α) :
    c.parseBytes (c.print a).toUTF8 = .ok a := by
  rw [parseBytes, Text.symbols_toUTF8]
  exact hc.parse_print a

theorem Legible.parse (hc : c.Legible) {a : α} {s : String} (hs : LaidOut (c.write a) s.toList) :
    c.parse s = .ok a := by
  rw [Codec.parse, Text.symbolsOf]
  exact (hc a _ hs [] [] blank_nil ends_nil).run

end Codec

end NetworkPolicy.Json
