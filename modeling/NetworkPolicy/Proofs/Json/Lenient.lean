import Mathlib.Data.List.Pairwise
import NetworkPolicy.Proofs.Json.Wellformed

namespace NetworkPolicy.Json

open Reader
open Text (Symbol)

/-- Which texts say a value. -/
abbrev Wording (α : Type) := α → List Char → Prop

/-- A member of the objects that say values of a type: its name, when it may be left out, and which
texts say it. -/
structure Member (σ : Type) where
  name : String
  Spare : σ → Prop
  wording : Wording σ

namespace Member

variable {σ α : Type}

/-- A member that may be left out when it has its usual value. -/
def usual (name : String) (wording : Wording α) (get : σ → α) (value : α) : Member σ where
  name := name
  Spare s := get s = value
  wording s := wording (get s)

/-- A member that is told just when it has a value. -/
def given (name : String) (wording : Wording α) (get : σ → Option α) : Member σ where
  name := name
  Spare s := get s = none
  wording s cs := ∃ a, get s = some a ∧ wording a cs

end Member

/-- The members that are due are told in any order, but for spare ones, and others of names that are
not known. -/
inductive Tells {σ : Type} (known : List String) (s : σ) : List (Member σ) → List (List Char) → Prop
  | nil {due : List (Member σ)} : (∀ m ∈ due, m.Spare s) → Tells known s due []
  | member (before : List (Member σ)) {after : List (Member σ)} {m : Member σ} {text : List Char}
    {texts : List (List Char)} : MemberText (m.wording s) m.name text →
    Tells known s (before ++ after) texts → Tells known s (before ++ m :: after) (text :: texts)
  | other {due : List (Member σ)} {name : String} {text : List Char} {texts : List (List Char)} :
    name ∉ known → MemberText WellFormed name text → Tells known s due texts →
      Tells known s due (text :: texts)

namespace Wording

variable {α σ : Type}

def text : Wording String :=
  Spelled

def name (toText : α → String) : Wording α := fun a =>
  Spelled (toText a)

def integer (toInt : α → Int) : Wording α := fun a cs =>
  cs = (Json.integer (toInt a)).compactChars

inductive list (wording : Wording α) : Wording (List α)
  | intro {as : List α} {texts : List (List Char)} {cs : List Char} :
    List.Forall₂ wording as texts → Parts ']' true texts cs → list wording as ('[' :: cs)

/-- An object of the members; they are all that is known. -/
inductive object (members : List (Member σ)) : Wording σ
  | intro {s : σ} {texts : List (List Char)} {cs : List Char} :
    Tells (members.map (·.name)) s members texts → Parts '\x7d' true texts cs →
      object members s ('\x7b' :: cs)

end Wording

/-- The codec reads what is said of `a` as `f a`. -/
structure Codec.ReadsAs {α β : Type} (c : Codec β) (wording : Wording α) (f : α → β) : Prop where
  reads {a : α} {cs : List Char} : wording a cs → c.read.ReadsText cs (f a)
  opens {a : α} {cs : List Char} : wording a cs → Opens cs

/-- The codec reads what is said of a value as the value. -/
abbrev Codec.Understands {α : Type} (c : Codec α) (wording : Wording α) : Prop :=
  c.ReadsAs wording id

section Values

variable {α : Type} {c : Codec α} {wording : Wording α}

theorem understands_text : Codec.text.Understands Wording.text where
  reads h := Codec.readsText_text h
  opens h := by
    obtain ⟨spelling, rfl⟩ := h.exists_cons
    exact ⟨_, _, rfl, rfl, by decide⟩

theorem understands_integer {name : String} {ofInt : Int → α} {toInt : α → Int}
    (h : (Codec.integer name ofInt toInt).Legible) :
    (Codec.integer name ofInt toInt).Understands (Wording.integer toInt) where
  reads {a _} hcs := h a _ (hcs ▸ laidOut_compactChars _)
  opens hcs := (hcs ▸ laidOut_compactChars _ : LaidOut _ _).opens

theorem understands_choice {names : List (String × α)} {name : α → String}
    (hnames : ∀ a, names.lookup (name a) = some a) :
    (Codec.choice names name).Understands (Wording.name name) where
  reads h := Codec.readsText_choice (hnames _) h
  opens h := understands_text.opens h

theorem understands_list (h : c.Understands wording) :
    (Codec.list c).Understands (Wording.list wording) where
  reads hcs := by
    cases hcs with
    | intro htexts hparts =>
      exact readsText_list (htexts.imp fun a text ht => ⟨h.reads ht, h.opens ht⟩) hparts
  opens hcs := by
    cases hcs with
    | intro => exact ⟨_, _, rfl, rfl, by decide⟩

end Values

section Records

variable {σ τ : Type}

/-- How a record comes by a member: the field that reads it, and the step that the field takes. -/
structure Turn (σ τ : Type) where
  member : Member σ
  field : Field τ
  step : τ → τ

namespace Turn

variable {s : σ} {t : τ} {a b : Turn σ τ} {turns before after : List (Turn σ τ)} {turn : Turn σ τ}

/-- It does not matter which of the two is first. -/
def Apart (a b : Turn σ τ) : Prop :=
  ∀ t, a.step (b.step t) = b.step (a.step t)

instance : Std.Symm (Apart : Turn σ τ → Turn σ τ → Prop) where
  symm _ _ h t := (h t).symm

/-- The field reads the member, and without the member it would make no difference. -/
structure Fits (turn : Turn σ τ) (s : σ) (t : τ) : Prop where
  key : turn.field.key = turn.member.name
  reads {cs : List Char} :
    turn.member.wording s cs → ∀ t, (turn.field.read t).ReadsText cs (turn.step t)
  spare : turn.member.Spare s → turn.field.optional = true ∧ turn.step t = t

theorem Fits.step (h : a.Fits s t) (hapart : a.Apart b) : a.Fits s (b.step t) where
  key := h.key
  reads := h.reads
  spare hspare := by
    obtain ⟨hoptional, hsame⟩ := h.spare hspare
    exact ⟨hoptional, by rw [hapart, hsame]⟩

def run (turns : List (Turn σ τ)) (t : τ) : τ :=
  turns.foldl (fun t turn => turn.step t) t

/-- A turn that comes later may as well come first. -/
theorem run_append_cons
    (h : ∀ a ∈ before ++ turn :: after, ∀ b ∈ before ++ turn :: after, a.Apart b) (t : τ) :
    run (before ++ turn :: after) t = run (before ++ after) (turn.step t) :=
  List.perm_middle.foldl_eq' (fun a ha b hb t => h b hb a ha t) t

theorem run_of_fixed (h : ∀ turn ∈ turns, turn.step t = t) : run turns t = t := by
  induction turns with
  | nil => rfl
  | cons turn turns ih =>
    obtain ⟨hturn, hturns⟩ := List.forall_mem_cons.1 h
    show run turns (turn.step t) = t
    rw [hturn, ih hturns]

/-- The turns that are left when the keys in `seen` are read and the record is `t`. -/
structure Due (r : Record τ) (s : σ) (seen : List String) (t : τ) (turns : List (Turn σ τ)) :
    Prop where
  fits : ∀ turn ∈ turns, turn.Fits s t
  apart : ∀ a ∈ turns, ∀ b ∈ turns, a.Apart b
  fields : ∀ turn ∈ turns, turn.field ∈ r.fields
  unseen : ∀ turn ∈ turns, turn.field.key ∉ seen
  distinct : (turns.map (·.field.key)).Nodup
  covered : ∀ f ∈ r.fields, f.key ∈ seen ∨ ∃ turn ∈ turns, turn.field = f

variable {r : Record τ} {seen : List String}

/-- One of them is taken, wherever it stands, and the others are still due. -/
theorem Due.read (h : Due r s seen t (before ++ turn :: after)) :
    Due r s (turn.field.key :: seen) (turn.step t) (before ++ after) := by
  have hsub : (before ++ after).Sublist (before ++ turn :: after) :=
    (List.sublist_cons_self turn after).append_left before
  have hturn : turn ∈ before ++ turn :: after := List.mem_append_right before List.mem_cons_self
  constructor
  case fits =>
    intro other hother
    have hother := hsub.subset hother
    exact (h.fits other hother).step (h.apart other hother turn hturn)
  case apart => exact fun a ha b hb => h.apart a (hsub.subset ha) b (hsub.subset hb)
  case fields => exact fun other hother => h.fields other (hsub.subset hother)
  case unseen =>
    intro other hother hseen
    rcases List.mem_cons.1 hseen with hkey | hseen
    · have hnodup := h.distinct
      rw [List.map_append, List.map_cons, List.nodup_middle, List.nodup_cons, ← List.map_append]
        at hnodup
      exact hnodup.1 (hkey ▸ List.mem_map_of_mem hother)
    · exact h.unseen other (hsub.subset hother) hseen
  case distinct => exact h.distinct.sublist (hsub.map _)
  case covered =>
    intro f hf
    rcases h.covered f hf with hseen | ⟨other, hother, rfl⟩
    · exact .inl (List.mem_cons_of_mem _ hseen)
    · rcases List.mem_cons.1 (List.perm_middle.mem_iff.1 hother) with rfl | hother
      · exact .inl List.mem_cons_self
      · exact .inr ⟨other, hother, rfl⟩

theorem Due.all_spare (h : Due r s seen t turns) (hspare : ∀ turn ∈ turns, turn.member.Spare s) :
    (∀ f ∈ r.fields, f.optional = false → f.key ∈ seen) ∧ run turns t = t := by
  have hfixed turn (hturn : turn ∈ turns) := (h.fits turn hturn).spare (hspare turn hturn)
  refine ⟨fun f hf hrequired => ?_, run_of_fixed fun turn hturn => (hfixed turn hturn).2⟩
  rcases h.covered f hf with hseen | ⟨turn, hturn, rfl⟩
  · exact hseen
  · rw [(hfixed turn hturn).1] at hrequired
    cases hrequired

end Turn

section Reading

variable {r : Record τ} {s : σ} {t t' : τ} {first : Bool} {seen : List String} {fuel : Nat}
  {before after text more : List Char} {rest : List Symbol}

theorem takes_members_other {name : String} (hname : name ∉ r.fields.map (·.key))
    (hbefore : Blank before) (hafter : Blank after) (htext : MemberText WellFormed name text)
    (hends : Ends (more.map .char ++ rest))
    (hmore : (r.members fuel false seen t).Takes more rest t') :
    (r.members (fuel + 1) first seen t).Takes
      (before ++ (separator first ++ after) ++ (text ++ more)) rest t' := by
  have hnone : (r.fields.find? (·.key = name)) = none := by
    rw [List.find?_eq_none]
    intro f hf hkey
    exact hname (List.mem_map.2 ⟨f, hf, by simpa using hkey⟩)
  cases htext with
  | intro hkey hcolon hgap hcs =>
    obtain ⟨spelling, rfl⟩ := hkey.exists_cons
    have hskip := takes_skipValue hcs hgap hends
    rw [Record.members, List.append_assoc (_ :: _), List.append_assoc (_ ++ [':']), List.cons_append]
    refine Takes.bind (takes_nextKey hbefore hafter rfl) ?_
    rw [if_pos rfl]
    refine takes_advance_bind (Takes.bind (takes_text hkey _) ?_)
    rw [hnone]
    exact (takes_colon hcolon).bind (hskip.bind hmore)

/-- By induction on how the members are told: each that is due takes its turn, and at the brace only
spare ones are left. -/
theorem takes_members_told (hkeys : (r.fields.map (·.key)).Nodup) {due : List (Member σ)}
    {texts : List (List Char)} (htold : Tells (r.fields.map (·.key)) s due texts)
    {turns : List (Turn σ τ)} (hmembers : turns.map (·.member) = due) (hdue : Turn.Due r s seen t turns)
    {cs : List Char} (hcs : Parts '\x7d' first texts cs) (hfuel : texts.length < fuel) :
    (r.members fuel first seen t).Takes cs rest (Turn.run turns t) := by
  obtain ⟨fuel, rfl⟩ := Nat.exists_eq_succ_of_ne_zero (Nat.ne_of_gt (Nat.zero_lt_of_lt hfuel))
  induction htold generalizing turns cs seen t fuel first with
  | nil hspare =>
    subst hmembers
    obtain ⟨hrequired, hrun⟩ := hdue.all_spare (List.forall_mem_map.1 hspare)
    rw [hrun]
    cases hcs with
    | nil hbefore => exact takes_members_end hrequired hbefore
  | member _ htext _ ih =>
    obtain ⟨before, rest', rfl, rfl, hrest⟩ := List.map_eq_append_iff.1 hmembers
    obtain ⟨turn, after, rfl, rfl, rfl⟩ := List.map_eq_cons_iff.1 hrest
    obtain ⟨fuel, rfl⟩ := Nat.exists_eq_succ_of_ne_zero
      (Nat.ne_of_gt (Nat.zero_lt_of_lt (Nat.lt_of_succ_lt_succ hfuel)))
    have hturn : turn ∈ before ++ turn :: after := List.mem_append_right before List.mem_cons_self
    have hfits := hdue.fits turn hturn
    have hfound : (r.fields.find? (·.key = turn.field.key)) = some turn.field :=
      find?_eq_some_of_unique (hdue.fields turn hturn) (by simp) fun g hg hkey =>
        List.inj_on_of_nodup_map hkeys hg (hdue.fields turn hturn) (by simpa using hkey)
    rw [Turn.run_append_cons hdue.apart]
    cases hcs with
    | cons hbefore hafter hmore =>
      refine takes_members_cons hfound (hdue.unseen turn hturn)
        (fun cs hcs => hfits.reads hcs t) hbefore hafter (hfits.key ▸ htext)
        (hmore.ends (.inr rfl) rest) ?_
      exact ih List.map_append hdue.read hmore fuel (Nat.lt_of_succ_lt_succ hfuel)
  | other hname htext _ ih =>
    obtain ⟨fuel, rfl⟩ := Nat.exists_eq_succ_of_ne_zero
      (Nat.ne_of_gt (Nat.zero_lt_of_lt (Nat.lt_of_succ_lt_succ hfuel)))
    cases hcs with
    | cons hbefore hafter hmore =>
      exact takes_members_other hname hbefore hafter htext (hmore.ends (.inr rfl) rest)
        (ih hmembers hdue hmore fuel (Nat.lt_of_succ_lt_succ hfuel))

end Reading

namespace Turn

/-- Members and fields, one by one, and the turns that they make. -/
inductive Pairs (s : σ) (t : τ) : List (Member σ) → List (Field τ) → List (Turn σ τ) → Prop
  | nil : Pairs s t [] [] []
  | cons {m : Member σ} {f : Field τ} {step : τ → τ} {members : List (Member σ)}
    {fields : List (Field τ)} {turns : List (Turn σ τ)} : Fits ⟨m, f, step⟩ s t →
    Pairs s t members fields turns → Pairs s t (m :: members) (f :: fields) (⟨m, f, step⟩ :: turns)

variable {s : σ} {t : τ} {members : List (Member σ)} {fields : List (Field τ)}
  {turns : List (Turn σ τ)}

theorem Pairs.fits (h : Pairs s t members fields turns) : ∀ turn ∈ turns, turn.Fits s t := by
  induction h with
  | nil => simp
  | cons hfits _ ih => exact List.forall_mem_cons.2 ⟨hfits, ih⟩

theorem Pairs.map_member (h : Pairs s t members fields turns) : turns.map (·.member) = members := by
  induction h with
  | nil => rfl
  | cons _ _ ih => rw [List.map_cons, ih]

theorem Pairs.map_field (h : Pairs s t members fields turns) : turns.map (·.field) = fields := by
  induction h with
  | nil => rfl
  | cons _ _ ih => rw [List.map_cons, ih]

theorem Pairs.names (h : Pairs s t members fields turns) :
    members.map (·.name) = fields.map (·.key) := by
  rw [← h.map_member, ← h.map_field, List.map_map, List.map_map]
  exact List.map_congr_left fun turn hturn => (h.fits turn hturn).key.symm

theorem Pairs.due {r : Record τ} (h : Pairs s r.blank members r.fields turns)
    (hkeys : (r.fields.map (·.key)).Nodup) (hapart : turns.Pairwise Apart) :
    Due r s [] r.blank turns where
  fits := h.fits
  apart _ ha _ hb := List.Pairwise.forall_of_forall (fun _ _ _ => rfl) hapart ha hb
  fields _ hturn := h.map_field ▸ List.mem_map_of_mem hturn
  unseen _ _ := List.not_mem_nil
  distinct := by
    rw [← h.map_field, List.map_map] at hkeys
    exact hkeys
  covered _ hf := .inr (List.mem_map.1 (h.map_field ▸ hf))

section Fitting

variable {α β : Type} {c : Codec β} {wording : Wording α} {f : α → β} {name : String}
  {isEmpty : β → Bool} {get : σ → α} {given : σ → Option α} {get' : τ → β} {set : β → τ → τ}
  {value : α}

theorem fits_defaulted (hc : c.ReadsAs wording f) (hblank : set (f value) t = t) :
    Fits ⟨.usual name wording get value, .defaulted name c get' set, set (f (get s))⟩ s t where
  key := rfl
  reads hcs _ := (hc.reads hcs).map
  spare hspare := by
    obtain rfl : get s = value := hspare
    exact ⟨rfl, hblank⟩

theorem fits_sparse (hc : c.ReadsAs wording f) (hblank : set (f value) t = t) :
    Fits ⟨.usual name wording get value, .sparse name c isEmpty get' set, set (f (get s))⟩ s t where
  key := rfl
  reads hcs _ := (hc.reads hcs).map
  spare hspare := by
    obtain rfl : get s = value := hspare
    exact ⟨rfl, hblank⟩

theorem fits_given (hc : c.ReadsAs wording f) (hsame : ∀ t, set (get' t) t = t) :
    Fits ⟨.given name wording given, .defaulted name c get' set,
      fun t => set (((given s).map f).getD (get' t)) t⟩ s t where
  key := rfl
  reads hcs _ := by
    obtain ⟨a, ha, hcs⟩ := hcs
    dsimp only
    rw [ha]
    exact (hc.reads hcs).map
  spare hspare := ⟨rfl, by
    dsimp only
    rw [show given s = none from hspare]
    exact hsame t⟩

end Fitting

end Turn

/-- A record reads what is said of a value when its keys differ, no two of its fields get in each
other's way, and all of them together make up what is said. -/
theorem Record.readsAs {r : Record τ} {members : List (Member σ)} {f : σ → τ}
    (hkeys : (r.fields.map (·.key)).Nodup)
    (h : ∀ s, ∃ turns, Turn.Pairs s r.blank members r.fields turns ∧ turns.Pairwise Turn.Apart ∧
      Turn.run turns r.blank = f s) : r.codec.ReadsAs (Wording.object members) f where
  reads {s _} hcs := by
    cases hcs with
    | @intro _ texts cs htold hparts =>
      intro before rest hbefore _
      obtain ⟨turns, hpairs, hapart, hwhole⟩ := h s
      have hfuel : texts.length < (cs.map Symbol.char ++ rest).length + 1 := by
        have hlength := hparts.length_le
        simp only [List.length_append, List.length_map]
        omega
      rw [hpairs.names] at htold
      refine takes_next hbefore rfl rfl (takes_advance_bind (takes_get fun p => ?_))
      rw [← hwhole]
      exact takes_members_told hkeys htold hpairs.map_member (hpairs.due hkeys hapart) hparts hfuel
  opens hcs := by
    cases hcs with
    | intro => exact ⟨_, _, rfl, rfl, by decide⟩

end Records

section Whole

variable {α β : Type} {c : Codec β} {wording : Wording α} {f : α → β} {a : α} {s : String}

/-- The whole text says the value, with blanks on both sides. -/
def Wording.Whole (wording : Wording α) (a : α) (s : String) : Prop :=
  ∃ before cs after, Blank before ∧ Blank after ∧ wording a cs ∧ s.toList = before ++ cs ++ after

theorem Codec.ReadsAs.parse (hc : c.ReadsAs wording f) (hs : wording.Whole a s) :
    c.parse s = .ok (f a) := by
  obtain ⟨before, cs, after, hbefore, hafter, hcs, hs⟩ := hs
  have hends : Ends (after.map Symbol.char) := by
    have hnil : Ends (([] : List Char).map Symbol.char ++ []) := ends_nil
    have hblanks := ends_blank_append hafter hnil
    rwa [List.append_nil, List.append_nil] at hblanks
  rw [Codec.parse, Text.symbolsOf, hs]
  exact (hc.reads hcs before _ hbefore hends).run_append hafter

theorem Codec.ReadsAs.parseBytes (hc : c.ReadsAs wording f) (hs : wording.Whole a s) :
    c.parseBytes s.toUTF8 = .ok (f a) := by
  rw [Codec.parseBytes, Text.symbols_toUTF8]
  exact hc.parse hs

end Whole

section Written

variable {α σ : Type} {c : Codec α} {wording : Wording α}

/-- What the codec writes of a value says the value, in every layout. -/
def Codec.Words (c : Codec α) (wording : Wording α) : Prop :=
  ∀ a cs, LaidOut (c.write a) cs → wording a cs

theorem words_text : Codec.text.Words Wording.text := by
  intro s cs hcs
  cases hcs
  rw [compactChars]
  exact spelled_quoted s

theorem words_integer {name : String} {ofInt : Int → α} {toInt : α → Int} :
    (Codec.integer name ofInt toInt).Words (Wording.integer toInt) := by
  intro a cs hcs
  cases hcs
  rfl

theorem words_list (h : c.Words wording) : (Codec.list c).Words (Wording.list wording) := by
  intro as cs hcs
  cases hcs with
  | array htexts hparts => exact .intro ((List.forall₂_map_left_iff.1 htexts).imp h) hparts

/-- The field writes the member, and leaves it out only where it is spare. -/
structure Member.WrittenBy (m : Member σ) (f : Field σ) (s : σ) : Prop where
  key : f.key = m.name
  spare : f.write s = none → m.Spare s
  words {j : Json} : f.write s = some j → ∀ cs, LaidOut j cs → m.wording s cs

section Fields

variable {name : String} {isEmpty : α → Bool} {get : σ → α} {set : α → σ → σ} {value : α} {s : σ}

theorem writtenBy_defaulted (h : c.Words wording) :
    (Member.usual name wording get value).WrittenBy (.defaulted name c get set) s where
  key := rfl
  spare hw := nomatch hw
  words hw := by
    obtain rfl := Option.some.inj hw
    exact h (get s)

theorem writtenBy_sparse (h : c.Words wording) (hempty : ∀ a, isEmpty a = true → a = value) :
    (Member.usual name wording get value).WrittenBy (.sparse name c isEmpty get set) s where
  key := rfl
  spare hw := hempty (get s) (by simpa [Field.sparse] using hw)
  words hw := by
    obtain ⟨-, rfl⟩ : isEmpty (get s) = false ∧ c.write (get s) = _ := by
      simpa [Field.sparse] using hw
    exact h (get s)

end Fields

/-- By induction on the fields: what is written tells the members in order, and those before that
are not written are spare. -/
theorem tells_written {known : List String} {s : σ} {members : List (Member σ)}
    {fields : List (Field σ)} (h : List.Forall₂ (fun m f => m.WrittenBy f s) members fields)
    {texts : List (List Char)} (htexts : List.Forall₂ MemberLaidOut (written fields s) texts)
    (spares : List (Member σ)) (hspares : ∀ m ∈ spares, m.Spare s) :
    Tells known s (spares ++ members) texts := by
  induction h generalizing texts spares with
  | nil =>
    cases htexts
    rw [List.append_nil]
    exact .nil hspares
  | @cons m f members fields hm _ ih =>
    cases hw : f.write s with
    | none =>
      rw [written_cons_none hw] at htexts
      have htold := ih htexts (spares ++ [m])
        (List.forall_mem_append.2 ⟨hspares, List.forall_mem_singleton.2 (hm.spare hw)⟩)
      rwa [List.append_assoc] at htold
    | some j =>
      rw [written_cons_some hw] at htexts
      cases htexts with
      | cons htext htexts =>
        have htold : MemberText (m.wording s) m.name _ :=
          hm.key ▸ MemberText.imp htext.memberText (hm.words hw)
        exact .member spares htold (ih htexts spares hspares)

theorem Record.words {r : Record σ} {members : List (Member σ)}
    (h : ∀ s, List.Forall₂ (fun m f => m.WrittenBy f s) members r.fields) :
    r.codec.Words (Wording.object members) := by
  intro s cs hcs
  cases hcs with
  | object htexts hparts =>
    exact .intro (tells_written (h s) htexts [] fun _ hm => nomatch hm) hparts

theorem Codec.Words.whole_print (h : c.Words wording) (a : α) : wording.Whole a (c.print a) :=
  ⟨[], _, [], blank_nil, blank_nil, h a _ (laidOut_compactChars _), by
    simp [Codec.print, compact]⟩

end Written

end NetworkPolicy.Json
