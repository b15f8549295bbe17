import Mathlib.Data.List.Forall2
import NetworkPolicy.Json.Value
import NetworkPolicy.Text.Symbol

namespace NetworkPolicy.Json

open Text (Symbol)

def Blank (cs : List Char) : Prop :=
  ∀ c ∈ cs, (Symbol.char c).isBlank = true

/-- The comma before what is not the first. -/
def separator (first : Bool) : List Char :=
  if first then [] else [',']

/-- Parts with a comma between two of them, and the bracket that closes them. -/
inductive Parts (closing : Char) : Bool → List (List Char) → List Char → Prop
  | nil {first : Bool} {before : List Char} : Blank before → Parts closing first [] (before ++ [closing])
  | cons {first : Bool} {before after p more : List Char} {ps : List (List Char)} :
    Blank before → Blank after → Parts closing false ps more →
      Parts closing first (p :: ps) (before ++ (separator first ++ after) ++ (p ++ more))

mutual

/-- The text is the value in some layout. -/
inductive LaidOut : Json → List Char → Prop
  | null : LaidOut .null (compactChars .null)
  | bool (b : Bool) : LaidOut (.bool b) (compactChars (.bool b))
  | number (n : Number) : LaidOut (.number n) (compactChars (.number n))
  | text (s : String) : LaidOut (.text s) (compactChars (.text s))
  | array {items : List Json} {texts : List (List Char)} {cs : List Char} :
    List.Forall₂ LaidOut items texts → Parts ']' true texts cs → LaidOut (.array items) ('[' :: cs)
  | object {members : List (String × Json)} {texts : List (List Char)} {cs : List Char} :
    List.Forall₂ MemberLaidOut members texts → Parts '\x7d' true texts cs →
      LaidOut (.object members) ('\x7b' :: cs)

inductive MemberLaidOut : String × Json → List Char → Prop
  | intro {key : String} {j : Json} {before after cs : List Char} :
    Blank before → Blank after → LaidOut j cs →
      MemberLaidOut (key, j) (quoted key ++ (before ++ [':'] ++ (after ++ cs)))

end

theorem Parts.length_le {closing : Char} {first : Bool} {ps : List (List Char)} {cs : List Char}
    (h : Parts closing first ps cs) : ps.length + (separator first).length ≤ cs.length := by
  induction h with
  | @nil first before =>
    cases first <;> simp [separator]
  | @cons first before after p more ps _ _ _ ih =>
    have hcomma : (separator false).length = 1 := rfl
    simp only [List.length_cons, List.length_append]
    omega

theorem Parts.length_pos {closing : Char} {first : Bool} {ps : List (List Char)} {cs : List Char}
    (h : Parts closing first ps cs) : 0 < cs.length := by
  cases h with
  | nil => simp
  | cons _ _ hmore =>
    have hcomma : (separator false).length = 1 := rfl
    have hrest := hmore.length_le
    simp only [List.length_append]
    omega

section Printed

variable {closing : Char} {gap before after : List Char}

theorem blank_nil : Blank [] :=
  fun _ hc => nomatch hc

theorem blank_newLine (level : Nat) : Blank (newLine level) := by
  intro c hc
  rcases List.mem_cons.1 hc with rfl | hc
  · rfl
  · rw [List.eq_of_mem_replicate hc]
    rfl

/-- By induction on the parts: joined by commas and blanks they are laid out behind the first. -/
theorem exists_parts_tail (closing : Char) (hgap : Blank gap) (hafter : Blank after) (p : List Char)
    (ps : List (List Char)) :
    ∃ more, Parts closing false ps more ∧
      List.intercalate (',' :: gap) (p :: ps) ++ (after ++ [closing]) = p ++ more := by
  induction ps generalizing p with
  | nil => exact ⟨_, .nil hafter, by rw [List.intercalate_singleton]⟩
  | cons q ps ih =>
    obtain ⟨more, hmore, hjoined⟩ := ih q
    refine ⟨_, .cons blank_nil hgap hmore, ?_⟩
    rw [List.intercalate_cons_cons, List.append_assoc, List.append_assoc, hjoined]
    rfl

theorem parts_intercalate (hbefore : Blank before) (hgap : Blank gap) (hafter : Blank after)
    (p : List Char) (ps : List (List Char)) :
    Parts closing true (p :: ps)
      (before ++ (List.intercalate (',' :: gap) (p :: ps) ++ (after ++ [closing]))) := by
  obtain ⟨more, hmore, hjoined⟩ := exists_parts_tail closing hgap hafter p ps
  rw [hjoined, ← List.append_nil before]
  exact .cons hbefore blank_nil hmore

theorem parts_compact (p : List Char) (ps : List (List Char)) :
    Parts closing true (p :: ps)
      ([] ++ (List.intercalate [','] (p :: ps) ++ ([] ++ [closing]))) :=
  parts_intercalate blank_nil blank_nil blank_nil p ps

/-- What holds of a value when it holds of its parts holds of every value. -/
theorem forall_of_parts {P : Json → Prop} (null : P .null) (bool : ∀ b, P (.bool b))
    (number : ∀ n, P (.number n)) (text : ∀ s, P (.text s))
    (array : ∀ items, (∀ j ∈ items, P j) → P (.array items))
    (object : ∀ members, (∀ m ∈ members, P m.2) → P (.object members)) (j : Json) : P j := by
  match j with
  | .null => exact null
  | .bool b => exact bool b
  | .number n => exact number n
  | .text s => exact text s
  | .array items => exact array items fun j hj =>
      forall_of_parts null bool number text array object j
  | .object members =>
    exact object members fun m hm => forall_of_parts null bool number text array object m.2
decreasing_by
  · have hlt := List.sizeOf_lt_of_mem hj
    simp only [Json.array.sizeOf_spec]
    omega
  · have hlt := List.sizeOf_lt_of_mem hm
    obtain ⟨key, value⟩ := m
    simp only [Json.object.sizeOf_spec, Prod.mk.sizeOf_spec] at hlt ⊢
    omega

theorem eq_intercalate {α : Type} {join : List α → List Char} {print : α → List Char}
    {between : List Char} (hnil : join [] = []) (hone : ∀ a, join [a] = print a)
    (hmore : ∀ a b rest, join (a :: b :: rest) = print a ++ (between ++ join (b :: rest)))
    (as : List α) : join as = List.intercalate between (as.map print) := by
  induction as with
  | nil => exact hnil
  | cons a rest ih =>
    cases rest with
    | nil => rw [hone, List.map_singleton, List.intercalate_singleton]
    | cons b rest =>
      rw [hmore, ih]
      simp only [List.map_cons, List.intercalate_cons_cons, List.append_assoc]

theorem compactItems_eq (items : List Json) :
    compactItems items = List.intercalate [','] (items.map compactChars) :=
  eq_intercalate (by rw [compactItems]) (fun j => by rw [compactItems])
    (fun j k rest => by rw [compactItems]; rfl) items

theorem compactMembers_eq (members : List (String × Json)) :
    compactMembers members =
      List.intercalate [','] (members.map fun m => quoted m.1 ++ ':' :: m.2.compactChars) :=
  eq_intercalate (by rw [compactMembers]) (fun m => by rw [compactMembers])
    (fun m k rest => by rw [compactMembers]; simp) members

theorem indentedItems_eq (level : Nat) (items : List Json) :
    indentedItems level items =
      List.intercalate (',' :: newLine level) (items.map (indentedChars level)) :=
  eq_intercalate (by rw [indentedItems]) (fun j => by rw [indentedItems])
    (fun j k rest => by rw [indentedItems, List.append_assoc]) items

theorem indentedMembers_eq (level : Nat) (members : List (String × Json)) :
    indentedMembers level members =
      List.intercalate (',' :: newLine level)
        (members.map fun m => quoted m.1 ++ ':' :: ' ' :: m.2.indentedChars level) :=
  eq_intercalate (by rw [indentedMembers]) (fun m => by rw [indentedMembers])
    (fun m k rest => by rw [indentedMembers]; simp) members

section Joined

variable {print : Json → List Char} (hbefore : Blank before) (hgap : Blank gap)
  (hafter : Blank after)
include hbefore hgap hafter

theorem laidOut_array {j : Json} {items : List Json} (h : ∀ k ∈ j :: items, LaidOut k (print k)) :
    LaidOut (.array (j :: items)) ('[' :: (before ++
      (List.intercalate (',' :: gap) ((j :: items).map print) ++ (after ++ [']'])))) :=
  .array (List.forall₂_map_right_iff.2 (List.forall₂_same.2 h))
    (parts_intercalate hbefore hgap hafter _ _)

theorem laidOut_object {colon : List Char} (hcolon : Blank colon) {m : String × Json}
    {members : List (String × Json)} (h : ∀ k ∈ m :: members, LaidOut k.2 (print k.2)) :
    LaidOut (.object (m :: members)) ('\x7b' :: (before ++
      (List.intercalate (',' :: gap)
        ((m :: members).map fun k => quoted k.1 ++ ':' :: (colon ++ print k.2)) ++
          (after ++ ['\x7d'])))) :=
  .object
    (List.forall₂_map_right_iff.2 (List.forall₂_same.2 fun k hk =>
      .intro blank_nil hcolon (h k hk)))
    (parts_intercalate hbefore hgap hafter _ _)

end Joined

theorem laidOut_compactChars (j : Json) : LaidOut j j.compactChars := by
  induction j using forall_of_parts with
  | null => exact .null
  | bool b => exact .bool b
  | number n => exact .number n
  | text s => exact .text s
  | array items ih =>
    rw [compactChars, compactItems_eq]
    cases items with
    | nil => exact .array .nil (.nil blank_nil)
    | cons j items => exact laidOut_array blank_nil blank_nil blank_nil ih
  | object members ih =>
    rw [compactChars, compactMembers_eq]
    cases members with
    | nil => exact .object .nil (.nil blank_nil)
    | cons m members => exact laidOut_object blank_nil blank_nil blank_nil blank_nil ih

theorem laidOut_indentedChars (j : Json) (level : Nat) : LaidOut j (j.indentedChars level) := by
  induction j using forall_of_parts generalizing level with
  | null => rw [indentedChars]; exact .null
  | bool b => rw [indentedChars]; exact .bool b
  | number n => rw [indentedChars]; exact .number n
  | text s => rw [indentedChars]; exact .text s
  | array items ih =>
    cases items with
    | nil => rw [indentedChars]; exact .array .nil (.nil blank_nil)
    | cons j items =>
      have harray := laidOut_array (blank_newLine (level + 1)) (blank_newLine (level + 1))
        (blank_newLine level) fun k hk => ih k hk (level + 1)
      rw [indentedChars, indentedItems_eq]
      simpa only [List.cons_append, List.append_assoc] using harray
  | object members ih =>
    cases members with
    | nil => rw [indentedChars]; exact .object .nil (.nil blank_nil)
    | cons m members =>
      have hspace : Blank [' '] := by simp [Blank, Symbol.isBlank]
      have hobject := laidOut_object (blank_newLine (level + 1)) (blank_newLine (level + 1))
        (blank_newLine level) hspace fun k hk => ih k hk (level + 1)
      rw [indentedChars, indentedMembers_eq]
      simpa only [List.cons_append, List.append_assoc, List.nil_append] using hobject

end Printed

end NetworkPolicy.Json
