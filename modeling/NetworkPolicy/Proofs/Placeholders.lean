import Mathlib.Data.List.Chain
import NetworkPolicy.Proofs.Numbers
import NetworkPolicy.Sql.Dialect

namespace NetworkPolicy.Sql.Dialect

open Text

/-- How the count of `k` placeholders is written. -/
def counted (k : Nat) : List Char :=
  decimal (Int32.ofNat k).toInt

/-- Numbers the placeholders from `n + 1` on, each as `write` has it. -/
def numberedBy (write : Nat → List Char) (n : Nat) : List Char → List Char
  | [] => []
  | c :: rest =>
    if c = '?' then '$' :: write (n + 1) ++ numberedBy write (n + 1) rest
    else c :: numberedBy write n rest

/-- Each placeholder is replaced by a dollar sign and the number of those up to it, and all else
stays. -/
def replaced (write : Nat → List Char) (cs : List Char) : List Char :=
  (cs.mapIdx fun i c => if c = '?' then '$' :: write ((cs.take (i + 1)).count '?') else [c]).flatten

/-- Turns placeholders back that are numbered from `n + 1` on. -/
def restored (write : Nat → List Char) (n : Nat) : List Char → List Char
  | [] => []
  | c :: rest =>
    if c = '$' ∧ write (n + 1) <+: rest then
      '?' :: restored write (n + 1) (rest.drop (write (n + 1)).length)
    else c :: restored write n rest
termination_by cs => cs.length
decreasing_by
  · simp only [List.length_drop, List.length_cons]
    omega
  · exact Nat.lt_succ_self _

def doubleQuoted (query : List Char) : List Char :=
  query.map fun c => if c = '\x60' then '"' else c

def sign : Dialect → Char
  | postgres => '$'
  | mysql | sqlite => '?'

def placeholder (d : Dialect) (k : Nat) : List Char :=
  match d with
  | postgres => '$' :: Nat.toDigits 10 k
  | mysql | sqlite => ['?']

/-- The placeholders of a text, with the digits that stand behind them. -/
def placeholders (sign : Char) : List Char → List (List Char)
  | [] => []
  | c :: rest =>
    if c = sign then (c :: rest.takeWhile Char.isDigit) :: placeholders sign rest
    else placeholders sign rest

/-- Free of the characters that are adapted, and of those that adapted ones become. -/
structure Plain (cs : List Char) : Prop where
  mark : '?' ∉ cs
  dollar : '$' ∉ cs
  quote : '"' ∉ cs
  backtick : '\x60' ∉ cs

theorem plain_iff (cs : List Char) :
    Plain cs ↔ '?' ∉ cs ∧ '$' ∉ cs ∧ '"' ∉ cs ∧ '\x60' ∉ cs :=
  ⟨fun h => ⟨h.mark, h.dollar, h.quote, h.backtick⟩,
    fun h => ⟨h.1, h.2.1, h.2.2.1, h.2.2.2⟩⟩

instance (cs : List Char) : Decidable (Plain cs) :=
  decidable_of_iff' _ (plain_iff cs)

/-- No digit stands behind a placeholder. -/
def Apart (cs : List Char) : Prop :=
  cs.IsChain fun a b => a = '?' → b.isDigit = false

variable {n : Nat} {c : Char} {cs front back : List Char} {columns : List String}

section Numbered
variable {write write' : Nat → List Char}

theorem numbered_eq_numberedBy (n : Nat) (cs : List Char) :
    numbered (Int32.ofNat n) cs = numberedBy counted n cs := by
  induction cs generalizing n with
  | nil => rfl
  | cons c rest ih =>
    have hnext : Int32.ofNat n + 1 = Int32.ofNat (n + 1) := (Int32.ofNat_add n 1).symm
    rw [numbered, numberedBy, hnext, ih, ih]
    rfl

theorem counted_of_lt {k : Nat} (hk : k < 2 ^ 31) : counted k = Nat.toDigits 10 k := by
  rw [counted, Int32.toInt_ofNat_of_lt hk, decimal, if_neg (by omega), Int.natAbs_natCast,
    List.nil_append]

theorem not_mem_toDigits (hc : c.isDigit = false) : c ∉ Nat.toDigits 10 n := by
  intro hmem
  rw [Nat.isDigit_of_mem_toDigits (by decide) (by decide) hmem] at hc
  cases hc

theorem not_mem_decimal (n : Int) : '$' ∉ decimal n := by
  refine List.not_mem_append ?_ (not_mem_toDigits (by decide))
  split <;> decide

theorem numberedBy_congr (h : ∀ k, n < k → k ≤ n + cs.count '?' → write k = write' k) :
    numberedBy write n cs = numberedBy write' n cs := by
  induction cs generalizing n with
  | nil => rfl
  | cons c rest ih =>
    rw [numberedBy, numberedBy]
    by_cases hc : c = '?'
    · rw [hc, List.count_cons_self] at h
      rw [if_pos hc, if_pos hc, h (n + 1) (by omega) (by omega)]
      rw [ih fun k hk hle => h k (by omega) (by omega)]
    · rw [List.count_cons_of_ne hc] at h
      rw [if_neg hc, if_neg hc, ih h]

theorem numberedBy_eq (write : Nat → List Char) (n : Nat) (cs : List Char) :
    numberedBy write n cs = (cs.mapIdx fun i c =>
      if c = '?' then '$' :: write (n + (cs.take (i + 1)).count '?') else [c]).flatten := by
  induction cs generalizing n with
  | nil => rfl
  | cons c rest ih =>
    rw [List.mapIdx_cons, List.flatten_cons, numberedBy]
    by_cases hc : c = '?'
    · subst hc
      simp [ih, Nat.add_assoc, Nat.add_comm 1]
    · simp [ih, hc]

theorem prepare_eq_numberedBy (query : String) :
    (prepare .postgres query).toList = numberedBy counted 0 query.toList := by
  rw [prepare, String.toList_ofList]
  exact numbered_eq_numberedBy 0 query.toList

theorem prepare_of_count_lt {query : String} (hquery : query.toList.count '?' < 2 ^ 31) :
    (prepare .postgres query).toList = numberedBy (Nat.toDigits 10) 0 query.toList := by
  rw [prepare_eq_numberedBy]
  exact numberedBy_congr fun k _ hk => counted_of_lt (by omega)

theorem numberedBy_append (write : Nat → List Char) (n : Nat) (front back : List Char) :
    numberedBy write n (front ++ back) =
      numberedBy write n front ++ numberedBy write (n + front.count '?') back := by
  induction front generalizing n with
  | nil => rfl
  | cons c rest ih =>
    rw [List.cons_append, numberedBy, numberedBy]
    by_cases hc : c = '?'
    · rw [if_pos hc, if_pos hc, ih, hc, List.count_cons_self, List.append_assoc, Nat.add_assoc n,
        Nat.add_comm 1]
    · rw [if_neg hc, if_neg hc, ih, List.count_cons_of_ne hc, List.cons_append]

theorem numberedBy_replicate (write : Nat → List Char) (k : Nat) :
    numberedBy write 0 (List.replicate (k + 1) '?') =
      numberedBy write 0 (List.replicate k '?') ++ '$' :: write (k + 1) := by
  rw [List.replicate_succ', numberedBy_append, List.count_replicate_self, Nat.zero_add]
  simp only [numberedBy, if_true, List.append_nil]

theorem replaced_eq_numberedBy (write : Nat → List Char) (cs : List Char) :
    replaced write cs = numberedBy write 0 cs := by
  simp only [numberedBy_eq, replaced, Nat.zero_add]

/-- By induction on the text, with the number that comes next. -/
theorem restored_numberedBy (hcs : '$' ∉ cs) :
    restored write n (numberedBy write n cs) = cs := by
  induction cs generalizing n with
  | nil => rw [numberedBy, restored]
  | cons c rest ih =>
    obtain ⟨hc, hrest⟩ := List.ne_and_not_mem_of_not_mem_cons hcs
    rw [numberedBy]
    by_cases hmark : c = '?'
    · rw [if_pos hmark, List.cons_append, restored, if_pos ⟨rfl, List.prefix_append _ _⟩,
        List.drop_left, ih hrest, hmark]
    · rw [if_neg hmark, restored, if_neg fun h => hc h.1.symm, ih hrest]

theorem prepare_injective {query other : String} (hquery : '$' ∉ query.toList)
    (hother : '$' ∉ other.toList) (h : prepare .postgres other = prepare .postgres query) :
    other = query := by
  have hprepared : numberedBy counted 0 other.toList = numberedBy counted 0 query.toList := by
    rw [← prepare_eq_numberedBy, ← prepare_eq_numberedBy, h]
  have hrestored := congrArg (restored counted 0) hprepared
  rw [restored_numberedBy hother, restored_numberedBy hquery] at hrestored
  exact String.toList_inj.1 hrestored

theorem placeholders_append {sign : Char} (hfront : sign ∉ front) :
    placeholders sign (front ++ back) = placeholders sign back := by
  induction front with
  | nil => rfl
  | cons c rest ih =>
    obtain ⟨hc, hrest⟩ := List.ne_and_not_mem_of_not_mem_cons hfront
    rw [List.cons_append, placeholders, if_neg (Ne.symm hc), ih hrest]

theorem takeWhile_isDigit (hfront : ∀ c ∈ front, c.isDigit = true)
    (hback : ∀ c ∈ back.head?, c.isDigit = false) :
    (front ++ back).takeWhile Char.isDigit = front := by
  rw [List.takeWhile_append_of_pos hfront]
  cases back with
  | nil => simp
  | cons c rest => simp [hback c rfl]

theorem head?_numberedBy (hcs : ∀ c ∈ cs.head?, c.isDigit = false) :
    ∀ c ∈ (numberedBy write n cs).head?, c.isDigit = false := by
  cases cs with
  | nil => exact hcs
  | cons c rest =>
    rw [numberedBy]
    split
    · rintro _ ⟨⟩
      decide
    · exact hcs

theorem length_placeholders_numberedBy (hwrite : ∀ k, '$' ∉ write k) (hcs : '$' ∉ cs) :
    (placeholders '$' (numberedBy write n cs)).length = cs.count '?' := by
  induction cs generalizing n with
  | nil => rfl
  | cons c rest ih =>
    obtain ⟨hc, hrest⟩ := List.ne_and_not_mem_of_not_mem_cons hcs
    rw [numberedBy]
    by_cases hmark : c = '?'
    · rw [if_pos hmark, List.cons_append, placeholders, if_pos rfl, List.length_cons,
        placeholders_append (hwrite _), ih hrest, hmark, List.count_cons_self]
    · rw [if_neg hmark, placeholders, if_neg (Ne.symm hc), ih hrest, List.count_cons_of_ne hmark]

theorem placeholders_numberedBy (hcs : '$' ∉ cs) (hapart : Apart cs) :
    placeholders '$' (numberedBy (Nat.toDigits 10) n cs) =
      (List.range' (n + 1) (cs.count '?')).map (placeholder .postgres) := by
  induction cs generalizing n with
  | nil => rfl
  | cons c rest ih =>
    obtain ⟨hc, hrest⟩ := List.ne_and_not_mem_of_not_mem_cons hcs
    obtain ⟨hnext, hapart⟩ := List.isChain_cons.1 hapart
    rw [numberedBy]
    by_cases hmark : c = '?'
    · have hdigits : ∀ c ∈ Nat.toDigits 10 (n + 1), c.isDigit = true := fun c hc =>
        Nat.isDigit_of_mem_toDigits (by decide) (by decide) hc
      -- what follows the number is no digit, so the digits read are those of the number
      have hstop : ∀ d ∈ (numberedBy (Nat.toDigits 10) (n + 1) rest).head?, d.isDigit = false :=
        head?_numberedBy fun d hd => hnext d hd hmark
      rw [if_pos hmark, List.cons_append, placeholders, if_pos rfl, takeWhile_isDigit hdigits hstop,
        placeholders_append (not_mem_toDigits (by decide)), ih hrest hapart, hmark,
        List.count_cons_self, List.range'_succ, List.map_cons]
      rfl
    · rw [if_neg hmark, placeholders, if_neg (Ne.symm hc), ih hrest hapart,
        List.count_cons_of_ne hmark]

theorem placeholders_of_apart (hapart : Apart cs) :
    placeholders '?' cs = List.replicate (cs.count '?') ['?'] := by
  induction cs with
  | nil => rfl
  | cons c rest ih =>
    obtain ⟨hnext, hapart⟩ := List.isChain_cons.1 hapart
    rw [placeholders, ih hapart]
    by_cases hmark : c = '?'
    · have hstop : ([] ++ rest).takeWhile Char.isDigit = [] :=
        takeWhile_isDigit (fun _ h => nomatch h) fun d hd => hnext d hd hmark
      rw [List.nil_append] at hstop
      rw [if_pos hmark, hstop, hmark, List.count_cons_self, List.replicate_succ]
    · rw [if_neg hmark, List.count_cons_of_ne hmark]

end Numbered

section Backticked

theorem backticked_backticked (cs : List Char) : backticked (backticked cs) = backticked cs := by
  rw [backticked, backticked, List.map_map]
  refine List.map_congr_left fun c _ => ?_
  by_cases hc : c = '"' <;> simp [hc]

theorem backticked_eq_some (cs : List Char) (i : Nat) (c : Char) :
    (backticked cs)[i]? = some c ↔
      c ≠ '"' ∧ cs[i]? = some c ∨ c = '\x60' ∧ cs[i]? = some '"' := by
  rw [backticked, List.getElem?_map]
  cases cs[i]? with
  | none => simp
  | some d => by_cases hd : d = '"' <;> simp [hd] <;> grind

theorem count_backticked (cs : List Char) : (backticked cs).count '?' = cs.count '?' := by
  rw [backticked, List.count, List.countP_map]
  refine List.countP_congr fun c _ => ?_
  by_cases hc : c = '"' <;> simp [hc]

theorem doubleQuoted_backticked (hcs : '\x60' ∉ cs) : doubleQuoted (backticked cs) = cs := by
  rw [doubleQuoted, backticked, List.map_map]
  refine (List.map_congr_left fun c hc => ?_).trans (List.map_id cs)
  have hback : c ≠ '\x60' := fun h => hcs (h ▸ hc)
  by_cases hquote : c = '"' <;> simp [hquote, hback]

theorem backticked_of_not_mem (hcs : '"' ∉ cs) : backticked cs = cs := by
  refine (List.map_congr_left fun c hc => ?_).trans (List.map_id cs)
  have hquote : c ≠ '"' := fun h => hcs (h ▸ hc)
  exact if_neg hquote

end Backticked

section Insertion

def row (count : Nat) : List Char :=
  [',', ' '].intercalate (List.replicate count ['?'])

variable (count : Nat)

theorem row_succ_succ : row (count + 2) = '?' :: ',' :: ' ' :: row (count + 1) :=
  List.intercalate_cons_cons

theorem count_row : (row count).count '?' = count := by
  induction count with
  | zero => rfl
  | succ count ih =>
    cases count with
    | zero => rfl
    | succ count =>
      rw [row_succ_succ, List.count_cons_self, List.count_cons_of_ne (by decide),
        List.count_cons_of_ne (by decide), ih]

theorem not_mem_row (hc : c ∉ ['?', ',', ' ']) : c ∉ row count := by
  induction count with
  | zero => exact List.not_mem_nil
  | succ count ih =>
    cases count with
    | zero => exact fun h => hc (List.mem_cons.2 (.inl (List.mem_singleton.1 h)))
    | succ count =>
      rw [row_succ_succ]
      exact List.not_mem_append (s := ['?', ',', ' ']) hc ih

theorem Plain.append (hfront : Plain front) (hback : Plain back) : Plain (front ++ back) where
  mark := List.not_mem_append hfront.mark hback.mark
  dollar := List.not_mem_append hfront.dollar hback.dollar
  quote := List.not_mem_append hfront.quote hback.quote
  backtick := List.not_mem_append hfront.backtick hback.backtick

theorem Plain.intercalate {separator : List Char} {texts : List (List Char)}
    (hseparator : Plain separator) (htexts : ∀ text ∈ texts, Plain text) :
    Plain (separator.intercalate texts) := by
  induction texts with
  | nil => exact (by decide : Plain [])
  | cons text rest ih =>
    obtain ⟨htext, hrest⟩ := List.forall_mem_cons.1 htexts
    cases rest with
    | nil => rwa [List.intercalate_singleton]
    | cons next rest =>
      rw [List.intercalate_cons_cons]
      exact (htext.append hseparator).append (ih hrest)

theorem apart_append (hfront : '?' ∉ front) (hback : Apart back) : Apart (front ++ back) := by
  induction front with
  | nil => exact hback
  | cons c rest ih =>
    obtain ⟨hc, hrest⟩ := List.ne_and_not_mem_of_not_mem_cons hfront
    exact List.isChain_cons.2 ⟨fun _ _ hmark => absurd hmark.symm hc, ih hrest⟩

theorem apart_of_not_mem (hcs : '?' ∉ cs) : Apart cs := by
  rw [← List.append_nil cs]
  exact apart_append hcs .nil

theorem apart_row (hhead : ∀ c ∈ back.head?, c.isDigit = false) (hback : Apart back) :
    Apart (row count ++ back) := by
  induction count with
  | zero => exact hback
  | succ count ih =>
    cases count with
    | zero => exact List.isChain_cons.2 ⟨fun c hc _ => hhead c hc, hback⟩
    | succ count =>
      rw [row_succ_succ]
      have hseparated : Apart ([',', ' '] ++ (row (count + 1) ++ back)) :=
        apart_append (by decide) ih
      exact List.isChain_cons_cons.2 ⟨fun _ => by decide, hseparated⟩

def opening : Dialect → String
  | postgres => "INSERT INTO "
  | mysql => "INSERT IGNORE INTO "
  | sqlite => "INSERT OR IGNORE INTO "

def closing : Dialect → String
  | postgres => " ON CONFLICT DO NOTHING"
  | mysql | sqlite => ""

theorem plain_opening (d : Dialect) : Plain d.opening.toList := by
  cases d <;> decide

theorem plain_closing (d : Dialect) : Plain d.closing.toList := by
  cases d <;> decide

theorem insertIgnore_eq (d : Dialect) (table : String) (columns : List String) :
    d.insertIgnore table columns = d.opening ++ (table ++ " (" ++ ", ".intercalate columns ++
      ") VALUES (" ++ ", ".intercalate (columns.map fun _ => "?") ++ ")") ++ d.closing := by
  cases d with
  | postgres => rfl
  | mysql => exact String.append_empty.symm
  | sqlite => exact String.append_empty.symm

theorem exists_insertIgnore (d : Dialect) {table : String} (htable : Plain table.toList)
    (hcolumns : ∀ column ∈ columns, Plain column.toList) :
    ∃ front back, Plain front ∧ Plain back ∧ (∀ c ∈ back.head?, c.isDigit = false) ∧
      (d.insertIgnore table columns).toList = front ++ (row columns.length ++ back) := by
  have hnames : Plain (", ".intercalate columns).toList := by
    rw [String.toList_intercalate]
    exact Plain.intercalate (by decide) (List.forall_mem_map.2 hcolumns)
  have hrow : (", ".intercalate (columns.map fun _ => "?")).toList = row columns.length := by
    rw [List.map_const', String.toList_intercalate, List.map_replicate]
    rfl
  refine ⟨d.opening.toList ++ (table.toList ++ (" (".toList ++
      ((", ".intercalate columns).toList ++ ") VALUES (".toList))), ")".toList ++ d.closing.toList,
    ?_, Plain.append (by decide) d.plain_closing, ?_, ?_⟩
  · exact d.plain_opening.append (htable.append
      (Plain.append (by decide) (hnames.append (by decide))))
  · rintro _ ⟨⟩
    decide
  · rw [insertIgnore_eq]
    simp only [String.toList_append, hrow, List.append_assoc]

/-- A text with `count` question marks apart from digits, and with nothing else that is adapted. -/
structure Holds (count : Nat) (cs : List Char) : Prop where
  apart : Apart cs
  marks : cs.count '?' = count
  dollar : '$' ∉ cs
  quote : '"' ∉ cs

theorem holds_insertIgnore (d : Dialect) {table : String} (htable : Plain table.toList)
    (hcolumns : ∀ column ∈ columns, Plain column.toList) :
    Holds columns.length (d.insertIgnore table columns).toList := by
  obtain ⟨front, back, hfront, hback, hhead, htext⟩ := d.exists_insertIgnore htable hcolumns
  have hfree : ∀ c ∉ ['?', ',', ' '], c ∉ front → c ∉ back → c ∉ front ++ (row _ ++ back) :=
    fun c hc hcfront hcback =>
      List.not_mem_append hcfront (List.not_mem_append (not_mem_row columns.length hc) hcback)
  rw [htext]
  refine ⟨apart_append hfront.mark (apart_row _ hhead (apart_of_not_mem hback.mark)), ?_,
    hfree '$' (by decide) hfront.dollar hback.dollar,
    hfree '"' (by decide) hfront.quote hback.quote⟩
  rw [List.count_append, List.count_append, count_row, List.count_eq_zero.2 hfront.mark,
    List.count_eq_zero.2 hback.mark, Nat.zero_add, Nat.add_zero]

variable {count : Nat} {text : String}

theorem Holds.placeholders_mark (h : Holds count cs) :
    placeholders '?' cs = (List.range' 1 count).map fun _ => ['?'] := by
  rw [placeholders_of_apart h.apart, h.marks, List.map_const', List.length_range']

theorem Holds.toList_prepare_mysql (h : Holds count text.toList) :
    (prepare .mysql text).toList = text.toList := by
  rw [prepare, String.toList_ofList, backticked_of_not_mem h.quote]

theorem Holds.length_placeholders (h : Holds count text.toList) (d : Dialect) :
    (placeholders d.sign (d.prepare text).toList).length = count := by
  have hmarks : (placeholders '?' text.toList).length = count := by
    rw [h.placeholders_mark, List.length_map, List.length_range']
  cases d with
  | postgres =>
    rw [prepare_eq_numberedBy]
    exact (length_placeholders_numberedBy (fun _ => not_mem_decimal _) h.dollar).trans h.marks
  | mysql =>
    rw [h.toList_prepare_mysql]
    exact hmarks
  | sqlite => exact hmarks

theorem Holds.placeholders_prepare (h : Holds count text.toList) (d : Dialect)
    (hcount : d = .postgres → count < 2 ^ 31) :
    placeholders d.sign (d.prepare text).toList = (List.range' 1 count).map d.placeholder := by
  cases d with
  | postgres =>
    have hmarks := h.marks
    rw [prepare_of_count_lt (by rw [hmarks]; exact hcount rfl), sign,
      placeholders_numberedBy h.dollar h.apart, hmarks]
  | mysql =>
    rw [h.toList_prepare_mysql]
    exact h.placeholders_mark
  | sqlite => exact h.placeholders_mark

end Insertion

/-- What a dialect changes in a statement can be changed back, and no placeholder is lost. Numbers
fit as long as there are less than 2³¹ of them. -/
theorem prepared_statements_lose_nothing :
    -- the `k`-th question mark becomes a dollar sign with `k` behind it, and nothing else changes
    (∀ query : String, (prepare .postgres query).toList = replaced counted query.toList ∧
      (query.toList.count '?' < 2 ^ 31 →
        (prepare .postgres query).toList = replaced (Nat.toDigits 10) query.toList)) ∧
    -- this can be turned back, whatever digits stand behind a placeholder
    (∀ query : String, '$' ∉ query.toList →
      (query.toList.count '?' < 2 ^ 31 →
        restored (Nat.toDigits 10) 0 (prepare .postgres query).toList = query.toList) ∧
      ∀ other : String, '$' ∉ other.toList → prepare .postgres other = prepare .postgres query →
        other = query) ∧
    -- exactly the double quotes become backticks, so question marks stay where they are
    (∀ query : String, prepare .mysql (prepare .mysql query) = prepare .mysql query ∧
      (prepare .mysql query).toList.count '?' = query.toList.count '?' ∧
      (∀ i : Nat, (prepare .mysql query).toList[i]? = some '?' ↔ query.toList[i]? = some '?') ∧
      (∀ (i : Nat) (c : Char), (prepare .mysql query).toList[i]? = some c ↔
        c ≠ '"' ∧ query.toList[i]? = some c ∨ c = '\x60' ∧ query.toList[i]? = some '"') ∧
      ('\x60' ∉ query.toList → doubleQuoted (prepare .mysql query).toList = query.toList)) ∧
    -- an insertion has a placeholder a column, in order
    ∀ (d : Dialect) (table : String) (columns : List String),
      Plain table.toList → (∀ column ∈ columns, Plain column.toList) →
      (placeholders d.sign (d.prepare (d.insertIgnore table columns)).toList).length =
        columns.length ∧
      ((d = .postgres → columns.length < 2 ^ 31) →
        placeholders d.sign (d.prepare (d.insertIgnore table columns)).toList =
          (List.range' 1 columns.length).map d.placeholder) := by
  refine ⟨fun query => ⟨?_, fun hcount => ?_⟩, fun query hquery => ⟨fun hcount => ?_,
    fun other hother => prepare_injective hquery hother⟩, fun query => ?_,
    fun d table columns htable hcolumns => ?_⟩
  · rw [prepare_eq_numberedBy, replaced_eq_numberedBy]
  · rw [prepare_of_count_lt hcount, replaced_eq_numberedBy]
  · rw [prepare_of_count_lt hcount, restored_numberedBy hquery]
  · simp only [prepare, String.toList_ofList, backticked_backticked, count_backticked]
    refine ⟨trivial, trivial, fun i => ?_, backticked_eq_some _, doubleQuoted_backticked⟩
    simp [backticked_eq_some]
  · have h := d.holds_insertIgnore htable hcolumns
    exact ⟨h.length_placeholders d, h.placeholders_prepare d⟩

/-- Digits may stand behind placeholders in a query, but not in an insertion. -/
theorem prepared_statements_lose_nothing_before_digits :
    '$' ∉ "LIMIT ?0".toList ∧ '$' ∉ "LIMIT ?".toList ∧ '\x60' ∉ "\"groups\" = ?".toList ∧
      "LIMIT ?0".toList.count '?' < 2 ^ 31 ∧
      (prepare .postgres "LIMIT ?0").toList = replaced (Nat.toDigits 10) "LIMIT ?0".toList ∧
      restored (Nat.toDigits 10) 0 (prepare .postgres "LIMIT ?0").toList = "LIMIT ?0".toList ∧
      prepare .postgres "LIMIT ?" ≠ prepare .postgres "LIMIT ?0" ∧
      doubleQuoted (prepare .mysql "\"groups\" = ?").toList = "\"groups\" = ?".toList ∧
      Plain "policies".toList ∧ (∀ column ∈ ["group_id", "destination_id"], Plain column.toList) ∧
      ["group_id", "destination_id"].length < 2 ^ 31 ∧
      placeholders '$' (prepare .postgres
        (insertIgnore .postgres "policies" ["group_id", "destination_id"])).toList =
          ["$1".toList, "$2".toList] := by
  obtain ⟨hnumbered, hrestored, hquoted, hinsertion⟩ := prepared_statements_lose_nothing
  have htable : Plain "policies".toList := by decide
  have hcolumns : ∀ column ∈ ["group_id", "destination_id"], Plain column.toList := by decide
  obtain ⟨hback, hinjective⟩ := hrestored "LIMIT ?0" (by decide)
  refine ⟨by decide, by decide, by decide, by decide, (hnumbered _).2 (by decide),
    hback (by decide), ?_, (hquoted _).2.2.2.2 (by decide), htable, hcolumns, by decide,
    (hinsertion .postgres "policies" _ htable hcolumns).2 fun _ => by decide⟩
  intro h
  exact absurd (hinjective "LIMIT ?" (by decide) h) (by decide)

/-- The count is that of 32 bits, so the last of 2³¹ question marks gets a negative number. -/
theorem last_of_many_is_negative :
    let many := String.ofList (List.replicate (2 ^ 31) '?')
    (∃ front, (prepare .postgres many).toList = front ++ "$-2147483648".toList ∧
      replaced (Nat.toDigits 10) many.toList = front ++ "$2147483648".toList) ∧
    (prepare .postgres many).toList ≠ replaced (Nat.toDigits 10) many.toList := by
  have hcounted : counted (2 ^ 31) = "-2147483648".toList := by
    simp [counted, decimal, Nat.toDigits_of_base_le, Nat.toDigits_of_lt_base]
  have hdigits : Nat.toDigits 10 (2 ^ 31) = "2147483648".toList := by
    simp [Nat.toDigits_of_base_le, Nat.toDigits_of_lt_base]
  -- all numbers but the last one are the same
  obtain ⟨k, hk⟩ : ∃ k, 2 ^ 31 = k + 1 := ⟨2147483647, rfl⟩
  have hfront : numberedBy counted 0 (List.replicate k '?') =
      numberedBy (Nat.toDigits 10) 0 (List.replicate k '?') :=
    numberedBy_congr fun i _ hi => counted_of_lt (by rw [List.count_replicate_self] at hi; omega)
  intro many
  have hmany : many.toList = List.replicate (k + 1) '?' := by
    rw [← hk]
    exact String.toList_ofList
  rw [prepare_eq_numberedBy, replaced_eq_numberedBy, hmany, numberedBy_replicate,
    numberedBy_replicate, hfront, ← hk, hcounted, hdigits]
  exact ⟨⟨_, rfl, rfl⟩, fun h => absurd (List.append_cancel_left h) (by decide)⟩

end NetworkPolicy.Sql.Dialect
