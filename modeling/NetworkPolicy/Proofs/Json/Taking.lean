import NetworkPolicy.Json.Record
import NetworkPolicy.Proofs.Json.Layout

namespace NetworkPolicy.Json.Reader

open Text (Symbol)

variable {α β : Type} {a : α} {b : β} {r : Reader α} {f : α → Reader β} {front : List Char}
  {rest : List Symbol} {c : Char}

/-- The reader takes the characters in front of the rest, wherever they stand, and gives the
value. -/
def Takes (r : Reader α) (front : List Char) (rest : List Symbol) (a : α) : Prop :=
  ∀ p, ∃ p', r ⟨front.map .char ++ rest, p⟩ = .ok (a, ⟨rest, p'⟩)

theorem takes_pure (a : α) (rest : List Symbol) : (pure a : Reader α).Takes [] rest a :=
  fun p => ⟨p, rfl⟩

theorem Takes.bind {more : List Char} (h : r.Takes front (more.map .char ++ rest) a)
    (hf : (f a).Takes more rest b) : (r >>= f).Takes (front ++ more) rest b := by
  intro p
  obtain ⟨p', hr⟩ := h p
  obtain ⟨p'', hmore⟩ := hf p'
  refine ⟨p'', ?_⟩
  rw [List.map_append, List.append_assoc]
  show StateT.bind r f _ = _
  rw [StateT.bind, hr]
  exact hmore

theorem Takes.map {g : α → β} (h : r.Takes front rest a) :
    (do return g (← r)).Takes front rest (g a) := by
  have hg : (pure (g a) : Reader β).Takes [] rest (g a) := takes_pure _ _
  have hboth := Takes.bind (f := fun a => pure (g a)) h hg
  rwa [List.append_nil] at hboth

theorem takes_get {f : Cursor → Reader β}
    (h : ∀ p, (f ⟨front.map .char ++ rest, p⟩).Takes front rest b) :
    (get >>= f : Reader β).Takes front rest b :=
  fun p => h p p

theorem takes_advance : advance.Takes [c] rest () :=
  fun _ => ⟨_, rfl⟩

theorem takes_advance_bind {f : Unit → Reader β} (h : (f ()).Takes front rest b) :
    (advance >>= f).Takes (c :: front) rest b :=
  takes_advance.bind h

theorem takes_peek_head {f : Option Symbol → Reader β}
    (h : (f (front.map Symbol.char ++ rest).head?).Takes front rest b) :
    (peek >>= f).Takes front rest b :=
  fun p => h p

theorem takes_peek {f : Option Symbol → Reader β} (h : (f rest.head?).Takes [] rest b) :
    (peek >>= f).Takes [] rest b :=
  takes_peek_head h

theorem takes_peek_cons {f : Option Symbol → Reader β}
    (h : (f (some (.char c))).Takes (c :: front) rest b) : (peek >>= f).Takes (c :: front) rest b :=
  takes_peek_head h

/-- By induction on the blanks: they are passed over up to the first piece that is none. -/
theorem skipBlanks_append {before : List Char} {s : Symbol} (hbefore : Blank before)
    (hs : rest.head? = some s) (hblank : s.isBlank = false) (p : Position) :
    ∃ p', (⟨before.map .char ++ rest, p⟩ : Cursor).skipBlanks = ⟨rest, p'⟩ := by
  induction before generalizing p with
  | nil =>
    obtain ⟨more, rfl⟩ := List.head?_eq_some_iff.1 hs
    refine ⟨p, ?_⟩
    show Cursor.skipBlanksFrom (s :: more) p = _
    rw [Cursor.skipBlanksFrom, hblank]
    rfl
  | cons c before ih =>
    obtain ⟨hc, hbefore⟩ := List.forall_mem_cons.1 hbefore
    obtain ⟨p', hp'⟩ := ih hbefore
      (if Symbol.char c = .char '\n' then ⟨p.line + 1, 0⟩ else ⟨p.line, p.column + 1⟩)
    refine ⟨p', ?_⟩
    rw [← hp']
    show Cursor.skipBlanksFrom (.char c :: (before.map .char ++ rest)) p = _
    rw [Cursor.skipBlanksFrom, if_pos hc]
    rfl

theorem takes_next {f : Option Symbol → Reader β} {before : List Char} {s : Symbol}
    (hbefore : Blank before) (hs : (front.map Symbol.char ++ rest).head? = some s)
    (hblank : s.isBlank = false) (h : (f (some s)).Takes front rest b) :
    (next >>= f).Takes (before ++ front) rest b := by
  intro p
  obtain ⟨p₁, hskip⟩ := skipBlanks_append hbefore hs hblank p
  obtain ⟨p₂, hf⟩ := h p₁
  refine ⟨p₂, ?_⟩
  rw [List.map_append, List.append_assoc, ← hf, ← hs]
  show f (Cursor.skipBlanks _).rest.head? (Cursor.skipBlanks _) = _
  rw [hskip]

theorem takes_next_end {f : Option Symbol → Reader β} {before : List Char} {s : Symbol}
    (hbefore : Blank before) (hs : rest.head? = some s) (hblank : s.isBlank = false)
    (h : (f (some s)).Takes [] rest b) : (next >>= f).Takes before rest b := by
  rw [← List.append_nil before]
  exact takes_next hbefore hs hblank h

theorem takes_colon {before : List Char} (hbefore : Blank before) :
    colon.Takes (before ++ [':']) rest () :=
  takes_next hbefore rfl rfl takes_advance

theorem skipBlanksFrom_blank {after : List Char} (hafter : Blank after) (p : Position) :
    (Cursor.skipBlanksFrom (after.map .char) p).rest = [] := by
  induction after generalizing p with
  | nil => rfl
  | cons c after ih =>
    obtain ⟨hc, hafter⟩ := List.forall_mem_cons.1 hafter
    rw [List.map_cons, Cursor.skipBlanksFrom, if_pos hc]
    exact ih hafter _

/-- A reader that takes a text up to blanks at its end gives the value when it is run on it. -/
theorem Takes.run_append {after : List Char} (h : r.Takes front (after.map .char) a)
    (hafter : Blank after) : r.run ((front ++ after).map .char) = .ok a := by
  obtain ⟨p', hr⟩ := h ⟨1, 0⟩
  rw [← List.map_append] at hr
  show Except.bind (r ⟨(front ++ after).map .char, 1, 0⟩) _ = _
  rw [hr]
  show (if (Cursor.skipBlanksFrom (after.map .char) p').rest.isEmpty then _ else _) = _
  rw [skipBlanksFrom_blank hafter]
  rfl

theorem Takes.run (h : r.Takes front [] a) : r.run (front.map .char) = .ok a := by
  have hrun : r.run ((front ++ []).map .char) = .ok a := run_append h blank_nil
  rwa [List.append_nil] at hrun

end NetworkPolicy.Json.Reader
