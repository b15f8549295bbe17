import Mathlib.Data.List.Sort
import Mathlib.Data.String.Basic
import NetworkPolicy.Access

namespace NetworkPolicy.Access

section Apps

variable {s t : String} {l : List String} {c : Collection}

theorem mem_insertSorted : t ∈ insertSorted s l ↔ t = s ∨ t ∈ l := by
  induction l with
  | nil => simp [insertSorted]
  | cons a l ih =>
    unfold insertSorted
    split
    · exact List.mem_cons
    · split
      · next heq => simp [heq]
      · simp only [List.mem_cons, ih]
        exact or_left_comm

theorem insertSorted_ascending (h : l.Pairwise (· < ·)) :
    (insertSorted s l).Pairwise (· < ·) := by
  induction l with
  | nil => exact List.pairwise_singleton _ _
  | cons a l ih =>
    obtain ⟨ha, hl⟩ := List.pairwise_cons.1 h
    unfold insertSorted
    split
    · next hlt =>
      refine List.pairwise_cons.2 ⟨fun b hb => ?_, h⟩
      rcases List.mem_cons.1 hb with rfl | hb
      · exact hlt
      · exact lt_trans hlt (ha b hb)
    · split
      · exact h
      · next hle hne =>
        refine List.pairwise_cons.2 ⟨fun b hb => ?_, ih hl⟩
        rcases mem_insertSorted.1 hb with rfl | hb
        · exact lt_of_le_of_ne (not_lt.1 hle) (Ne.symm hne)
        · exact ha b hb

/-- The id is that of an end of a policy. -/
def Collection.Mentions (c : Collection) (id : String) : Prop :=
  ∃ p ∈ c.policies, id = p.source.id ∨ id = p.destination.id

theorem Collection.mem_apps : s ∈ c.apps ↔ c.Mentions s := by
  have hmem : ∀ ids : List String, s ∈ ids.foldr insertSorted [] ↔ s ∈ ids := by
    intro ids
    induction ids with
    | nil => exact Iff.rfl
    | cons id ids ih => rw [List.foldr_cons, mem_insertSorted, ih, List.mem_cons]
  simp [apps, hmem, Mentions]

theorem Collection.apps_ascending (c : Collection) : c.apps.Pairwise (· < ·) := by
  unfold apps
  induction c.policies.flatMap fun p => [p.source.id, p.destination.id] with
  | nil => exact List.Pairwise.nil
  | cons id ids ih => exact insertSorted_ascending ih

theorem Collection.apps_eq_iff {c c' : Collection} :
    c.apps = c'.apps ↔ ∀ id, c.Mentions id ↔ c'.Mentions id := by
  refine ⟨fun h id => ?_, fun h => ?_⟩
  · rw [← mem_apps, ← mem_apps, h]
  · refine c.apps_ascending.eq_of_mem_iff c'.apps_ascending fun id => ?_
    rw [mem_apps, mem_apps, h id]

end Apps

section Giving

variable {α β : Type} {x : Inquiry α} {f : α → Inquiry β} {a : α} {asked asked' : List Call}
  {outcome : Except Failure β} {failure : Failure} {platform : Platform} {call : Call}
  {answer : Services → Except String α} {fails : String → Failure} {detail : String}

/-- After the questions `asked` the inquiry comes to the outcome, and then `asked'` were asked. -/
def Inquiry.Gives (x : Inquiry α) (asked : List Call) (outcome : Except Failure α)
    (asked' : List Call) : Prop :=
  x.run.run asked = (outcome, asked')

theorem gives_pure (a : α) (asked : List Call) : (pure a : Inquiry α).Gives asked (.ok a) asked :=
  rfl

theorem Inquiry.Gives.bind (hx : x.Gives asked (.ok a) asked')
    {asked'' : List Call} (hf : (f a).Gives asked' outcome asked'') :
    (x >>= f).Gives asked outcome asked'' := by
  show StateT.bind x.run (ExceptT.bindCont f) asked = _
  rw [StateT.bind, show x.run asked = _ from hx]
  exact hf

theorem Inquiry.Gives.bind_error (hx : x.Gives asked (.error failure) asked') :
    (x >>= f).Gives asked (.error failure) asked' := by
  show StateT.bind x.run (ExceptT.bindCont f) asked = _
  rw [StateT.bind, show x.run asked = _ from hx]
  rfl

theorem gives_noted {g : List Call → Inquiry α} {result : Except Failure α}
    (h : (g asked).Gives (asked ++ [call]) result asked') :
    (get >>= fun asked => set (asked ++ [call]) >>= fun _ => g asked : Inquiry α).Gives asked
      result asked' :=
  h

theorem gives_ask (h : answer (platform asked) = .ok a) :
    (ask platform call answer fails).Gives asked (.ok a) (asked ++ [call]) := by
  refine gives_noted ?_
  rw [h]
  rfl

theorem gives_ask_error (h : answer (platform asked) = .error detail) :
    (ask platform call answer fails).Gives asked (.error (fails detail)) (asked ++ [call]) := by
  refine gives_noted ?_
  rw [h]
  rfl

end Giving

section Spaces

/-- The user is found to be a member of every one of the spaces. -/
inductive Admits (platform : Platform) (token user : String) :
    List Call → List String → List Call → Prop
  | nil {asked : List Call} : Admits platform token user asked [] asked
  | cons {asked asked' : List Call} {guid : String} {rest : List String} {space known : Space} :
    (platform asked).space token guid = .ok (some space) →
    (platform (asked ++ [.space token guid])).userSpace token user space = .ok (some known) →
    Admits platform token user (asked ++ [.space token guid] ++ [.userSpace token user space])
      rest asked' →
    Admits platform token user asked (guid :: rest) asked'

/-- The space is missing, the user is not a member of it, or one of the two is not found out. -/
inductive Refuses (platform : Platform) (token user : String) (asked : List Call) (guid : String) :
    Except Failure Bool → List Call → Prop
  | missing : (platform asked).space token guid = .ok none →
    Refuses platform token user asked guid (.ok false) (asked ++ [.space token guid])
  | unanswered {detail : String} : (platform asked).space token guid = .error detail →
    Refuses platform token user asked guid (.error (.space guid detail))
      (asked ++ [.space token guid])
  | stranger {space : Space} : (platform asked).space token guid = .ok (some space) →
    (platform (asked ++ [.space token guid])).userSpace token user space = .ok none →
    Refuses platform token user asked guid (.ok false)
      (asked ++ [.space token guid] ++ [.userSpace token user space])
  | unknown {space : Space} {detail : String} :
    (platform asked).space token guid = .ok (some space) →
    (platform (asked ++ [.space token guid])).userSpace token user space = .error detail →
    Refuses platform token user asked guid (.error (.space guid detail))
      (asked ++ [.space token guid] ++ [.userSpace token user space])

variable {platform : Platform} {token user guid : String} {asked asked' : List Call}
  {good rest : List String} {outcome : Except Failure Bool}

/-- By induction on the spaces that admit the user: they are gone through, and what comes then
decides. -/
theorem Admits.gives (h : Admits platform token user asked good asked')
    {asked'' : List Call}
    (hrest : (memberOfAll platform token user rest).Gives asked' outcome asked'') :
    (memberOfAll platform token user (good ++ rest)).Gives asked outcome asked'' := by
  induction h with
  | nil => exact hrest
  | cons hspace huser _ ih =>
    rw [List.cons_append, memberOfAll]
    refine Inquiry.Gives.bind (gives_ask hspace) ?_
    refine Inquiry.Gives.bind (gives_ask huser) ?_
    exact ih hrest

theorem Refuses.gives (h : Refuses platform token user asked guid outcome asked') :
    (memberOfAll platform token user (guid :: rest)).Gives asked outcome asked' := by
  rw [memberOfAll]
  cases h with
  | missing hspace =>
    refine Inquiry.Gives.bind (gives_ask hspace) ?_
    exact gives_pure false _
  | unanswered hspace => exact Inquiry.Gives.bind_error (gives_ask_error hspace)
  | stranger hspace huser =>
    refine Inquiry.Gives.bind (gives_ask hspace) ?_
    refine Inquiry.Gives.bind (gives_ask huser) ?_
    exact gives_pure false _
  | unknown hspace huser =>
    refine Inquiry.Gives.bind (gives_ask hspace) ?_
    exact Inquiry.Gives.bind_error (gives_ask_error huser)

/-- By induction on the spaces: either all of them admit the user, or there is a first that does
not. -/
theorem admits_or_refuses (platform : Platform) (token user : String) (guids : List String)
    (asked : List Call) :
    (∃ asked', Admits platform token user asked guids asked') ∨
      ∃ good guid rest asked' outcome asked'', guids = good ++ guid :: rest ∧
        Admits platform token user asked good asked' ∧
        Refuses platform token user asked' guid outcome asked'' := by
  induction guids generalizing asked with
  | nil => exact .inl ⟨asked, .nil⟩
  | cons guid guids ih =>
    have refused {outcome : Except Failure Bool} {asked' : List Call}
        (h : Refuses platform token user asked guid outcome asked') :
        ∃ good bad rest asked' outcome asked'', guid :: guids = good ++ bad :: rest ∧
          Admits platform token user asked good asked' ∧
          Refuses platform token user asked' bad outcome asked'' :=
      ⟨[], guid, guids, asked, outcome, asked', rfl, .nil, h⟩
    cases hspace : (platform asked).space token guid with
    | error detail => exact .inr (refused (.unanswered hspace))
    | ok found =>
      cases found with
      | none => exact .inr (refused (.missing hspace))
      | some space =>
        cases huser : (platform (asked ++ [.space token guid])).userSpace token user space with
        | error detail => exact .inr (refused (.unknown hspace huser))
        | ok member =>
          cases member with
          | none => exact .inr (refused (.stranger hspace huser))
          | some known =>
            obtain ⟨asked', hadmits⟩ | ⟨good, bad, rest, asked', outcome, asked'', rfl, hgood, hbad⟩ :=
              ih (asked ++ [.space token guid] ++ [.userSpace token user space])
            · exact .inl ⟨asked', .cons hspace huser hadmits⟩
            · exact .inr ⟨guid :: good, bad, rest, asked', outcome, asked'', rfl,
                .cons hspace huser hgood, hbad⟩

end Spaces

section Answers

variable {platform : Platform} {call : Call} {asked asked' : List Call}

/-- The message with which the services fail to answer the question, if they do. -/
@[simp]
def Services.failure? (services : Services) : Call → Option String
  | .token => message? services.token
  | .spacesOf token apps => message? (services.spacesOf token apps)
  | .space token guid => message? (services.space token guid)
  | .userSpace token user space => message? (services.userSpace token user space)
where
  message? {α : Type} : Except String α → Option String
    | .ok _ => none
    | .error detail => some detail

attribute [simp] Services.failure?.message?

/-- Every question was answered when it was asked. -/
def Answered (platform : Platform) (calls : List Call) : Prop :=
  ∀ asked call rest, calls = asked ++ call :: rest → (platform asked).failure? call = none

theorem answered_nil : Answered platform [] := by
  intro asked call rest h
  exact absurd h.symm (List.append_ne_nil_of_right_ne_nil asked (List.cons_ne_nil call rest))

theorem Answered.concat (h : Answered platform asked)
    (hcall : (platform asked).failure? call = none) : Answered platform (asked ++ [call]) := by
  intro before question rest heq
  rcases List.eq_nil_or_concat' rest with rfl | ⟨rest, last, rfl⟩
  · obtain ⟨rfl, hlast⟩ := List.append_inj' heq rfl
    cases hlast
    exact hcall
  · rw [← List.cons_append, ← List.append_assoc] at heq
    exact h before question rest (List.append_inj' heq rfl).1

theorem Admits.answered {token user : String} {guids : List String}
    (h : Admits platform token user asked guids asked') (hasked : Answered platform asked) :
    Answered platform asked' := by
  induction h with
  | nil => exact hasked
  | cons hspace huser _ ih =>
    refine ih ((hasked.concat ?_).concat ?_)
    · simp [hspace]
    · simp [huser]

/-- All questions were answered and there is a decision, or the last one was not and the outcome is
its failure. -/
def FailsClosed (platform : Platform) (outcome : Except Failure Bool) (calls : List Call) : Prop :=
  (Answered platform calls ∧ ∃ allowed, outcome = .ok allowed) ∨
    ∃ asked call failure, calls = asked ++ [call] ∧ Answered platform asked ∧
      (platform asked).failure? call = some failure.detail ∧ outcome = .error failure

theorem Refuses.failsClosed {token user guid : String} {outcome : Except Failure Bool}
    (h : Refuses platform token user asked guid outcome asked') (hasked : Answered platform asked) :
    FailsClosed platform outcome asked' := by
  cases h with
  | missing hspace =>
    refine .inl ⟨hasked.concat ?_, false, rfl⟩
    simp [hspace]
  | unanswered hspace =>
    refine .inr ⟨asked, _, _, rfl, hasked, ?_, rfl⟩
    simp [hspace, Failure.detail]
  | stranger hspace huser =>
    refine .inl ⟨(hasked.concat ?_).concat ?_, false, rfl⟩
    · simp [hspace]
    · simp [huser]
  | unknown hspace huser =>
    refine .inr ⟨_, _, _, rfl, hasked.concat ?_, ?_, rfl⟩
    · simp [hspace]
    · simp [huser, Failure.detail]

end Answers

section Deciding

variable {platform : Platform} {c : Collection} {t : Token} {token : String} {guids : List String}
  {outcome : Except Failure Bool} {calls : List Call}

/-- The question is whether the user is a member of the spaces. -/
structure Reaches (platform : Platform) (c : Collection) (t : Token) (token : String)
    (guids : List String) : Prop where
  ordinary : adminScope ∉ t.scopes
  noEgress : c.egress = []
  answered : (platform []).token = .ok token
  spaces : (platform [.token]).spacesOf token c.apps = .ok guids

def opening (c : Collection) (token : String) : List Call :=
  [.token, .spacesOf token c.apps]

/-- How a decision is come to: the outcome, and the questions that it took. -/
inductive Course (platform : Platform) (c : Collection) (t : Token) :
    Except Failure Bool → List Call → Prop
  | administrator : adminScope ∈ t.scopes → Course platform c t (.ok true) []
  | egress : adminScope ∉ t.scopes → c.egress ≠ [] → Course platform c t (.ok false) []
  | noToken {detail : String} : adminScope ∉ t.scopes → c.egress = [] →
    (platform []).token = .error detail → Course platform c t (.error (.token detail)) [.token]
  | noSpaces {token detail : String} : adminScope ∉ t.scopes → c.egress = [] →
    (platform []).token = .ok token →
    (platform [.token]).spacesOf token c.apps = .error detail →
    Course platform c t (.error (.spacesOf detail)) (opening c token)
  | refused {token guid : String} {good rest : List String} {asked calls : List Call}
    {outcome : Except Failure Bool} : Reaches platform c t token (good ++ guid :: rest) →
    Admits platform token t.user (opening c token) good asked →
    Refuses platform token t.user asked guid outcome calls → Course platform c t outcome calls
  | allowed {token : String} {guids : List String} {calls : List Call} :
    Reaches platform c t token guids →
    Admits platform token t.user (opening c token) guids calls →
    Course platform c t (.ok true) calls

theorem Token.isAdmin_iff : t.isAdmin = true ↔ adminScope ∈ t.scopes :=
  List.contains_iff_mem

theorem mayWrite_eq (ht : adminScope ∉ t.scopes) (hegress : c.egress = []) :
    mayWrite platform c t = (do
      let token ← ask platform .token (·.token) .token
      let guids ← ask platform (.spacesOf token c.apps) (·.spacesOf token c.apps) .spacesOf
      memberOfAll platform token t.user guids) := by
  rw [mayWrite, if_neg (mt Token.isAdmin_iff.1 ht), hegress]
  rfl

theorem Reaches.gives (h : Reaches platform c t token guids)
    (hspaces : (memberOfAll platform token t.user guids).Gives (opening c token) outcome calls) :
    (mayWrite platform c t).Gives [] outcome calls := by
  rw [mayWrite_eq h.ordinary h.noEgress]
  refine Inquiry.Gives.bind (gives_ask h.answered) ?_
  refine Inquiry.Gives.bind (gives_ask h.spaces) ?_
  exact hspaces

theorem Course.gives (h : Course platform c t outcome calls) :
    (mayWrite platform c t).Gives [] outcome calls := by
  cases h with
  | administrator ht =>
    rw [mayWrite, if_pos (Token.isAdmin_iff.2 ht)]
    exact gives_pure true []
  | egress ht hegress =>
    have hsome : (!c.egress.isEmpty) = true := by simp [hegress]
    rw [mayWrite, if_neg (mt Token.isAdmin_iff.1 ht), if_pos hsome]
    exact gives_pure false []
  | noToken ht hegress htoken =>
    rw [mayWrite_eq ht hegress]
    exact Inquiry.Gives.bind_error (gives_ask_error htoken)
  | noSpaces ht hegress htoken hspaces =>
    rw [mayWrite_eq ht hegress]
    refine Inquiry.Gives.bind (gives_ask htoken) ?_
    exact Inquiry.Gives.bind_error (gives_ask_error hspaces)
  | refused hreaches hgood hbad => exact hreaches.gives (hgood.gives hbad.gives)
  | @allowed token guids _ hreaches hall =>
    have hend : (memberOfAll platform token t.user (guids ++ [])).Gives (opening c token)
        (.ok true) calls := hall.gives (gives_pure true calls)
    rw [List.append_nil] at hend
    exact hreaches.gives hend

theorem exists_course (platform : Platform) (c : Collection) (t : Token) :
    ∃ outcome calls, Course platform c t outcome calls := by
  by_cases ht : adminScope ∈ t.scopes
  · exact ⟨_, _, .administrator ht⟩
  by_cases hegress : c.egress = []
  · cases htoken : (platform []).token with
    | error detail => exact ⟨_, _, .noToken ht hegress htoken⟩
    | ok token =>
      cases hspaces : (platform [.token]).spacesOf token c.apps with
      | error detail => exact ⟨_, _, .noSpaces ht hegress htoken hspaces⟩
      | ok guids =>
        obtain ⟨asked, hall⟩ | ⟨good, guid, rest, asked, outcome, calls, rfl, hgood, hbad⟩ :=
          admits_or_refuses platform token t.user guids (opening c token)
        · exact ⟨_, _, .allowed ⟨ht, hegress, htoken, hspaces⟩ hall⟩
        · exact ⟨_, _, .refused ⟨ht, hegress, htoken, hspaces⟩ hgood hbad⟩
  · exact ⟨_, _, .egress ht hegress⟩

/-- There is one way to a decision, and it is the one that is taken. -/
theorem check_eq_iff : check platform c t = (outcome, calls) ↔ Course platform c t outcome calls := by
  refine ⟨fun h => ?_, fun h => h.gives⟩
  obtain ⟨outcome', calls', hcourse⟩ := exists_course platform c t
  have heq : (outcome', calls') = (outcome, calls) := (hcourse.gives : check platform c t = _).symm.trans h
  cases heq
  exact hcourse

theorem Reaches.answered_opening (h : Reaches platform c t token guids) :
    Answered platform (opening c token) := by
  refine (answered_nil.concat ?_).concat ?_
  · simp [h.answered]
  · simp [h.spaces]

theorem Course.failsClosed (h : Course platform c t outcome calls) :
    FailsClosed platform outcome calls := by
  cases h with
  | administrator => exact .inl ⟨answered_nil, true, rfl⟩
  | egress => exact .inl ⟨answered_nil, false, rfl⟩
  | noToken _ _ htoken =>
    refine .inr ⟨[], _, _, rfl, answered_nil, ?_, rfl⟩
    simp [htoken, Failure.detail]
  | noSpaces _ _ htoken hspaces =>
    refine .inr ⟨[.token], _, _, rfl, answered_nil.concat ?_, ?_, rfl⟩
    · simp [htoken]
    · simp [hspaces, Failure.detail]
  | refused hreaches hgood hbad => exact hbad.failsClosed (hgood.answered hreaches.answered_opening)
  | allowed hreaches hall => exact .inl ⟨hall.answered hreaches.answered_opening, true, rfl⟩

theorem Course.allowed_iff (h : Course platform c t outcome calls) :
    outcome = .ok true ↔ adminScope ∈ t.scopes ∨
      ∃ token guids asked, Reaches platform c t token guids ∧
        Admits platform token t.user (opening c token) guids asked := by
  constructor
  · rintro rfl
    cases h with
    | administrator ht => exact .inl ht
    | refused _ _ hbad => cases hbad
    | allowed hreaches hall => exact .inr ⟨_, _, _, hreaches, hall⟩
  · intro hallowed
    -- the way to a decision is the only one
    have htaken {outcome' : Except Failure Bool} {calls' : List Call}
        (h' : Course platform c t outcome' calls') : outcome = outcome' :=
      congrArg Prod.fst ((check_eq_iff.2 h).symm.trans (check_eq_iff.2 h'))
    rcases hallowed with ht | ⟨token, guids, asked, hreaches, hall⟩
    · exact htaken (.administrator ht)
    · exact htaken (.allowed hreaches hall)

end Deciding

/-- Access is decided in one way: an administrator is allowed everything and nothing is asked;
egress policies of anyone else are refused and nothing is asked; otherwise the questions are asked
in order up to the one that decides. So access is allowed just when the user is an administrator or
every question was answered well, and no failure of a service allows it. The apps asked about are
the ids of the policies, in ascending order and each once. -/
theorem decision_fails_closed (platform : Platform) (c : Collection) (t : Token) :
    (∀ outcome calls, check platform c t = (outcome, calls) ↔ Course platform c t outcome calls) ∧
      ((check platform c t).1 = .ok true ↔ adminScope ∈ t.scopes ∨
        ∃ token guids asked, Reaches platform c t token guids ∧
          Admits platform token t.user (opening c token) guids asked) ∧
      FailsClosed platform (check platform c t).1 (check platform c t).2 ∧
      c.apps.Pairwise (· < ·) ∧ ∀ id, id ∈ c.apps ↔ c.Mentions id := by
  have hcourse : Course platform c t (check platform c t).1 (check platform c t).2 :=
    check_eq_iff.1 rfl
  exact ⟨fun _ _ => check_eq_iff, hcourse.allowed_iff, hcourse.failsClosed, c.apps_ascending,
    fun _ => Collection.mem_apps⟩

end NetworkPolicy.Access
