import NetworkPolicy.Proofs.Inquiries

namespace NetworkPolicy.Access

/-- Which apps are assigned to which spaces, which spaces exist, and who is a member of them. -/
structure Roster where
  Assigned (app guid : String) : Prop
  space (guid : String) : Option Space
  Member (user : String) (space : Space) : Prop

namespace Roster

/-- The services know the roster and do not fail. -/
structure Told (roster : Roster) (services : Services) : Prop where
  spacesOf (token : String) (apps : List String) :
    ∃ guids, services.spacesOf token apps = .ok guids ∧
      ∀ guid, guid ∈ guids ↔ ∃ app ∈ apps, roster.Assigned app guid
  space (token guid : String) : services.space token guid = .ok (roster.space guid)
  member {user : String} {space : Space} (token : String) :
    roster.Member user space → services.userSpace token user space = .ok (some space)
  stranger {user : String} {space : Space} (token : String) :
    ¬ roster.Member user space → services.userSpace token user space = .ok none

/-- The space exists and has the user as a member. -/
def Open (roster : Roster) (user guid : String) : Prop :=
  ∃ space, roster.space guid = some space ∧ roster.Member user space

/-- The app is assigned to an existing space of the user's. -/
def Within (roster : Roster) (user app : String) : Prop :=
  ∃ guid, roster.Assigned app guid ∧ roster.Open user guid

variable {roster : Roster} {platform : Platform} {token user : String} {guids : List String}
  {asked asked' : List Call} {c : Collection} {t : Token}

/-- By induction on the spaces that admit the user. -/
theorem open_of_admits (htold : ∀ asked, roster.Told (platform asked))
    (h : Admits platform token user asked guids asked') : ∀ guid ∈ guids, roster.Open user guid := by
  induction h with
  | nil => exact fun _ hguid => nomatch hguid
  | @cons asked _ guid _ space _ hspace huser _ ih =>
    have hexists : roster.space guid = some space :=
      Except.ok.inj (((htold asked).space token guid).symm.trans hspace)
    have hmember : roster.Member user space := by
      by_contra hstranger
      rw [(htold _).stranger token hstranger] at huser
      cases huser
    exact List.forall_mem_cons.2 ⟨⟨space, hexists, hmember⟩, ih⟩

theorem admits_of_open (htold : ∀ asked, roster.Told (platform asked))
    (h : ∀ guid ∈ guids, roster.Open user guid) (asked : List Call) :
    ∃ asked', Admits platform token user asked guids asked' := by
  induction guids generalizing asked with
  | nil => exact ⟨asked, .nil⟩
  | cons guid guids ih =>
    obtain ⟨⟨space, hexists, hmember⟩, hguids⟩ := List.forall_mem_cons.1 h
    obtain ⟨asked', hadmits⟩ :=
      ih hguids (asked ++ [.space token guid] ++ [.userSpace token user space])
    have hspace : (platform asked).space token guid = .ok (some space) := by
      rw [(htold asked).space, hexists]
    exact ⟨asked', .cons hspace ((htold _).member token hmember) hadmits⟩

/-- Anyone but an administrator is allowed to write the policies just when every space of their ends
exists and has the user as a member. -/
theorem allowed_iff_open (htold : ∀ asked, roster.Told (platform asked))
    (ht : adminScope ∉ t.scopes) :
    (check platform c t).1 = .ok true ↔
      c.egress = [] ∧ (∃ token, (platform []).token = .ok token) ∧
        ∀ id guid, c.Mentions id → roster.Assigned id guid → roster.Open t.user guid := by
  have hcourse : Course platform c t (check platform c t).1 (check platform c t).2 :=
    check_eq_iff.1 rfl
  rw [hcourse.allowed_iff]
  constructor
  · rintro (hadmin | ⟨token, guids, asked, hreaches, hall⟩)
    · exact absurd hadmin ht
    · refine ⟨hreaches.noEgress, ⟨token, hreaches.answered⟩, fun id guid hid hassigned => ?_⟩
      obtain ⟨guids', hspaces, hmem⟩ := (htold [.token]).spacesOf token c.apps
      cases hspaces.symm.trans hreaches.spaces
      exact open_of_admits htold hall guid
        ((hmem guid).2 ⟨id, Collection.mem_apps.2 hid, hassigned⟩)
  · rintro ⟨hegress, ⟨token, htoken⟩, hopen⟩
    obtain ⟨guids, hspaces, hmem⟩ := (htold [.token]).spacesOf token c.apps
    have hguids : ∀ guid ∈ guids, roster.Open t.user guid := by
      intro guid hguid
      obtain ⟨id, hid, hassigned⟩ := (hmem guid).1 hguid
      exact hopen id guid (Collection.mem_apps.1 hid) hassigned
    obtain ⟨asked, hall⟩ := admits_of_open htold hguids (opening c token)
    exact .inr ⟨token, guids, asked, ⟨ht, hegress, htoken, hspaces⟩, hall⟩

end Roster

/-- Whoever is allowed to write policies without being an administrator is a member of every space
that an end of them is assigned to. So an end is within the spaces of the user as soon as it is
assigned to any space. -/
theorem allowed_ends_within_spaces (roster : Roster) (platform : Platform)
    (htold : ∀ asked, roster.Told (platform asked)) (c : Collection) (t : Token)
    (ht : adminScope ∉ t.scopes) (hallowed : (check platform c t).1 = .ok true) (id : String)
    (hid : c.Mentions id) :
    (∀ guid, roster.Assigned id guid → roster.Open t.user guid) ∧
      (roster.Within t.user id ↔ ∃ guid, roster.Assigned id guid) := by
  obtain ⟨-, -, hopen⟩ := (Roster.allowed_iff_open htold ht).1 hallowed
  refine ⟨fun guid hassigned => hopen id guid hid hassigned, ?_, ?_⟩
  · rintro ⟨guid, hassigned, -⟩
    exact ⟨guid, hassigned⟩
  · rintro ⟨guid, hassigned⟩
    exact ⟨guid, hassigned, hopen id guid hid hassigned⟩

/-- Two apps in one space with one member. -/
def Roster.shop : Roster where
  Assigned app guid := app ∈ ["counter", "till"] ∧ guid = "ground"
  space guid := if guid = "ground" then some ⟨"floor", "shop"⟩ else none
  Member user space := user = "clerk" ∧ space = ⟨"floor", "shop"⟩

def Services.ofShop : Services where
  token := .ok "service"
  spacesOf _ apps := .ok (if "counter" ∈ apps ∨ "till" ∈ apps then ["ground"] else [])
  space _ guid := .ok (Roster.shop.space guid)
  userSpace _ user space :=
    .ok (if user = "clerk" ∧ space = ⟨"floor", "shop"⟩ then some space else none)

theorem Roster.told_ofShop : Roster.shop.Told Services.ofShop where
  spacesOf _ apps := by
    refine ⟨_, rfl, fun guid => ?_⟩
    by_cases happs : "counter" ∈ apps ∨ "till" ∈ apps
    · rw [if_pos happs, List.mem_singleton]
      constructor
      · rintro rfl
        rcases happs with hcounter | htill
        · exact ⟨"counter", hcounter, by simp, rfl⟩
        · exact ⟨"till", htill, by simp, rfl⟩
      · rintro ⟨_, _, _, rfl⟩
        rfl
    · rw [if_neg happs]
      refine ⟨fun h => (nomatch h), ?_⟩
      rintro ⟨app, happ, hshop, -⟩
      simp only [List.mem_cons, List.not_mem_nil, or_false] at hshop
      rcases hshop with rfl | rfl
      · exact absurd (.inl happ) happs
      · exact absurd (.inr happ) happs
  space _ _ := rfl
  member _ hmember := congrArg Except.ok (if_pos hmember)
  stranger _ hstranger := congrArg Except.ok (if_neg hstranger)

def Token.ofClerk : Token :=
  ⟨"clerk", ["network.write"]⟩

theorem Token.ofClerk_ordinary : adminScope ∉ Token.ofClerk.scopes := by
  decide

def Collection.ofShop : Collection where
  policies := [⟨{ id := "till" }, { id := "counter" }⟩]

/-- The clerk may write a policy between the apps of the shop. -/
theorem allowed_ends_within_spaces_of_clerk :
    (∀ asked : List Call, Roster.shop.Told ((fun _ => Services.ofShop : Platform) asked)) ∧
      adminScope ∉ Token.ofClerk.scopes ∧
      (check (fun _ => Services.ofShop) Collection.ofShop Token.ofClerk).1 = .ok true ∧
      Roster.shop.Within "clerk" "counter" := by
  have htold : ∀ asked : List Call, Roster.shop.Told ((fun _ => Services.ofShop : Platform) asked) :=
    fun _ => Roster.told_ofShop
  have hallowed : (check (fun _ => Services.ofShop) Collection.ofShop Token.ofClerk).1 = .ok true := by
    decide +kernel
  obtain ⟨-, hwithin⟩ := allowed_ends_within_spaces Roster.shop (fun _ => Services.ofShop) htold
    _ _ Token.ofClerk_ordinary hallowed "counter" ⟨_, List.mem_cons_self, .inr rfl⟩
  exact ⟨htold, Token.ofClerk_ordinary, hallowed, hwithin.2 ⟨"ground", by decide, rfl⟩⟩

/-- The clerk may also write a policy to an app that is in no space at all. -/
theorem app_without_space_is_allowed :
    (∀ asked : List Call, Roster.shop.Told ((fun _ => Services.ofShop : Platform) asked)) ∧
      adminScope ∉ Token.ofClerk.scopes ∧
      (check (fun _ => Services.ofShop) ⟨[⟨{ id := "till" }, { id := "ghost" }⟩], []⟩
        Token.ofClerk).1 = .ok true ∧
      ¬ Roster.shop.Within "clerk" "ghost" := by
  refine ⟨fun _ => Roster.told_ofShop, Token.ofClerk_ordinary, by decide +kernel, ?_⟩
  rintro ⟨_, ⟨happ, -⟩, -⟩
  exact absurd happ (by decide)

/-- Collections of which both or neither have egress policies are decided alike, with the same
questions and whatever the services answer, just when it is an administrator who writes them, or
they have egress policies, or the ends of their policies are the same. -/
theorem decision_told_by_ids (c c' : Collection) (t : Token)
    (hegress : c.egress = [] ↔ c'.egress = []) :
    (∀ platform, check platform c t = check platform c' t) ↔
      adminScope ∈ t.scopes ∨ c.egress ≠ [] ∨ ∀ id, c.Mentions id ↔ c'.Mentions id := by
  by_cases ht : adminScope ∈ t.scopes
  · refine iff_of_true (fun platform => ?_) (.inl ht)
    rw [check_eq_iff.2 (.administrator ht), check_eq_iff.2 (.administrator ht)]
  by_cases hnone : c.egress = []
  · have hnone' : c'.egress = [] := hegress.1 hnone
    rw [← Collection.apps_eq_iff]
    constructor
    · intro h
      -- even services that know of no spaces are told the apps
      let platform : Platform := fun _ =>
        { token := .ok "", spacesOf := fun _ _ => .ok [], space := fun _ _ => .ok none,
          userSpace := fun _ _ _ => .ok none }
      have hasked {d : Collection} (hd : d.egress = []) :
          check platform d t = (.ok true, opening d "") :=
        check_eq_iff.2 (.allowed ⟨ht, hd, rfl, rfl⟩ .nil)
      have hcalls := (hasked hnone).symm.trans ((h platform).trans (hasked hnone'))
      simp only [opening, Prod.mk.injEq, List.cons.injEq, Call.spacesOf.injEq] at hcalls
      exact .inr (.inr hcalls.2.2.1.2)
    · rintro (hadmin | hsome | happs) platform
      · exact absurd hadmin ht
      · exact absurd hnone hsome
      · show (mayWrite platform c t).run.run [] = (mayWrite platform c' t).run.run []
        rw [mayWrite_eq ht hnone, mayWrite_eq ht hnone', happs]
  · refine iff_of_true (fun platform => ?_) (.inr (.inl hnone))
    rw [check_eq_iff.2 (.egress ht hnone), check_eq_iff.2 (.egress ht (mt hegress.2 hnone))]

def Collection.turned : Collection where
  policies := [⟨{ id := "counter" }, { id := "till", port := 80 }⟩,
    ⟨{ id := "till" }, { id := "till", protocol := "udp" }⟩]

theorem decision_told_by_ids_turned :
    (Collection.ofShop.egress = [] ↔ Collection.turned.egress = []) ∧
      ∀ platform,
        check platform Collection.ofShop Token.ofClerk =
          check platform Collection.turned Token.ofClerk := by
  have hids : ∀ id, Collection.ofShop.Mentions id ↔ Collection.turned.Mentions id :=
    Collection.apps_eq_iff.1 (by decide +kernel)
  have hegress : Collection.ofShop.egress = [] ↔ Collection.turned.egress = [] := Iff.rfl
  exact ⟨hegress, (decision_told_by_ids _ _ Token.ofClerk hegress).2 (.inr (.inr hids))⟩

end NetworkPolicy.Access
