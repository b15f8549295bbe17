import NetworkPolicy.Proofs.Requests

namespace NetworkPolicy

namespace Sql

namespace Truth

variable {a b : Truth}

theorem and_eq_true : a.and b = some true ↔ a = some true ∧ b = some true := by
  rcases a with _ | _ | _ <;> rcases b with _ | _ | _ <;> decide

theorem or_eq_true : a.or b = some true ↔ a = some true ∨ b = some true := by
  rcases a with _ | _ | _ <;> rcases b with _ | _ | _ <;> decide

end Truth

namespace Condition

variable {Column : Type} {row : Column → Option String} {column : Column} {value : String}

theorem holds_among (h : row column = some value) (values more : List String) :
    (among column values.length).holds row (values ++ more) = some (decide (value ∈ values)) := by
  have hbound : ¬ (values ++ more).length < values.length := by
    rw [List.length_append]
    omega
  simp only [holds, h, List.take_left, if_neg hbound]
  split
  · next hmem => rw [decide_eq_true hmem]
  · next hmem => rw [decide_eq_false hmem]

theorem holds_joined_among {other : Column} {value' : String} (c : Connective)
    (h : row column = some value) (h' : row other = some value') (values more : List String) :
    (joined c (among column values.length) (among other more.length)).holds row (values ++ more) =
      c.apply (some (decide (value ∈ values))) (some (decide (value' ∈ more))) := by
  have hsecond := holds_among h' more []
  rw [List.append_nil] at hsecond
  rw [holds, holds_among h, places, List.drop_left, hsecond]

end Condition

end Sql

/-- What a selection says of a policy. -/
def Selection.admits (s : Selection) (p : Policy) : Bool :=
  match s.sources, s.destinations with
  | [], [] => false
  | [], destinations => p.destination.id ∈ destinations
  | sources, [] => p.source.id ∈ sources
  | sources, destinations =>
    if s.both then p.source.id ∈ sources ∧ p.destination.id ∈ destinations
    else p.source.id ∈ sources ∨ p.destination.id ∈ destinations

/-- The conditions say of an entry what the selection says of a policy with the same ends. -/
theorem Selection.selects_eq {e : Entry} {p : Policy} (hsource : e.guid .source = some p.source.id)
    (hgroup : e.guid .group = some p.destination.id) (s : Selection) :
    s.selects e = s.admits p := by
  obtain ⟨sources, destinations, both⟩ := s
  -- one case for each form that the conditions take
  cases sources with
  | nil =>
    cases destinations with
    | nil => rfl
    | cons d rest =>
      have hholds := Sql.Condition.holds_among hgroup (d :: rest) []
      rw [List.append_nil] at hholds
      simp only [selects, conditions, values, admits, List.isEmpty_nil, List.isEmpty_cons, if_true,
        Bool.false_eq_true, if_false, List.nil_append, Sql.Condition.join, List.foldl_nil,
        Option.any_some, hholds, Option.some.injEq, decide_eq_true_eq]
  | cons a more =>
    cases destinations with
    | nil =>
      have hholds := Sql.Condition.holds_among hsource (a :: more) []
      rw [List.append_nil] at hholds
      simp only [selects, conditions, values, admits, List.isEmpty_nil, List.isEmpty_cons, if_true,
        Bool.false_eq_true, if_false, List.append_nil, Sql.Condition.join, List.foldl_nil,
        Option.any_some, hholds, Option.some.injEq, decide_eq_true_eq]
    | cons d rest =>
      have hholds := fun c =>
        Sql.Condition.holds_joined_among c hsource hgroup (a :: more) (d :: rest)
      simp only [selects, conditions, values, admits, List.isEmpty_cons, Bool.false_eq_true,
        if_false, List.singleton_append, Sql.Condition.join, List.foldl_cons, List.foldl_nil,
        Option.any_some, hholds]
      cases both with
      | true => simp [Sql.Connective.apply, Sql.Truth.and_eq_true]
      | false => simp [Sql.Connective.apply, Sql.Truth.or_eq_true]

namespace Tables

variable {size : Nat} {t : Tables} {e : Entry}

theorem guid_of_mem (h : t.Coherent size) (he : e ∈ t.entries) (m : TagLength) :
    e.guid .source = some (e.policy m).source.id ∧
      e.guid .group = some (e.policy m).destination.id := by
  obtain ⟨hj, hr⟩ := (mem_entries h).1 he
  have htells := hj.tells h hr
  exact ⟨htells.source, htells.group⟩

theorem map_policy_filter (h : t.Coherent size) (m : TagLength) (s : Selection) :
    (t.entries.filter s.selects).map (Entry.policy m) =
      (t.entries.map (Entry.policy m)).filter s.admits := by
  rw [List.filter_map]
  congr 1
  refine List.filter_congr fun e he => ?_
  obtain ⟨hsource, hgroup⟩ := guid_of_mem h he m
  exact Selection.selects_eq hsource hgroup s

end Tables

/-- The policies that are listed for guids are those of the whole listing whose ends are among them,
in the same order and each once. The whole listing shows the rows of the policies. -/
theorem selection_filters_listing (n m : TagLength) (requests : List Request)
    (selection : Selection) :
    let t := (served n requests).database.tables
    ∃ listed, (Store.all m).on (served n requests) = (.ok listed, served n requests) ∧
      List.Forall₂ t.Stores t.policies (listed.map Policy.key) ∧
      (listed.map Policy.key).Nodup ∧
      (Store.byGuids m selection).on (served n requests) =
        (.ok (listed.filter selection.admits), served n requests) := by
  intro t
  have h := serves_served n requests
  have hs := h.sound.toCoherent
  refine ⟨_, h.all m, Tables.stores_policy hs, ?_, ?_⟩
  · rw [Tables.map_key_policy hs]
    exact Tables.nodup_keys hs
  · rw [h.byGuids m selection]
    split
    · next hempty =>
      -- without guids nothing is asked, and nothing is admitted
      obtain ⟨sources, destinations, both⟩ := selection
      obtain ⟨rfl, rfl⟩ : sources = [] ∧ destinations = [] := by simpa using hempty
      exact congrArg (fun l => (Except.ok l, _)) (List.filter_false _).symm
    · rw [Tables.map_policy_filter hs]

end NetworkPolicy
