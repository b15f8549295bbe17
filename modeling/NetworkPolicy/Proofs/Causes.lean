import NetworkPolicy.TagLength

namespace NetworkPolicy

inductive Wrapper where
  | stage (name : String)
  /-- The rollback after the failure met a fault of its own. -/
  | notRolledBack (fault : Sql.Fault)

/-- The questions that callers ask about a failure. -/
inductive Concern where
  | missing
  | exhaustion
  | contention
  | settings
  deriving DecidableEq

namespace Failure

def within (f : Failure) : Wrapper → Failure
  | .stage name => stage name f
  | .notRolledBack fault => notRolledBack fault f

/-- The failure in a nesting of wrappers, the outermost first. -/
def wrapped (f : Failure) (wrappers : List Wrapper) : Failure :=
  wrappers.foldr (fun w g => g.within w) f

def IsBare (f : Failure) : Prop :=
  ∀ g w, f ≠ within g w

/-- Whether the failure raises a concern, as callers ask it. -/
def raises (f : Failure) : Concern → Bool
  | .missing => f.isNotFound
  | .exhaustion => f.isPoolExhausted
  | .contention => f.isContended
  | .settings => f.isSettings

def concern? : Failure → Option Concern
  | notFound => some .missing
  | poolExhausted => some .exhaustion
  | slotsHeld => some .contention
  | tagLength _ | settings _ => some .settings
  | _ => none

variable (f : Failure) (w : Wrapper) (wrappers : List Wrapper) (c : Concern)

theorem root_within : (f.within w).root = f.root := by
  cases w <;> rfl

theorem root_wrapped : (f.wrapped wrappers).root = f.root := by
  induction wrappers with
  | nil => rfl
  | cons w rest ih => exact (root_within _ w).trans ih

theorem isBare_root : f.root.IsBare := by
  induction f with
  | stage name source ih => exact ih
  | notRolledBack fault cause ih => exact ih
  | _ => exact fun _ w => by cases w <;> exact nofun

theorem IsBare.root_eq {f : Failure} (h : f.IsBare) : f.root = f := by
  cases f with
  | stage name source => exact absurd rfl (h source (.stage name))
  | notRolledBack fault cause => exact absurd rfl (h cause (.notRolledBack fault))
  | _ => rfl

/-- By induction on the failure, from the outermost wrapper to the root. -/
theorem exists_eq_wrapped_root : ∃ wrappers, f = f.root.wrapped wrappers := by
  induction f with
  | stage name source ih =>
    obtain ⟨wrappers, hsource⟩ := ih
    exact ⟨.stage name :: wrappers, congrArg (stage name) hsource⟩
  | notRolledBack fault cause ih =>
    obtain ⟨wrappers, hcause⟩ := ih
    exact ⟨.notRolledBack fault :: wrappers, congrArg (notRolledBack fault) hcause⟩
  | _ => exact ⟨[], rfl⟩

theorem root_eq_iff {r : Failure} : f.root = r ↔ r.IsBare ∧ ∃ wrappers, f = r.wrapped wrappers := by
  constructor
  · intro h
    rw [← h]
    exact ⟨f.isBare_root, f.exists_eq_wrapped_root⟩
  · intro ⟨hbare, wrappers, hf⟩
    rw [hf, root_wrapped, hbare.root_eq]

theorem raises_iff : f.raises c = true ↔ f.root.concern? = some c := by
  induction f with
  | stage name source ih => cases c <;> exact ih
  | notRolledBack fault cause ih => cases c <;> exact ih
  | _ => cases c <;> simp [raises, concern?, root, isNotFound, isPoolExhausted, isContended,
      isSettings]

theorem raises_wrapped : (f.wrapped wrappers).raises c = f.raises c := by
  rw [Bool.eq_iff_iff, raises_iff, raises_iff, root_wrapped]

theorem isNotFound_iff : f.isNotFound = true ↔ f.root = notFound := by
  refine (f.raises_iff .missing).trans ?_
  cases f.root <;> simp [concern?]

theorem isPoolExhausted_iff : f.isPoolExhausted = true ↔ f.root = poolExhausted := by
  refine (f.raises_iff .exhaustion).trans ?_
  cases f.root <;> simp [concern?]

theorem isContended_iff : f.isContended = true ↔ f.root = slotsHeld := by
  refine (f.raises_iff .contention).trans ?_
  cases f.root <;> simp [concern?]

theorem isSettings_iff : f.isSettings = true ↔
    (∃ bytes, f.root = tagLength bytes) ∨ ∃ detail, f.root = settings detail := by
  refine (f.raises_iff .settings).trans ?_
  cases f.root <;> simp [concern?]

theorem count_raises_le :
    ([.missing, .exhaustion, .contention, .settings].map f.raises).count true ≤ 1 := by
  have hraises : f.raises = fun c => decide (f.root.concern? = some c) := by
    funext c
    rw [Bool.eq_iff_iff, raises_iff, decide_eq_true_iff]
  rw [hraises]
  cases f.root.concern? with
  | none => decide
  | some c => cases c <;> decide

/-- The root decides, not what is around it: at most one question is answered by yes, and what a
failed rollback met does not count, however deep it stands. -/
theorem questions_told_by_root :
    -- the root is what all stages and rollbacks are around
    (∀ r, f.root = r ↔ r.IsBare ∧ ∃ wrappers, f = r.wrapped wrappers) ∧
    -- it answers each question
    (f.isNotFound = true ↔ f.root = notFound) ∧
    (f.isPoolExhausted = true ↔ f.root = poolExhausted) ∧
    (f.isContended = true ↔ f.root = slotsHeld) ∧
    (f.isSettings = true ↔
      (∃ bytes, f.root = tagLength bytes) ∨ ∃ detail, f.root = settings detail) ∧
    [f.isNotFound, f.isPoolExhausted, f.isContended, f.isSettings].count true ≤ 1 ∧
    -- wrappers change no answer, and neither does the fault of a rollback
    ∀ c wrappers, (f.wrapped wrappers).raises c = f.raises c ∧
      ∀ fault fault', ((notRolledBack fault f).wrapped wrappers).raises c =
        ((notRolledBack fault' f).wrapped wrappers).raises c := by
  refine ⟨fun r => f.root_eq_iff, f.isNotFound_iff, f.isPoolExhausted_iff, f.isContended_iff,
    f.isSettings_iff, f.count_raises_le, fun c wrappers => ⟨f.raises_wrapped wrappers c, ?_⟩⟩
  intro fault fault'
  have hfault : ∀ fault, (notRolledBack fault f).raises c = f.raises c := fun fault =>
    f.raises_wrapped [.notRolledBack fault] c
  rw [raises_wrapped, raises_wrapped, hfault, hfault]

theorem blame_eq_client_iff :
    f.blame = .client ↔ f.root = poolExhausted ∨ ∃ bytes, f = tagLength bytes := by
  rw [← isPoolExhausted_iff]
  unfold blame
  by_cases h : f.isPoolExhausted = true
  · rw [if_pos h]
    exact iff_of_true rfl (.inl h)
  · rw [if_neg h, or_iff_right h]
    cases f <;> simp

theorem wrapped_eq_tagLength_iff {bytes : Nat} :
    f.wrapped wrappers = tagLength bytes ↔ wrappers = [] ∧ f = tagLength bytes := by
  constructor
  · intro h
    cases wrappers with
    | nil => exact ⟨rfl, h⟩
    | cons w rest => cases w <;> cases h
  · intro ⟨hnil, hf⟩
    rw [hnil, hf]
    rfl

theorem blame_eq_iff {f g : Failure} :
    f.blame = g.blame ↔ (f.blame = .client ↔ g.blame = .client) := by
  cases f.blame <;> cases g.blame <;> decide

/-- Wrapping a failure leaves the blame where it is, unless the failure is a bare tag length: that
becomes the fault of the server under the first wrapper, and stays so. -/
theorem wrapped_failure_blame :
    ((f.wrapped wrappers).blame = .client ↔
      f.root = poolExhausted ∨ (wrappers = [] ∧ ∃ bytes, f = tagLength bytes)) ∧
    ((f.wrapped wrappers).blame = f.blame ↔ wrappers = [] ∨ ∀ bytes, f ≠ tagLength bytes) := by
  have hclient : (f.wrapped wrappers).blame = .client ↔
      f.root = poolExhausted ∨ (wrappers = [] ∧ ∃ bytes, f = tagLength bytes) := by
    rw [blame_eq_client_iff, root_wrapped]
    simp only [wrapped_eq_tagLength_iff, exists_and_left]
  refine ⟨hclient, ?_⟩
  rw [blame_eq_iff, hclient, blame_eq_client_iff]
  by_cases hf : ∃ bytes, f = tagLength bytes
  · obtain ⟨bytes, rfl⟩ := hf
    simp [root]
  · simp [not_exists.1 hf]

/-- A tag length that is refused is the fault of the client, and of the server as soon as a stage or
a rollback is put around it. -/
theorem wrapped_tag_length_blames_server :
    TagLength.ofBytes 4 = .error (.tagLength 4) ∧ (tagLength 4).blame = .client ∧
      ((tagLength 4).wrapped [.stage "listing all"]).blame = .server ∧
      ((tagLength 4).wrapped [.notRolledBack .poolClosed]).blame = .server :=
  ⟨rfl, rfl, rfl, rfl⟩

end Failure

end NetworkPolicy
