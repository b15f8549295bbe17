import NetworkPolicy.Proofs.Outcome

namespace NetworkPolicy.Store

open Work

/-- A call that a batch makes of an operation. Finding or creating a destination is three of them:
the insertion, the call that records the range, and reading the row back. -/
inductive Call where
  | claimSource (guid type : String)
  | claimDestination (guid type : String)
  | insertDestination (key : DestinationKey) (port : UInt16)
  | recordRange (r : RangeRow)
  | readDestination (key : DestinationKey)
  | addPolicy (p : PolicyRow)
  | lookupSource (guid : String)
  | lookupDestination (guid : String)
  | findDestination (key : DestinationKey)
  | removePolicy (p : PolicyRow)
  | countByDestination (destination : Int)
  | removeDestination (destination : Int)
  | countByGroup (group : Int)
  | countReferencing (group : Int)
  | dropRange (group : Int)
  | release (group : Int)
  deriving DecidableEq

namespace Call

/-- The operation that the call is one of. A row is read back within the call that inserted it. -/
def operation? : Call → Option Operation
  | claimSource _ _ | claimDestination _ _ => some .claim
  | insertDestination _ _ => some .findOrCreate
  | recordRange _ => some .addRange
  | readDestination _ => none
  | addPolicy _ => some .addPolicy
  | lookupSource _ | lookupDestination _ => some .lookup
  | findDestination _ => some .findDestination
  | removePolicy _ => some .removePolicy
  | countByDestination _ => some .countByDestination
  | removeDestination _ => some .removeDestination
  | countByGroup _ => some .countByGroup
  | countReferencing _ => some .countReferencing
  | dropRange _ => some .dropRange
  | release _ => some .release

/-- The stage that a failure of the call is named after. -/
def stage : Call → String
  | claimSource _ _ | claimDestination _ _ => "creating group"
  | insertDestination _ _ | recordRange _ | readDestination _ => "creating destination"
  | addPolicy _ => "creating policy"
  | lookupSource _ => "getting source id"
  | lookupDestination _ => "getting destination group id"
  | findDestination _ => "getting destination id"
  | removePolicy _ => "deleting policy"
  | countByDestination _ => "counting destination id"
  | removeDestination _ => "deleting destination"
  | countByGroup _ | countReferencing _ | dropRange _ | release _ => "deleting group row"

/-- A row that the call does not find makes the batch go on with the next policy. -/
def mayMiss : Call → Bool
  | lookupSource _ | lookupDestination _ | findDestination _ | removePolicy _ => true
  | _ => false

/-- The failure of the call is no failure of the batch. -/
def passesOver (c : Call) (f : Failure) : Bool :=
  c.mayMiss && f.isNotFound

@[reducible] def Answer : Call → Type
  | claimSource _ _ | claimDestination _ _ | readDestination _ => Int
  | lookupSource _ | lookupDestination _ | findDestination _ => Int
  | countByDestination _ | countByGroup _ | countReferencing _ => Nat
  | insertDestination _ _ | recordRange _ | addPolicy _ => Unit
  | removePolicy _ | removeDestination _ | dropRange _ | release _ => Unit

def perform : (c : Call) → Work c.Answer
  | claimSource guid type | claimDestination guid type => Work.claim guid type
  | insertDestination key port => Work.call .findOrCreate
      (update (fun s => do s.demand [.destinations]; s.demandInFull [.groups])
        (·.addDestination key port.toNat))
  | recordRange r => Work.addRange r
  | readDestination key => destinationId key
  | addPolicy p => Work.addPolicy p
  | lookupSource guid | lookupDestination guid => lookup guid
  | findDestination key => Work.findDestination key
  | removePolicy p => Work.removePolicy p
  | countByDestination destination => Work.countByDestination destination
  | removeDestination destination => Work.removeDestination destination
  | countByGroup group => Work.countByGroup group
  | countReferencing group => Work.countReferencing group
  | dropRange group => Work.dropRange group
  | release group => Work.release group

end Call

/-- Calls in their order, each with what is done with its answer. -/
inductive Script where
  | done
  | call (c : Call) (next : c.Answer → Script)

namespace Script

/-- A row that is not found ends the script, where the call may miss; any other failure ends it too
and is named after the stage of the call. -/
def play : Script → Session → Except Failure Unit × Session
  | done, s => (.ok (), s)
  | call c next, s =>
    match c.perform.on s with
    | (.ok a, s') => (next a).play s'
    | (.error e, s') =>
      if c.passesOver e then (.ok (), s') else (.error (.stage c.stage e), s')

def trace : Script → Session → List (Call × Option Failure)
  | done, _ => []
  | call c next, s =>
    match c.perform.on s with
    | (.ok a, s') => (c, none) :: (next a).trace s'
    | (.error e, _) => [(c, some e)]

/-- Gives the slot of a group back when nothing needs it, then goes on. -/
def release (group : Int) (rest : Script) : Script :=
  .call (.countByGroup group) fun policies =>
  .call (.countReferencing group) fun destinations =>
  if policies = 0 ∧ destinations = 0 then
    .call (.dropRange group) fun _ => .call (.release group) fun _ => rest
  else rest

def destination (key : DestinationKey) (port : UInt16) (ranges : List AddressRange)
    (rest : Int → Script) : Script :=
  .call (.insertDestination key port) fun _ =>
  match ranges with
  | [] => .call (.readDestination key) rest
  | r :: _ => .call (.recordRange ⟨key.group, r.first, r.last⟩) fun _ =>
      .call (.readDestination key) rest

def create (p : Policy) : Script :=
  .call (.claimSource p.source.id (typeOrDefault p.source.type)) fun source =>
  .call (.claimDestination p.destination.id (typeOrDefault p.destination.type)) fun group =>
  destination (destinationKey group p.destination) p.destination.legacyPort p.destination.ranges
    fun destination => .call (.addPolicy ⟨source, destination⟩) fun _ => .done

def delete (p : Policy) : Script :=
  .call (.lookupSource p.source.id) fun source =>
  .call (.lookupDestination p.destination.id) fun group =>
  .call (.findDestination (destinationKey group p.destination)) fun destination =>
  .call (.removePolicy ⟨source, destination⟩) fun _ =>
  .call (.countByDestination destination) fun left =>
  if left = 0 then
    .call (.removeDestination destination) fun _ => release source (release group .done)
  else release source (release group .done)

end Script

theorem play_sought (c : Call) (next : c.Answer → Script) (s : Session) (h : c.mayMiss = true) :
    (Script.call c next).play s =
      match (soughtAt c.stage c.perform).on s with
      | (.ok (some a), s') => (next a).play s'
      | (.ok none, s') => (.ok (), s')
      | (.error e, s') => (.error e, s') := by
  rw [soughtAt_on, Script.play]
  obtain ⟨e | _, _⟩ := c.perform.on s
  · simp only [Call.passesOver, h, Bool.true_and]
    cases e.isNotFound <;> rfl
  · rfl

theorem play_staged (c : Call) (next : c.Answer → Script) (s : Session) (h : c.mayMiss = false) :
    (Script.call c next).play s =
      match (staged c.stage c.perform).on s with
      | (.ok a, s') => (next a).play s'
      | (.error e, s') => (.error e, s') := by
  rw [staged_on, Script.play]
  obtain ⟨_ | _, _⟩ := c.perform.on s
  · simp only [Call.passesOver, h, Bool.false_and, Bool.false_eq_true, if_false]
  · rfl

theorem release_play (group : Int) (rest : Script) (s : Session) :
    (Script.release group rest).play s =
      match (staged "deleting group row" (releaseUnused group)).on s with
      | (.ok (), s') => rest.play s'
      | (.error e, s') => (.error e, s') := by
  simp only [Script.release, Script.play, staged_on, releaseUnused, bind_on, Call.perform]
  obtain ⟨_ | policies, s₁⟩ := (Work.countByGroup group).on s
  · rfl
  simp only
  obtain ⟨_ | destinations, s₂⟩ := (Work.countReferencing group).on s₁
  · rfl
  simp only
  split
  · simp only [Script.play, Call.perform, bind_on]
    obtain ⟨_ | _, s₃⟩ := (Work.dropRange group).on s₂
    · rfl
    simp only
    obtain ⟨_ | _, _⟩ := (Work.release group).on s₃ <;> rfl
  · rfl

theorem releases_play (source group : Int) (s : Session) :
    (Script.release source (Script.release group .done)).play s =
      (do staged "deleting group row" (releaseUnused source)
          staged "deleting group row" (releaseUnused group) : Work Unit).on s := by
  simp only [release_play, bind_on, Script.play]
  obtain ⟨_ | _, s'⟩ := (staged "deleting group row" (releaseUnused source)).on s
  · rfl
  simp only
  obtain ⟨_ | _, _⟩ := (staged "deleting group row" (releaseUnused group)).on s' <;> rfl

theorem deletePolicy_on (p : Policy) (s : Session) :
    (deletePolicy p).on s = (Script.delete p).play s := by
  rw [deletePolicy, bind_on, Script.delete, play_sought _ _ s rfl]
  simp only [Call.stage, Call.perform]
  obtain ⟨_ | _ | source, s₁⟩ := (soughtAt "getting source id" (lookup p.source.id)).on s
  · rfl
  · rfl
  simp only
  rw [bind_on, play_sought _ _ s₁ rfl]
  simp only [Call.stage, Call.perform]
  obtain ⟨_ | _ | group, s₂⟩ :=
    (soughtAt "getting destination group id" (lookup p.destination.id)).on s₁
  · rfl
  · rfl
  simp only
  rw [bind_on, play_sought _ _ s₂ rfl]
  simp only [Call.stage, Call.perform]
  obtain ⟨_ | _ | destination, s₃⟩ := (soughtAt "getting destination id"
    (Work.findDestination (destinationKey group p.destination))).on s₂
  · rfl
  · rfl
  simp only
  rw [bind_on, play_sought _ _ s₃ rfl]
  simp only [Call.stage, Call.perform]
  obtain ⟨_ | _ | _, s₄⟩ :=
    (soughtAt "deleting policy" (Work.removePolicy ⟨source, destination⟩)).on s₃
  · rfl
  · rfl
  simp only
  rw [bind_on, play_staged _ _ s₄ rfl]
  simp only [Call.stage, Call.perform]
  obtain ⟨_ | left, s₅⟩ :=
    (staged "counting destination id" (Work.countByDestination destination)).on s₄
  · rfl
  simp only
  split
  · rw [bind_on, play_staged _ _ s₅ rfl]
    simp only [Call.stage, Call.perform]
    obtain ⟨_ | _, s₆⟩ :=
      (staged "deleting destination" (Work.removeDestination destination)).on s₅
    · rfl
    exact (releases_play source group s₆).symm
  · exact (releases_play source group s₅).symm

end NetworkPolicy.Store
