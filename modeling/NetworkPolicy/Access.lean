import NetworkPolicy.Payload

namespace NetworkPolicy.Access

open Json (Record Field Codec)

structure Token where
  user : String := ""
  scopes : List String := []
  deriving DecidableEq, Inhabited

structure Space where
  name : String := ""
  organization : String := ""
  deriving DecidableEq, Inhabited

def Token.record : Record Token where
  name := "TokenInfo"
  blank := {}
  fields := [
    .required "user_id" .text user fun a t => { t with user := a },
    .defaulted "scope" (.list .text) scopes fun a t => { t with scopes := a }]

def Space.record : Record Space where
  name := "Space"
  blank := {}
  fields := [
    .required "name" .text name fun a s => { s with name := a },
    .required "org_guid" .text organization fun a s => { s with organization := a }]

def adminScope : String := "network.admin"

def Token.isAdmin (t : Token) : Bool :=
  t.scopes.contains adminScope

def Token.mayListEgress (t : Token) : Bool :=
  t.isAdmin

structure Collection where
  policies : List Policy := []
  egress : List Payload.EgressPolicy := []

def insertSorted (s : String) : List String → List String
  | [] => [s]
  | t :: rest =>
    if s < t then s :: t :: rest
    else if s = t then t :: rest
    else t :: insertSorted s rest

/-- The ids at both ends of the policies, ascending and each once. -/
def Collection.apps (c : Collection) : List String :=
  (c.policies.flatMap fun p => [p.source.id, p.destination.id]).foldr insertSorted []

/-- A question to a service, with its arguments. -/
inductive Call where
  | token
  | spacesOf (token : String) (apps : List String)
  | space (token guid : String)
  | userSpace (token user : String) (space : Space)
  deriving DecidableEq, Inhabited

/-- What the services answer at one time; a service may fail with a message. -/
structure Services where
  token : Except String String
  spacesOf : String → List String → Except String (List String)
  space : String → String → Except String (Option Space)
  userSpace : String → String → Space → Except String (Option Space)

/-- The services over time. What they answer may depend on the questions they were asked before. -/
abbrev Platform := List Call → Services

inductive Failure where
  | token (detail : String)
  | spacesOf (detail : String)
  | space (guid detail : String)
  deriving DecidableEq, Inhabited

namespace Failure

def detail : Failure → String
  | token detail | spacesOf detail | space _ detail => detail

def message : Failure → String
  | token detail => "getting token: " ++ detail
  | spacesOf detail => "getting space guids: " ++ detail
  | space guid detail => "getting space with guid " ++ guid ++ ": " ++ detail

end Failure

/-- A check that notes its questions. -/
abbrev Inquiry (α : Type) := ExceptT Failure (StateM (List Call)) α

def ask {α : Type} (platform : Platform) (call : Call) (answer : Services → Except String α)
    (failure : String → Failure) : Inquiry α := do
  let asked ← get
  set (asked ++ [call])
  match answer (platform asked) with
  | .ok a => return a
  | .error detail => throw (failure detail)

/-- Every space exists and has the user as a member. The first one that does not decides. -/
def memberOfAll (platform : Platform) (token user : String) : List String → Inquiry Bool
  | [] => return true
  | guid :: rest => do
    match ← ask platform (.space token guid) (·.space token guid) (.space guid) with
    | none => return false
    | some space =>
      match ← ask platform (.userSpace token user space) (·.userSpace token user space)
          (.space guid) with
      | none => return false
      | some _ => memberOfAll platform token user rest

def mayWrite (platform : Platform) (c : Collection) (t : Token) : Inquiry Bool := do
  if t.isAdmin then return true
  if !c.egress.isEmpty then return false
  let token ← ask platform .token (·.token) .token
  let guids ← ask platform (.spacesOf token c.apps) (·.spacesOf token c.apps) .spacesOf
  memberOfAll platform token t.user guids

/-- The decision, and the questions it took. -/
def check (platform : Platform) (c : Collection) (t : Token) : Except Failure Bool × List Call :=
  (mayWrite platform c t).run.run []

end NetworkPolicy.Access
