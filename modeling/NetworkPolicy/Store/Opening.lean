import NetworkPolicy.Migration.Steps
import NetworkPolicy.TagLength

namespace NetworkPolicy.Store

open Work

def batchSize : Nat := 1000

def insertSlots (count : Nat) : Work Unit :=
  update
    (fun s => do
      s.demand [.groups]
      if s.groups = .idOnly then throw (.missingColumn "groups" "guid"))
    fun t => .ok (t.addSlots count)

/-- Inserts the slots that are left, a batch at a time. -/
def fillBy (insert : Nat → Work Unit) (left : Nat) : Work Unit :=
  if _ : left = 0 then pure ()
  else do
    insert (min batchSize left)
    fillBy insert (left - min batchSize left)
termination_by left
decreasing_by simp only [batchSize]; omega

def fill (left : Nat) : Work Unit :=
  fillBy insertSlots left

/-- Fills a pool that has no slots, in one transaction. -/
def populateBy (insert : Nat → Work Unit) (n : TagLength) : Work Unit := do
  connected
  if ← query (·.demand [.groups]) (·.slots.isEmpty) then
    transact (fillBy insert n.poolSize)

def populate (n : TagLength) : Work Unit :=
  populateBy insertSlots n

def migrate (migrator : Migrator) : Work Nat := do
  let dialect := (← get).dialect
  modify fun s => { s with requests := s.requests ++ [(dialect, 0)] }
  migrator dialect 0

/-- Opens a store with tags of the given length. Stores of policies and of tags are opened alike. -/
def setUp (bytes : Nat) (migrator : Migrator) : Work TagLength := do
  let n ← attempt (TagLength.ofBytes bytes)
  let _ ← staged "perform migrations" (migrate migrator)
  staged "populating tables" (populate n)
  return n

end NetworkPolicy.Store
