import ServiceStub.Stub.Basic

namespace ServiceStub

variable {S Input : Type}

structure StubEntry (S : Type) where
  seq : Nat
  stub : S

/-- Stubs with pairwise different ids, by ascending registration numbers. -/
structure StubStore (S : Type) where
  entries : List (StubEntry S) := []
  nextSeq : Nat := 0

namespace StubStore

def toList (store : StubStore S) : List S := store.entries.map StubEntry.stub

def size (store : StubStore S) : Nat := store.entries.length

variable [Stub S Input]

def find? (store : StubStore S) (id : Uuid) : Option S :=
  store.toList.find? fun stub => Stub.id stub == id

def add (store : StubStore S) (stub : S) : Except StateError (StubStore S) :=
  if (store.find? (Stub.id stub)).isSome then .error (.duplicateStub (Stub.id stub))
  else
    .ok { entries := store.entries ++ [⟨store.nextSeq, stub⟩], nextSeq := store.nextSeq + 1 }

def replace (store : StubStore S) (stub : S) : Except StateError (StubStore S) :=
  if (store.find? (Stub.id stub)).isSome then
    .ok { store with
      entries := store.entries.map fun entry =>
        if Stub.id entry.stub == Stub.id stub then { entry with stub } else entry }
  else .error (.stubNotFound (Stub.id stub))

omit [Stub S Input] in
def removeWhere (store : StubStore S) (condition : S → Bool) : List S × StubStore S :=
  ((store.entries.filter fun entry => condition entry.stub).map StubEntry.stub,
    { store with entries := store.entries.filter fun entry => !condition entry.stub })

omit [Stub S Input] in
def reset (store : StubStore S) (keep : S → Bool) : List S × StubStore S :=
  store.removeWhere fun stub => !keep stub

def remove (store : StubStore S) (id : Uuid) : Option S × StubStore S :=
  let (removed, store) := store.removeWhere fun stub => Stub.id stub == id
  (removed.head?, store)

end StubStore

end ServiceStub
