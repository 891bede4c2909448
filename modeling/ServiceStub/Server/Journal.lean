namespace ServiceStub

/-- A log, oldest entry first.  Once it is full each entry displaces the oldest, and a log with
limit zero records nothing. -/
structure Journal (E : Type) where
  limit : Option Nat := none
  entries : List E := []
  deriving Repr, DecidableEq

namespace Journal

variable {E : Type}

def record (journal : Journal E) (entry : E) : Journal E :=
  let entries := journal.entries ++ [entry]
  match journal.limit with
  | none => { journal with entries }
  | some limit => { journal with entries := entries.drop (entries.length - limit) }

def clear (journal : Journal E) : Journal E := { journal with entries := [] }

end Journal

end ServiceStub
