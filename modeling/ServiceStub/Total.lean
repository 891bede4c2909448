namespace ServiceStub

variable {α : Type}

def total (measure : α → Nat) : List α → Nat
  | [] => 0
  | head :: tail => measure head + total measure tail

end ServiceStub
