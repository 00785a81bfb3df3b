import RouteServer.Json.Value

/-
  **Users** — the data of the demonstration.
-/

namespace RouteServer.Demo

structure User where
  id : Int
  name : String
  email : String
  deriving DecidableEq, Repr

def User.ofNumber (n : Nat) : User :=
  ⟨n, "user" ++ toString n, "user" ++ toString n ++ "@example.com"⟩

def User.toJson (u : User) : Json :=
  Json.object [("id", .int u.id), ("name", .str u.name), ("email", .str u.email)]

structure Users where
  toList : List User
  deriving DecidableEq, Repr

namespace Users

/-- The users numbered from 1. -/
def generate (count : Nat) : Users := ⟨(List.range count).map fun i => User.ofNumber (i + 1)⟩

def get? (us : Users) (id : Int) : Option User := us.toList.find? (·.id = id)

def size (us : Users) : Nat := us.toList.length

end Users

end RouteServer.Demo
