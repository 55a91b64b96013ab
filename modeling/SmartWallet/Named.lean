/-!
# Named values

Enumerations whose values are known by name: in settings, in reports and on the wire.
-/

namespace SmartWallet

/-- A type of finitely many values, each with a name. -/
class Named (α : Type) where
  all : List α
  name : α → String
  mem_all : ∀ a : α, a ∈ all

namespace Named

/-- The value with the given name. -/
def ofName? {α : Type} [Named α] (s : String) : Option α := all.find? fun a => name a == s

end Named

end SmartWallet
