import PredicateDispatch.Registry.Operation
import PredicateDispatch.Library.Handles

/-!
# What a running program can change

Beside the registry a program has closures, named variables, a console and the handles of the base
library that was installed last.
-/

namespace PredicateDispatch

/-- Where printed lines go.  A closed console refuses every write. -/
structure Console where
  isOpen : Bool := true
  text : String := ""
deriving DecidableEq, Repr

namespace Console

def write (console : Console) (text : String) : Except Error Unit × Console :=
  if console.isOpen then (.ok (), { console with text := console.text ++ text })
  else (.error (.io "sink is closed"), console)

end Console

structure World (Code : Type) where
  registry : Registry Code
  /-- A closure's identity is its position. -/
  closures : Array Code := #[]
  store : Std.TreeMap String Value := ∅
  console : Console := {}
  library : Option Library := none

end PredicateDispatch
