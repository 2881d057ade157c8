import Switchboard.Text.Utf8
import Std.Data.ExtTreeSet

/-!
# Identities

An identity names one connection for as long as that connection is registered.
Identities are opaque: they are compared, sorted by the bytes of their names
and shown, and nothing else is read into them.
-/

namespace Switchboard

/-- The name under which a connection is registered. -/
structure Identity where
  name : String
  deriving DecidableEq, Repr, Inhabited

namespace Identity

/-- An identity without a name, under which nobody can be registered. -/
def isEmpty (identity : Identity) : Bool :=
  identity.name.isEmpty

/-- Identities are sorted by the bytes of their names. -/
def order (first second : Identity) : Ordering :=
  compareOn (fun identity : Identity => Text.utf8 identity.name) first second

instance : Std.TransCmp order :=
  inferInstanceAs (Std.TransCmp (compareOn fun identity : Identity => Text.utf8 identity.name))

instance : Std.LawfulEqCmp order where
  eq_of_compare := by
    rintro ⟨first⟩ ⟨second⟩ same
    exact congrArg Identity.mk (Text.utf8_injective (Std.LawfulEqCmp.eq_of_compare same))

end Identity

/-- Sets of identities, listed in the order of their names. -/
abbrev IdentitySet := Std.ExtTreeSet Identity Identity.order

end Switchboard
