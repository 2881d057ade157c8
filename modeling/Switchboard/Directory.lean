import Switchboard.Identity

/-!
# The directory

The directory says who is registered, and with what. It never overwrites: a
second registration of an identity is refused until the first has been removed.
Its entries are listed in the order of their identities.
-/

namespace Switchboard

/-- Why the directory refused. -/
inductive DirectoryError
  | emptyIdentity
  | alreadyRegistered (identity : Identity)
  | notRegistered (identity : Identity)
  deriving DecidableEq, Repr

namespace DirectoryError

/-- The wording of the error. -/
def message : DirectoryError → String
  | emptyIdentity => "identity must not be empty"
  | alreadyRegistered identity => "identity '" ++ identity.name ++ "' is already registered"
  | notRegistered identity => "identity '" ++ identity.name ++ "' is not registered"

end DirectoryError

/-- The registered identities, each with its handle. -/
structure Directory (Handle : Type) where
  table : Std.ExtTreeMap Identity Handle Identity.order

namespace Directory

variable {Handle : Type}

/-- Nobody is registered. -/
def empty : Directory Handle :=
  ⟨∅⟩

instance : Inhabited (Directory Handle) :=
  ⟨empty⟩

/-- The handle registered under an identity. -/
def find? (directory : Directory Handle) (identity : Identity) : Option Handle :=
  directory.table[identity]?

/-- Whether an identity is registered. -/
def contains (directory : Directory Handle) (identity : Identity) : Bool :=
  directory.table.contains identity

/-- The number of registered identities. -/
def size (directory : Directory Handle) : Nat :=
  directory.table.size

/-- The registered identities in order. -/
def identities (directory : Directory Handle) : List Identity :=
  directory.table.keys

/-- The registered identities with their handles, in order. -/
def entries (directory : Directory Handle) : List (Identity × Handle) :=
  directory.table.toList

/-- The handles of the registered identities, in the same order. -/
def handles (directory : Directory Handle) : List Handle :=
  directory.entries.map Prod.snd

/-- Register a handle under an identity that is not in use. -/
def add (directory : Directory Handle) (identity : Identity) (handle : Handle) :
    Except DirectoryError (Directory Handle) :=
  if identity.isEmpty then
    .error .emptyIdentity
  else if directory.contains identity then
    .error (.alreadyRegistered identity)
  else
    .ok ⟨directory.table.insert identity handle⟩

/-- The handle registered under an identity, or the reason why there is none. -/
def get (directory : Directory Handle) (identity : Identity) :
    Except DirectoryError Handle :=
  match directory.find? identity with
  | some handle => .ok handle
  | none => .error (.notRegistered identity)

/-- Take an identity out of the directory. -/
def erase (directory : Directory Handle) (identity : Identity) : Directory Handle :=
  ⟨directory.table.erase identity⟩

/-- Take an identity out of the directory and hand back its handle. -/
def remove (directory : Directory Handle) (identity : Identity) :
    Except DirectoryError (Handle × Directory Handle) :=
  (directory.get identity).map (·, directory.erase identity)

end Directory

end Switchboard
