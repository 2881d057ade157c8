/-!
# Request targets

A request says what it is about by a target. Mostly this is a path, which a
query or a fragment may follow. It may also be a whole address with a scheme
and an authority in front of the path, or an authority alone, which has no
path.
-/

namespace Switchboard.Http.Target

/-- The characters at which a query or a fragment begins. -/
def endsPath (character : Char) : Bool :=
  character = '?' || character = '#'

/-- The characters up to a query or a fragment. -/
def beforeQuery (characters : List Char) : List Char :=
  characters.takeWhile fun character => !endsPath character

/-- The characters that the name of a scheme is made of. -/
def isSchemeCharacter (character : Char) : Bool :=
  character.isAlphanum || ['+', '-', '.', '~'].contains character

/-- What follows a scheme and its marks. -/
def afterScheme? (characters : List Char) : Option (List Char) :=
  match characters.dropWhile isSchemeCharacter with
  | ':' :: '/' :: '/' :: rest => some rest
  | _ => none

/-- What follows an authority. -/
def afterAuthority (characters : List Char) : List Char :=
  characters.dropWhile fun character => character ≠ '/' && !endsPath character

/-- The path of a target. After a scheme and an authority an empty path
stands for the root. -/
def path (target : String) : String :=
  match target.toList with
  | '/' :: rest => String.ofList ('/' :: beforeQuery rest)
  | characters =>
      match afterScheme? characters with
      | none => ""
      | some rest =>
          match beforeQuery (afterAuthority rest) with
          | [] => "/"
          | found => String.ofList found

end Switchboard.Http.Target
