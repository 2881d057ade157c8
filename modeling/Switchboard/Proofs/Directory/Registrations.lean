import Switchboard.Proofs.Directory

/-!
# What a directory remembers

A directory changes by registrations and removals, and by those of them that
succeed. What it knows of an identity is what the last of these has left: the
handle of a registration, or nothing. All that can be asked of it agrees with
that.
-/

namespace Switchboard

/-- What changes a directory. -/
inductive DirectoryCall (Handle : Type)
  | add (identity : Identity) (handle : Handle)
  | remove (identity : Identity)
  deriving DecidableEq, Repr

/-- What a directory answers. -/
inductive DirectoryAnswer (Handle : Type)
  | added (result : Except DirectoryError Unit)
  | removed (result : Except DirectoryError Handle)

/-- The answer tells that the call has failed. -/
def DirectoryAnswer.isError {Handle : Type} : DirectoryAnswer Handle → Bool
  | added (.error _) | removed (.error _) => true
  | added (.ok _) | removed (.ok _) => false

/-- What becomes of an identity: it gets a handle, or it has none any more. -/
abbrev Registration (Handle : Type) :=
  Identity × Option Handle

/-- The registration or removal of a call that the answer tells to have succeeded. -/
def DirectoryCall.registration? {Handle : Type} :
    DirectoryCall Handle → DirectoryAnswer Handle → Option (Registration Handle)
  | add identity handle, .added (.ok _) => some (identity, some handle)
  | remove identity, .removed (.ok _) => some (identity, none)
  | _, _ => none

namespace Directory

variable {Handle : Type} {directory next : Directory Handle} {identity : Identity}
  {handle : Handle} {past : List (Registration Handle)}

/-! ## Calls -/

/-- Answer a call. -/
def call (directory : Directory Handle) :
    DirectoryCall Handle → DirectoryAnswer Handle × Directory Handle
  | .add identity handle =>
      match directory.add identity handle with
      | .ok next => (.added (.ok ()), next)
      | .error error => (.added (.error error), directory)
  | .remove identity =>
      match directory.remove identity with
      | .ok (handle, next) => (.removed (.ok handle), next)
      | .error error => (.removed (.error error), directory)

/-- The directory after a list of calls. -/
def afterAll (directory : Directory Handle) (calls : List (DirectoryCall Handle)) :
    Directory Handle :=
  calls.foldl (fun state call => (state.call call).2) directory

/-- All registrations and removals that succeed in the course of a list of calls. -/
def registrations : Directory Handle → List (DirectoryCall Handle) → List (Registration Handle)
  | _, [] => []
  | directory, call :: rest =>
      (call.registration? (directory.call call).1).toList ++
        registrations (directory.call call).2 rest

/-- The handle of an identity after the last of its registrations and removals. -/
def latest? (past : List (Registration Handle)) (identity : Identity) : Option Handle :=
  (past.reverse.find? fun registration => registration.1 = identity).bind Prod.snd

theorem latest?_concat (past : List (Registration Handle)) (registration : Registration Handle)
    (identity : Identity) :
    latest? (past ++ [registration]) identity =
      if registration.1 = identity then registration.2 else latest? past identity := by
  rw [latest?, latest?, List.reverse_concat, List.find?_cons]
  by_cases same : registration.1 = identity <;> simp [same]

/-! ## Single calls -/

/-- What is answered to a registration depends on the identity alone. -/
theorem call_add_fst (directory : Directory Handle) (identity : Identity) (handle : Handle) :
    (directory.call (.add identity handle)).1 = .added
      (if identity.name = "" then .error .emptyIdentity
      else if directory.contains identity then .error (.alreadyRegistered identity)
      else .ok ()) := by
  rw [call, add]
  by_cases unnamed : identity.name = ""
  · rw [if_pos (Identity.isEmpty_iff.mpr unnamed), if_pos unnamed]
  · by_cases taken : directory.contains identity
    · rw [if_neg (mt Identity.isEmpty_iff.mp unnamed), if_neg unnamed, if_pos taken, if_pos taken]
    · rw [if_neg (mt Identity.isEmpty_iff.mp unnamed), if_neg unnamed, if_neg taken, if_neg taken]

/-- A removal hands back what would have been found. -/
theorem call_remove_fst (directory : Directory Handle) (identity : Identity) :
    (directory.call (.remove identity)).1 = .removed (directory.get identity) := by
  rw [call, remove]
  cases directory.get identity <;> rfl

/-- A call that fails changes nothing. -/
theorem call_snd_of_isError {call : DirectoryCall Handle}
    (failed : (directory.call call).1.isError = true) : (directory.call call).2 = directory := by
  cases call with
  | add identity handle =>
      rw [Directory.call] at failed ⊢
      cases outcome : directory.add identity handle with
      | error error => rfl
      | ok next =>
          rw [outcome] at failed
          contradiction
  | remove identity =>
      rw [Directory.call] at failed ⊢
      cases outcome : directory.remove identity with
      | error error => rfl
      | ok removed =>
          rw [outcome] at failed
          contradiction

/-! ## What remains of the past -/

/-- The directory knows of every identity what the past has left, and nobody is
registered without a name. The past is what has succeeded. -/
structure Follows (directory : Directory Handle) (past : List (Registration Handle)) : Prop where
  find?_eq : ∀ identity, directory.find? identity = latest? past identity
  named : ∀ identity, directory.contains identity = true → identity.name ≠ ""

namespace Follows

theorem empty : (empty : Directory Handle).Follows [] where
  find?_eq := find?_empty
  named := by
    intro identity listed
    rw [contains_eq_isSome_find?, find?_empty] at listed
    contradiction

theorem add (follows : directory.Follows past)
    (added : directory.add identity handle = .ok next) :
    next.Follows (past ++ [(identity, some handle)]) where
  find?_eq := by
    intro other
    rw [find?_add added, latest?_concat, follows.find?_eq]
    simp only [eq_comm]
  named := by
    intro other listed
    rw [contains_add added, Bool.or_eq_true, decide_eq_true_iff] at listed
    rcases listed with rfl | before
    · have named := (add_eq_ok_iff.mp added).1
      rwa [Bool.eq_false_iff, ne_eq, Identity.isEmpty_iff] at named
    · exact follows.named other before

theorem erase (follows : directory.Follows past) (identity : Identity) :
    (directory.erase identity).Follows (past ++ [(identity, none)]) where
  find?_eq := by
    intro other
    rw [find?_erase, latest?_concat, follows.find?_eq]
    simp only [eq_comm]
  named := by
    intro other listed
    rw [contains_erase, Bool.and_eq_true] at listed
    exact follows.named other listed.2

/-- A call that fails leaves the past as it is. -/
theorem unchanged (follows : directory.Follows past) : directory.Follows (past ++ []) := by
  rw [List.append_nil]
  exact follows

theorem call (follows : directory.Follows past) (call : DirectoryCall Handle) :
    (directory.call call).2.Follows
      (past ++ (call.registration? (directory.call call).1).toList) := by
  cases call with
  | add identity handle =>
      rw [Directory.call]
      cases outcome : directory.add identity handle with
      | error error => exact follows.unchanged
      | ok next => exact follows.add outcome
  | remove identity =>
      rw [Directory.call, remove]
      cases directory.get identity with
      | error error => exact follows.unchanged
      | ok handle => exact follows.erase identity

theorem afterAll (follows : directory.Follows past) (calls : List (DirectoryCall Handle)) :
    (directory.afterAll calls).Follows (past ++ directory.registrations calls) := by
  induction calls generalizing directory past with
  | nil => exact follows.unchanged
  | cons call rest ih =>
      rw [registrations, ← List.append_assoc]
      exact ih (follows.call call)

end Follows

/-! ## Answers -/

/-- What a directory answers after a past of registrations and removals. -/
structure Remembers (past : List (Registration Handle)) (directory : Directory Handle) :
    Prop where
  /-- Being without a name goes before being in use. -/
  unnamed_iff : ∀ identity handle,
    (directory.call (.add identity handle)).1 = .added (.error .emptyIdentity) ↔ identity.name = ""
  taken_iff : ∀ identity handle other,
    (directory.call (.add identity handle)).1 = .added (.error (.alreadyRegistered other)) ↔
      identity.name ≠ "" ∧ directory.contains identity = true ∧ other = identity
  added_iff : ∀ identity handle, (directory.call (.add identity handle)).1 = .added (.ok ()) ↔
    identity.name ≠ "" ∧ directory.contains identity = false
  unchanged : ∀ call, (directory.call call).1.isError = true → (directory.call call).2 = directory
  get_iff : ∀ identity handle,
    directory.get identity = .ok handle ↔ latest? past identity = some handle
  missing_iff : ∀ identity error,
    directory.get identity = .error error ↔
      latest? past identity = none ∧ error = .notRegistered identity
  removed : ∀ identity,
    (directory.call (.remove identity)).1 = .removed (directory.get identity)
  contains_iff : ∀ identity,
    directory.contains identity = true ↔ ∃ handle, directory.get identity = .ok handle
  in_order : directory.identities.Pairwise fun before after =>
    Text.byteOrder before.name after.name = .lt
  listed_iff : ∀ identity,
    identity ∈ directory.identities ↔ directory.contains identity = true
  named : ∀ identity ∈ directory.identities, identity.name ≠ ""
  entry_iff : ∀ identity handle,
    (identity, handle) ∈ directory.entries ↔ directory.get identity = .ok handle
  length_handles : directory.handles.length = directory.identities.length
  length_entries : directory.entries.length = directory.identities.length
  size_eq : directory.size = directory.identities.length

/-- Whatever is registered and removed, a directory answers by the last registration
or removal of each identity that has succeeded, and all its answers agree. -/
theorem remembers_registrations (calls : List (DirectoryCall Handle)) :
    Remembers (registrations empty calls) ((empty : Directory Handle).afterAll calls) := by
  have follows : ((empty : Directory Handle).afterAll calls).Follows (registrations empty calls) :=
    Follows.empty.afterAll calls
  generalize (empty : Directory Handle).afterAll calls = directory at follows
  constructor
  case unnamed_iff =>
    intro identity handle
    rw [call_add_fst]
    split_ifs with unnamed <;> simp [unnamed]
  case taken_iff =>
    intro identity handle other
    rw [call_add_fst]
    split_ifs with unnamed taken
    · simp [unnamed]
    · simp [unnamed, taken, eq_comm]
    · simp [unnamed, taken]
  case added_iff =>
    intro identity handle
    rw [call_add_fst]
    split_ifs with unnamed taken
    · simp [unnamed]
    · simp [unnamed, taken]
    · simpa [unnamed] using taken
  case unchanged => exact fun call => call_snd_of_isError
  case get_iff =>
    intro identity handle
    rw [get_eq_ok_iff, follows.find?_eq]
  case missing_iff =>
    intro identity error
    rw [get_eq_error_iff, follows.find?_eq]
  case removed => exact directory.call_remove_fst
  case contains_iff =>
    intro identity
    simp only [get_eq_ok_iff, contains_iff_exists_find?]
  case in_order => exact directory.pairwise_identities
  case listed_iff => exact fun identity => mem_identities_iff
  case named => exact fun identity listed => follows.named identity (mem_identities_iff.mp listed)
  case entry_iff =>
    intro identity handle
    rw [get_eq_ok_iff, mem_entries_iff]
  case length_handles => rw [handles, List.length_map, length_identities, length_entries]
  case length_entries => rw [length_identities, length_entries]
  case size_eq => exact directory.length_identities.symm

/-- Alice is registered twice and keeps her first handle, until she is removed and
registered once more. -/
theorem remembers_registrations_alice :
    let calls : List (DirectoryCall Nat) :=
      [.add ⟨"alice"⟩ 1, .add ⟨"alice"⟩ 2, .remove ⟨"bob"⟩, .remove ⟨"alice"⟩, .add ⟨"alice"⟩ 3]
    registrations empty calls =
        [(⟨"alice"⟩, some 1), (⟨"alice"⟩, none), (⟨"alice"⟩, some 3)] ∧
      ((empty : Directory Nat).afterAll (calls.take 3)).get ⟨"alice"⟩ = .ok 1 ∧
      ((empty : Directory Nat).afterAll (calls.take 4)).get ⟨"alice"⟩ =
        .error (.notRegistered ⟨"alice"⟩) ∧
      ((empty : Directory Nat).afterAll calls).get ⟨"alice"⟩ = .ok 3 := by
  intro calls
  refine ⟨by decide +kernel, ?_, ?_, ?_⟩
  · exact ((remembers_registrations (calls.take 3)).get_iff _ _).mpr (by decide +kernel)
  · exact ((remembers_registrations (calls.take 4)).missing_iff _ _).mpr ⟨by decide +kernel, rfl⟩
  · exact ((remembers_registrations calls).get_iff _ _).mpr (by decide +kernel)

end Directory

end Switchboard
