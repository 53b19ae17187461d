import Valqeron.Domain.Issuer

/-!
# Background task definitions
-/

namespace Valqeron
namespace Domain

def backgroundTaskNameMaxCharacters : Nat := 100

inductive BackgroundTaskNameError where
  | empty
  | tooLong (max : Nat)
deriving DecidableEq, Repr

def BackgroundTaskNameError.message : BackgroundTaskNameError -> String
  | empty => "task name cannot be empty"
  | tooLong max => s!"task name exceeds maximum length of {max} characters"

abbrev BackgroundTaskName := TrimmedName backgroundTaskNameMaxCharacters

def BackgroundTaskName.new (value : String) :
    Except BackgroundTaskNameError BackgroundTaskName :=
  TrimmedName.new .empty .tooLong backgroundTaskNameMaxCharacters value

def BackgroundTaskName.asStr (n : BackgroundTaskName) : String := n.value

structure BackgroundTask where
  id : Uuid
  name : BackgroundTaskName
  createdAt : DateTime
  lastUpdatedAt : DateTime
deriving DecidableEq

structure BackgroundTaskSnapshot where
  id : Uuid
  name : BackgroundTaskName
  createdAt : DateTime
  lastUpdatedAt : DateTime
deriving DecidableEq

def BackgroundTask.reconstitute (snapshot : BackgroundTaskSnapshot) :
    BackgroundTask where
  id := snapshot.id
  name := snapshot.name
  createdAt := snapshot.createdAt
  lastUpdatedAt := snapshot.lastUpdatedAt

/-- The registry as its callers see it, in the monad of a repository. -/
structure BackgroundTasksRegistryRepository (m : Type -> Type)
    (fault : Type) where
  findById : Uuid -> m (Except fault (Option (Versioned BackgroundTask)))
  listPaged : Option Uuid -> Nat ->
    m (Except fault (List (Versioned BackgroundTask)))

inductive BackgroundTasksError (fault : Type) where
  | storage (e : fault)
deriving DecidableEq, Repr

def listBackgroundTasks {m : Type -> Type} [Monad m] {fault : Type}
    (repo : BackgroundTasksRegistryRepository m fault) (after : Option Uuid)
    (limit : Nat) :
    m (Except (BackgroundTasksError fault)
      (List (Versioned BackgroundTask))) := do
  let tasks ← repo.listPaged after limit
  pure (tasks.mapError .storage)

end Domain
end Valqeron
