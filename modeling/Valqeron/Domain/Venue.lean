import Valqeron.Domain.Common

/-!
# Trading venues

What the registration of a listing reads of a venue: that it is stored and that
it has not been retired.
-/

namespace Valqeron
namespace Domain

structure VenueId where
  uuid : Uuid
deriving DecidableEq, Repr

inductive VenueStatus where
  | active
  | retired
deriving DecidableEq, Repr

def VenueStatus.isActive : VenueStatus -> Bool
  | active => true
  | retired => false

structure Venue where
  id : VenueId
  status : VenueStatus
  createdAt : DateTime
deriving DecidableEq, Repr

structure VenueRepository (m : Type -> Type) (fault : Type) where
  findById : VenueId -> m (Except fault (Option (Versioned Venue)))

end Domain
end Valqeron
