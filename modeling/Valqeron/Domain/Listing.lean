import Valqeron.Domain.Security
import Valqeron.Domain.Venue
import Valqeron.Foundation.Transition

/-!
# Listings

A security admitted to trading on a venue under a ticker, and the service that
registers one after it has asked the stores about everything that could stand in
the way.
-/

namespace Valqeron
namespace Domain

open Foundation

def tickerSymbolMaxLen : Nat := 12

inductive TickerSymbolError where
  | empty
  | tooLong (max : Nat)
  | invalidCharacter
deriving DecidableEq, Repr

def TickerSymbolError.message : TickerSymbolError -> String
  | empty => "ticker symbol cannot be empty"
  | tooLong max => s!"ticker symbol exceeds maximum length of {max} characters"
  | invalidCharacter =>
      "ticker symbol must contain only ASCII letters, digits, '.' or '-'"

/-- `char::to_ascii_uppercase` -/
def asciiUpperChar (c : Char) : Char :=
  if 97 <= c.toNat && c.toNat <= 122 then Char.ofNat (c.toNat - 32) else c

def isTickerChar (c : Char) : Bool :=
  (65 <= c.toNat && c.toNat <= 90) || (48 <= c.toNat && c.toNat <= 57) ||
    c == '.' || c == '-'

structure TickerSymbol where
  value : String
  length_pos : 0 < value.toList.length
  length_le : value.toList.length <= tickerSymbolMaxLen
  normalized : value.toList.all isTickerChar = true

theorem TickerSymbol.value_inj {a b : TickerSymbol} :
    a.value = b.value <-> a = b := by
  constructor
  · intro h
    cases a
    cases b
    cases h
    rfl
  · intro h
    rw [h]

instance : DecidableEq TickerSymbol :=
  fun _ _ => decidable_of_iff _ TickerSymbol.value_inj

def TickerSymbol.new (value : String) :
    Except TickerSymbolError TickerSymbol :=
  let trimmed := trim value.toList
  if hempty : trimmed.length = 0 then
    .error .empty
  else if hlong : tickerSymbolMaxLen < trimmed.length then
    .error (.tooLong tickerSymbolMaxLen)
  else if hchars : (trimmed.map asciiUpperChar).all isTickerChar = true then
    .ok
      { value := String.ofList (trimmed.map asciiUpperChar)
        length_pos := by
          rw [String.toList_ofList, List.length_map]
          exact Nat.pos_of_ne_zero hempty
        length_le := by
          rw [String.toList_ofList, List.length_map]
          exact Nat.le_of_not_lt hlong
        normalized := by
          rw [String.toList_ofList]
          exact hchars }
  else
    .error .invalidCharacter

structure ListingId where
  uuid : Uuid
deriving DecidableEq, Repr

inductive ListingRole where
  | primary
  | secondary
deriving DecidableEq, Repr

def ListingRole.isPrimary : ListingRole -> Bool
  | primary => true
  | secondary => false

def ListingRole.asStr : ListingRole -> String
  | primary => "PRIMARY"
  | secondary => "SECONDARY"

inductive ListingRoleError where
  | invalidRole
deriving DecidableEq, Repr

def ListingRoleError.message : ListingRoleError -> String
  | invalidRole =>
      "Invalid role. Must be one of: [\"PRIMARY\", \"SECONDARY\"]"

def ListingRole.fromStr (s : String) : Except ListingRoleError ListingRole :=
  let upper := toUppercase s
  if upper = "PRIMARY" then
    .ok .primary
  else if upper = "SECONDARY" then
    .ok .secondary
  else
    .error .invalidRole

inductive ListingStatus where
  | active
  | suspended
  | delisted
deriving DecidableEq, Repr

def ListingStatus.isActive : ListingStatus -> Bool
  | active => true
  | suspended => false
  | delisted => false

def ListingStatus.asStr : ListingStatus -> String
  | active => "ACTIVE"
  | suspended => "SUSPENDED"
  | delisted => "DELISTED"

inductive ListingStatusError where
  | invalidStatus
deriving DecidableEq, Repr

def ListingStatusError.message : ListingStatusError -> String
  | invalidStatus =>
      "Invalid status. Must be one of: [\"ACTIVE\", \"SUSPENDED\", \"DELISTED\"]"

def ListingStatus.fromStr (s : String) :
    Except ListingStatusError ListingStatus :=
  let upper := toUppercase s
  if upper = "ACTIVE" then
    .ok .active
  else if upper = "SUSPENDED" then
    .ok .suspended
  else if upper = "DELISTED" then
    .ok .delisted
  else
    .error .invalidStatus

structure Listing where
  id : ListingId
  securityId : SecurityId
  venueId : VenueId
  symbol : TickerSymbol
  role : ListingRole
  status : ListingStatus
  createdAt : DateTime
deriving DecidableEq

structure ListingRepository (m : Type -> Type) (fault : Type) where
  existsActiveByVenueAndSymbol :
    VenueId -> TickerSymbol -> m (Except fault Bool)
  existsActiveForSecurityOnVenue :
    SecurityId -> VenueId -> m (Except fault Bool)
  existsActivePrimaryForSecurity : SecurityId -> m (Except fault Bool)
  insert : Listing -> m (Except fault Unit)

inductive RegisterListingError (fault : Type) where
  | unknownSecurity
  | venueNotActive
  | tickerAlreadyListed
  | securityAlreadyListedOnVenue
  | primaryListingAlreadyExists
  | storage (e : fault)
deriving DecidableEq, Repr

def RegisterListingError.message {fault : Type} (display : fault -> String) :
    RegisterListingError fault -> String
  | unknownSecurity => "the referenced security does not exist"
  | venueNotActive => "the referenced venue does not exist or is not active"
  | tickerAlreadyListed =>
      "this ticker symbol is already actively listed on the venue"
  | securityAlreadyListedOnVenue =>
      "this security is already actively listed on the venue"
  | primaryListingAlreadyExists =>
      "this security already has an active primary listing"
  | storage e => display e

section Service

variable {m : Type -> Type} [Monad m] {fault : Type}

def hasOtherPrimary (listings : ListingRepository m fault)
    (listing : Listing) : m (Except fault Bool) :=
  if listing.role.isPrimary then
    listings.existsActivePrimaryForSecurity listing.securityId
  else
    pure (.ok false)

def registerListing (listings : ListingRepository m fault)
    (securities : SecurityRepository m fault)
    (venues : VenueRepository m fault) (listing : Listing) :
    m (Except (RegisterListingError fault) Unit) := do
  let known ← securities.exists_ listing.securityId
  match known with
  | .error e => pure (.error (.storage e))
  | .ok false => pure (.error .unknownSecurity)
  | .ok true =>
      let found ← venues.findById listing.venueId
      match found with
      | .error e => pure (.error (.storage e))
      | .ok none => pure (.error .venueNotActive)
      | .ok (some venue) =>
          if venue.data.status.isActive then
            let listed ← listings.existsActiveByVenueAndSymbol
              listing.venueId listing.symbol
            match listed with
            | .error e => pure (.error (.storage e))
            | .ok true => pure (.error .tickerAlreadyListed)
            | .ok false =>
                let onVenue ← listings.existsActiveForSecurityOnVenue
                  listing.securityId listing.venueId
                match onVenue with
                | .error e => pure (.error (.storage e))
                | .ok true => pure (.error .securityAlreadyListedOnVenue)
                | .ok false =>
                    let primary ← hasOtherPrimary listings listing
                    match primary with
                    | .error e => pure (.error (.storage e))
                    | .ok true => pure (.error .primaryListingAlreadyExists)
                    | .ok false =>
                        let inserted ← listings.insert listing
                        pure (inserted.mapError .storage)
          else
            pure (.error .venueNotActive)

end Service

end Domain
end Valqeron
