import Mathlib.Algebra.Order.Ring.Int
import Mathlib.Data.Multiset.Count
import Valqeron.Domain.Listing

/-!
# The listing book

The active listings are unique in three ways, and no registration breaks one of
them.  The stores are known by what their interfaces promise and nothing else: a
query answers for what is stored, an insert stores the listing or nothing.
-/

namespace Valqeron
namespace Domain

open Foundation

namespace Listing

def ActiveUnder (venue : VenueId) (symbol : TickerSymbol) (l : Listing) :
    Prop :=
  l.status.isActive = true ∧ l.venueId = venue ∧ l.symbol = symbol

def ActiveOn (security : SecurityId) (venue : VenueId) (l : Listing) : Prop :=
  l.status.isActive = true ∧ l.securityId = security ∧ l.venueId = venue

def ActivePrimary (security : SecurityId) (l : Listing) : Prop :=
  l.status.isActive = true ∧ l.role.isPrimary = true ∧
    l.securityId = security

instance (venue : VenueId) (symbol : TickerSymbol) :
    DecidablePred (ActiveUnder venue symbol) :=
  fun _ => inferInstanceAs (Decidable (_ ∧ _ ∧ _))

instance (security : SecurityId) (venue : VenueId) :
    DecidablePred (ActiveOn security venue) :=
  fun _ => inferInstanceAs (Decidable (_ ∧ _ ∧ _))

instance (security : SecurityId) : DecidablePred (ActivePrimary security) :=
  fun _ => inferInstanceAs (Decidable (_ ∧ _ ∧ _))

end Listing

/-- At most one active listing for each of the three keys. -/
structure ListingRules (book : Multiset Listing) : Prop where
  ticker : forall venue symbol,
    book.countP (Listing.ActiveUnder venue symbol) <= 1
  venue : forall security venue,
    book.countP (Listing.ActiveOn security venue) <= 1
  primary : forall security,
    book.countP (Listing.ActivePrimary security) <= 1

theorem countP_cons_le_one {α : Type} {p : α -> Prop} [DecidablePred p]
    {book : Multiset α} {x : α} (h : book.countP p <= 1)
    (hnew : p x -> Not (exists y, y ∈ book ∧ p y)) :
    (x ::ₘ book).countP p <= 1 := by
  by_cases hx : p x
  · have hzero : book.countP p = 0 := by
      rw [Multiset.countP_eq_zero]
      intro y hy hp
      exact hnew hx ⟨y, hy, hp⟩
    rw [Multiset.countP_cons_of_pos _ hx, hzero]
  · rw [Multiset.countP_cons_of_neg _ hx]
    exact h

/-!
## What the interfaces promise
-/

section Contracts

variable {world fault : Type}

/-- What the three stores hold in a state of the world. -/
structure StoreView (world : Type) where
  book : world -> Multiset Listing
  knows : world -> SecurityId -> Prop
  venueAt : world -> VenueId -> Option (Versioned Venue)

structure StoreView.Same (view : StoreView world) (s s' : world) : Prop where
  book : view.book s' = view.book s
  knows : view.knows s' = view.knows s
  venueAt : view.venueAt s' = view.venueAt s

theorem StoreView.Same.trans {view : StoreView world} {s t u : world}
    (h : view.Same s t) (h' : view.Same t u) : view.Same s u where
  book := h'.book.trans h.book
  knows := h'.knows.trans h.knows
  venueAt := h'.venueAt.trans h.venueAt

/-- A query changes nothing and tells the truth, or fails. -/
def Answers (view : StoreView world) {α : Type}
    (query : StateM world (Except fault α)) (truth : world -> α -> Prop) :
    Prop :=
  forall s, view.Same s (query s).2 ∧
    forall a, (query s).1 = .ok a -> truth s a

def HasListing (view : StoreView world) (p : Listing -> Prop) (s : world)
    (answer : Bool) : Prop :=
  answer = true <-> exists l, l ∈ view.book s ∧ p l

structure ListingContract (view : StoreView world)
    (listings : ListingRepository (StateM world) fault) : Prop where
  byVenueAndSymbol : forall venue symbol,
    Answers view (listings.existsActiveByVenueAndSymbol venue symbol)
      (HasListing view (Listing.ActiveUnder venue symbol))
  forSecurityOnVenue : forall security venue,
    Answers view (listings.existsActiveForSecurityOnVenue security venue)
      (HasListing view (Listing.ActiveOn security venue))
  primaryForSecurity : forall security,
    Answers view (listings.existsActivePrimaryForSecurity security)
      (HasListing view (Listing.ActivePrimary security))
  inserted : forall listing s, (listings.insert listing s).1 = .ok () ->
    view.book (listings.insert listing s).2 = listing ::ₘ view.book s
  notInserted : forall listing s e, (listings.insert listing s).1 = .error e ->
    view.book (listings.insert listing s).2 = view.book s

structure StoreContracts (view : StoreView world)
    (listings : ListingRepository (StateM world) fault)
    (securities : SecurityRepository (StateM world) fault)
    (venues : VenueRepository (StateM world) fault) : Prop where
  listings : ListingContract view listings
  securities : forall id,
    Answers view (securities.exists_ id)
      (fun s known => known = true <-> view.knows s id)
  venues : forall id,
    Answers view (venues.findById id)
      (fun s venue => venue = view.venueAt s id)

theorem Answers.bind {view : StoreView world} {α β : Type}
    {query : StateM world (Except fault α)} {truth : world -> α -> Prop}
    (h : Answers view query truth) {s : world}
    {next : Except fault α -> StateM world β} {post : β × world -> Prop}
    (hnext : forall r s', view.Same s s' ->
      (forall a, r = .ok a -> truth s a) -> post (next r s')) :
    post ((query >>= next) s) := by
  have hanswer := h s
  show post (next (query s).1 (query s).2)
  exact hnext _ _ hanswer.left hanswer.right

/-!
## One registration
-/

structure Admissible (view : StoreView world) (s : world)
    (listing : Listing) : Prop where
  known : view.knows s listing.securityId
  venue : exists venue, view.venueAt s listing.venueId = some venue ∧
    venue.data.status.isActive = true
  ticker : Not (exists l, l ∈ view.book s ∧
    l.ActiveUnder listing.venueId listing.symbol)
  onVenue : Not (exists l, l ∈ view.book s ∧
    l.ActiveOn listing.securityId listing.venueId)
  primary : listing.role.isPrimary = true ->
    Not (exists l, l ∈ view.book s ∧ l.ActivePrimary listing.securityId)

/-- What a call does: it inserts an admissible listing, or fails and inserts none. -/
def RegisterOutcome (view : StoreView world) (s : world) (listing : Listing)
    (out : Except (RegisterListingError fault) Unit × world) : Prop :=
  (out.1 = .ok () ∧ Admissible view s listing ∧
      view.book out.2 = listing ::ₘ view.book s) ∨
    exists e, out.1 = .error e ∧ view.book out.2 = view.book s

theorem RegisterOutcome.error {view : StoreView world} {s s' : world}
    {listing : Listing} (e : RegisterListingError fault)
    (h : view.Same s s') :
    RegisterOutcome view s listing (.error e, s') :=
  Or.inr ⟨e, rfl, h.book⟩

theorem not_exists_of_answer {view : StoreView world} {p : Listing -> Prop}
    {s s' : world} (h : HasListing view p s' false) (hsame : view.Same s s') :
    Not (exists l, l ∈ view.book s ∧ p l) := by
  intro hexists
  rw [← hsame.book] at hexists
  exact Bool.false_ne_true (h.mpr hexists)

variable {view : StoreView world}
  {listings : ListingRepository (StateM world) fault}
  {securities : SecurityRepository (StateM world) fault}
  {venues : VenueRepository (StateM world) fault}

theorem hasOtherPrimary_answers (h : ListingContract view listings)
    (listing : Listing) :
    Answers view (hasOtherPrimary listings listing)
      (fun s answer => answer = false -> listing.role.isPrimary = true ->
        Not (exists l, l ∈ view.book s ∧
          l.ActivePrimary listing.securityId)) := by
  intro s
  unfold hasOtherPrimary
  cases hrole : listing.role.isPrimary with
  | true =>
      rw [if_pos rfl]
      have hanswer := h.primaryForSecurity listing.securityId s
      refine ⟨hanswer.left, ?_⟩
      intro a ha h _ hexists
      cases h
      exact Bool.false_ne_true ((hanswer.right false ha).mpr hexists)
  | false =>
      rw [if_neg Bool.false_ne_true]
      refine ⟨⟨rfl, rfl, rfl⟩, ?_⟩
      intro a _ _ hprimary
      cases hprimary

theorem insert_outcome (h : ListingContract view listings) {s s' : world}
    {listing : Listing} (hsame : view.Same s s')
    (hadmissible : Admissible view s listing) :
    RegisterOutcome view s listing
      ((do
          let inserted ← listings.insert listing
          pure (inserted.mapError RegisterListingError.storage) :
        StateM world (Except (RegisterListingError fault) Unit)) s') := by
  show RegisterOutcome view s listing
    ((listings.insert listing s').1.mapError RegisterListingError.storage,
      (listings.insert listing s').2)
  cases hresult : (listings.insert listing s').1 with
  | ok u =>
      left
      refine ⟨rfl, hadmissible, ?_⟩
      rw [← hsame.book]
      exact h.inserted listing s' hresult
  | error e =>
      right
      refine ⟨.storage e, rfl, ?_⟩
      rw [← hsame.book]
      exact h.notInserted listing s' e hresult

/-- The checks come in the order of the source, each before the insert. -/
theorem registerListing_outcome
    (h : StoreContracts view listings securities venues) (listing : Listing)
    (s : world) :
    RegisterOutcome view s listing
      (registerListing listings securities venues listing s) := by
  unfold registerListing
  apply (h.securities listing.securityId).bind
  intro known s₁ hsame₁ hknown
  rcases known with e | _ | _
  · exact .error (.storage e) hsame₁
  · exact .error .unknownSecurity hsame₁
  have hsecurity : view.knows s listing.securityId :=
    (hknown true rfl).mp rfl
  apply (h.venues listing.venueId).bind
  intro found s₂ hsame hfound
  have hsame₂ := hsame₁.trans hsame
  rcases found with e | _ | venue
  · exact .error (.storage e) hsame₂
  · exact .error .venueNotActive hsame₂
  have hvenue : view.venueAt s listing.venueId = some venue := by
    rw [← hsame₁.venueAt]
    exact (hfound (some venue) rfl).symm
  show RegisterOutcome view s listing
    ((if venue.data.status.isActive = true then _ else _ :
      StateM world (Except (RegisterListingError fault) Unit)) s₂)
  cases hactive : venue.data.status.isActive with
  | false => exact .error .venueNotActive hsame₂
  | true =>
      rw [if_pos rfl]
      apply (h.listings.byVenueAndSymbol listing.venueId listing.symbol).bind
      intro listed s₃ hsame hlisted
      have hsame₃ := hsame₂.trans hsame
      rcases listed with e | _ | _
      · exact .error (.storage e) hsame₃
      · have hticker := not_exists_of_answer (hlisted false rfl) hsame₂
        apply (h.listings.forSecurityOnVenue listing.securityId
          listing.venueId).bind
        intro onVenue s₄ hsame honVenue
        have hsame₄ := hsame₃.trans hsame
        rcases onVenue with e | _ | _
        · exact .error (.storage e) hsame₄
        · have hon := not_exists_of_answer (honVenue false rfl) hsame₃
          apply (hasOtherPrimary_answers h.listings listing).bind
          intro primary s₅ hsame hprimary
          have hsame₅ := hsame₄.trans hsame
          rcases primary with e | _ | _
          · exact .error (.storage e) hsame₅
          · apply insert_outcome h.listings hsame₅
            have hother := hprimary false rfl rfl
            rw [hsame₄.book] at hother
            exact ⟨hsecurity, ⟨venue, hvenue, hactive⟩, hticker, hon, hother⟩
          · exact .error .primaryListingAlreadyExists hsame₅
        · exact .error .securityAlreadyListedOnVenue hsame₄
      · exact .error .tickerAlreadyListed hsame₃

theorem ListingRules.insert {s : world} {listing : Listing}
    (hrules : ListingRules (view.book s))
    (hadmissible : Admissible view s listing) :
    ListingRules (listing ::ₘ view.book s) where
  ticker := by
    intro venue symbol
    apply countP_cons_le_one (hrules.ticker venue symbol)
    intro h
    rcases h with ⟨_, rfl, rfl⟩
    exact hadmissible.ticker
  venue := by
    intro security venue
    apply countP_cons_le_one (hrules.venue security venue)
    intro h
    rcases h with ⟨_, rfl, rfl⟩
    exact hadmissible.onVenue
  primary := by
    intro security
    apply countP_cons_le_one (hrules.primary security)
    intro h
    rcases h with ⟨_, hprimary, rfl⟩
    exact hadmissible.primary hprimary

theorem RegisterOutcome.rules {s : world} {listing : Listing}
    {out : Except (RegisterListingError fault) Unit × world}
    (h : RegisterOutcome view s listing out)
    (hrules : ListingRules (view.book s)) :
    ListingRules (view.book out.2) := by
  rcases h with ⟨_, hadmissible, hbook⟩ | ⟨e, _, hbook⟩
  · rw [hbook]
    exact hrules.insert hadmissible
  · rw [hbook]
    exact hrules

/-!
## Any sequence of registrations
-/

/-- A call, or a change of the securities and the venues by others. -/
inductive BookStep (view : StoreView world) where
  | register (listing : Listing)
  | elsewhere (change : world -> world)
      (keeps : forall s, view.book (change s) = view.book s)

variable (listings securities venues) in
def bookStep (s : world) : BookStep view -> world
  | .register listing =>
      (registerListing listings securities venues listing s).2
  | .elsewhere change _ => change s

variable (listings securities venues) in
def runBook (start : world) (steps : List (BookStep view)) : world :=
  steps.foldl (bookStep listings securities venues) start

theorem bookStep_rules (h : StoreContracts view listings securities venues)
    {s : world} (hrules : ListingRules (view.book s)) (step : BookStep view) :
    ListingRules
      (view.book (bookStep listings securities venues s step)) := by
  cases step with
  | register listing => exact (registerListing_outcome h listing s).rules hrules
  | elsewhere change keeps =>
      show ListingRules (view.book (change s))
      rw [keeps]
      exact hrules

theorem runBook_rules (h : StoreContracts view listings securities venues)
    {start : world} (hrules : ListingRules (view.book start))
    (steps : List (BookStep view)) :
    ListingRules (view.book (runBook listings securities venues start steps)) := by
  induction steps generalizing start with
  | nil => exact hrules
  | cons step rest ih => exact ih (bookStep_rules h hrules step)

/--
Whatever the calls and whatever else happens to the securities and the venues
between them, the book keeps its rules; each call either inserts a listing whose
security exists and whose venue is active at that moment, or fails and inserts
nothing.
-/
theorem registerListing_keeps_book (view : StoreView world)
    (listings : ListingRepository (StateM world) fault)
    (securities : SecurityRepository (StateM world) fault)
    (venues : VenueRepository (StateM world) fault)
    (h : StoreContracts view listings securities venues) (start : world)
    (hrules : ListingRules (view.book start)) (steps : List (BookStep view)) :
    ListingRules (view.book (runBook listings securities venues start steps)) ∧
      forall before listing after,
        steps = before ++ .register listing :: after ->
        RegisterOutcome view (runBook listings securities venues start before)
          listing
          (registerListing listings securities venues listing
            (runBook listings securities venues start before)) := by
  refine ⟨runBook_rules h hrules steps, ?_⟩
  intro before listing _ _
  exact registerListing_outcome h listing _

end Contracts

/-!
Stores that keep everything in memory meet the contracts.
-/

structure MemoryStores where
  listings : List Listing
  securities : List SecurityId
  venues : List Venue

def memoryView : StoreView MemoryStores where
  book s := s.listings
  knows s id := id ∈ s.securities
  venueAt s id :=
    (s.venues.find? (fun v => v.id = id)).map
      (fun v => { data := v, version := 1 })

def anyListing (p : Listing -> Prop) [DecidablePred p] :
    StateM MemoryStores (Except Unit Bool) :=
  fun s => (.ok (s.listings.any (fun l => decide (p l))), s)

def memoryListings : ListingRepository (StateM MemoryStores) Unit where
  existsActiveByVenueAndSymbol venue symbol :=
    anyListing (Listing.ActiveUnder venue symbol)
  existsActiveForSecurityOnVenue security venue :=
    anyListing (Listing.ActiveOn security venue)
  existsActivePrimaryForSecurity security :=
    anyListing (Listing.ActivePrimary security)
  insert listing := fun s =>
    (.ok (), { s with listings := listing :: s.listings })

def memorySecurities : SecurityRepository (StateM MemoryStores) Unit where
  exists_ id := fun s => (.ok (decide (id ∈ s.securities)), s)

def memoryVenues : VenueRepository (StateM MemoryStores) Unit where
  findById id := fun s => (.ok (memoryView.venueAt s id), s)

theorem anyListing_answers (p : Listing -> Prop) [DecidablePred p] :
    Answers memoryView (anyListing p) (HasListing memoryView p) := by
  intro s
  refine ⟨⟨rfl, rfl, rfl⟩, ?_⟩
  intro a ha
  cases ha
  show s.listings.any (fun l => decide (p l)) = true <->
    exists l, l ∈ (s.listings : Multiset Listing) ∧ p l
  rw [List.any_eq_true]
  simp only [Multiset.mem_coe, decide_eq_true_eq]

theorem memoryStores_contracts :
    StoreContracts memoryView memoryListings memorySecurities memoryVenues where
  listings :=
    { byVenueAndSymbol := fun venue symbol =>
        anyListing_answers (Listing.ActiveUnder venue symbol)
      forSecurityOnVenue := fun security venue =>
        anyListing_answers (Listing.ActiveOn security venue)
      primaryForSecurity := fun security =>
        anyListing_answers (Listing.ActivePrimary security)
      inserted := fun _ _ _ => rfl
      notInserted := fun _ _ _ h => nomatch h }
  securities := by
    intro id s
    refine ⟨⟨rfl, rfl, rfl⟩, ?_⟩
    intro a ha
    cases ha
    exact decide_eq_true_iff
  venues := by
    intro id s
    refine ⟨⟨rfl, rfl, rfl⟩, ?_⟩
    intro a ha
    cases ha
    rfl

def petr4 : Listing where
  id := ⟨1⟩
  securityId := ⟨2⟩
  venueId := ⟨3⟩
  symbol :=
    { value := "PETR4"
      length_pos := by decide
      length_le := by decide
      normalized := by decide }
  role := .primary
  status := .active
  createdAt := { seconds := 0, nanos := 0 }

def openVenue : MemoryStores where
  listings := []
  securities := [⟨2⟩]
  venues :=
    [{ id := ⟨3⟩, status := .active, createdAt := { seconds := 0, nanos := 0 } }]

theorem registerListing_keeps_book_petr4 :
    ListingRules
      (memoryView.book
        (runBook memoryListings memorySecurities memoryVenues openVenue
          ([.register petr4, .register petr4] :
            List (BookStep memoryView)))) := by
  have hrules : ListingRules (memoryView.book openVenue) :=
    ⟨fun _ _ => Nat.zero_le 1, fun _ _ => Nat.zero_le 1,
      fun _ => Nat.zero_le 1⟩
  exact (registerListing_keeps_book memoryView memoryListings memorySecurities
    memoryVenues memoryStores_contracts openVenue hrules
    [.register petr4, .register petr4]).left

end Domain
end Valqeron
