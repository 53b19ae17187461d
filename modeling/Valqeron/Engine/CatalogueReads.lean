import Valqeron.Engine.PagedLists
import Valqeron.Sqlite.Catalogue

/-!
# Reads on the catalogue

What Get and List say of the issuers of a catalogue whose rows the tables hold.
-/

namespace Valqeron
namespace Engine

open Foundation
open Domain
open Sqlite

/-- The reads of the issuer service; a page has at most `limit` rows. -/
inductive IssuerRead where
  | get (id : IssuerId)
  | list (after : Option IssuerId) (limit : Nat)

inductive ReadResult where
  | found (r : Except IssuerServiceError (Option IssuerProto))
  | listed (r : Except IssuerServiceError (List IssuerProto))
deriving DecidableEq

/-- The closure of `get` or `list`. -/
def IssuerRead.program (text : UuidText) : IssuerRead -> SqlProgram ReadResult
  | .get id => do
      let r ← getProgram text id
      pure (.found r)
  | .list after limit => do
      let r ← listProgram text after limit
      pure (.listed r)

variable (text : UuidText)

def shownIssuer (k : Uuid) (e : Issuer × Nat) :
    Except StorageFault IssuerProto :=
  (reconstituteLazy (k, issuerRecordOf e.1 e.2)).hydrateLazy.map
    (convertVersionedIssuerToProto text)

/-- What a read says of a catalogue that it leaves as it is. -/
inductive AnswersRead (c : Catalogue) : IssuerRead -> ReadResult -> Prop where
  | missing {id : IssuerId} (hmissing : c.issuers id.uuid = none) :
      AnswersRead c (.get id) (.found (.ok none))
  | found {id : IssuerId} {e : Issuer × Nat}
      (hstored : c.issuers id.uuid = some e) :
      AnswersRead c (.get id)
        (.found (((shownIssuer text id.uuid e).map some).mapError .get))
  | listed {after : Option IssuerId} {limit : Nat}
      {entries : List (Uuid × Issuer × Nat)}
      (hpage : c.issuers.IsPage (after.map IssuerId.uuid) limit entries) :
      AnswersRead c (.list after limit)
        (.listed ((entries.mapM (fun e => shownIssuer text e.1 e.2)).mapError
          .list))

theorem program_answersRead {d : Db} {c : Catalogue} (h : Represents d c)
    (r : IssuerRead) :
    AnswersRead text c r ((r.program text).run Command.onDb d).2 := by
  cases r with
  | get id =>
      unfold IssuerRead.program getProgram
      rw [Program.run_bind, Program.run_bind, run_getIssuer_lazy,
        h.issuers id.uuid]
      cases hstored : c.issuers id.uuid with
      | none => exact .missing hstored
      | some e =>
          have hfound : AnswersRead text c (.get id) _ := .found hstored
          simp only [Option.map_some]
          unfold shownIssuer at hfound
          cases hrow : (reconstituteLazy
              (id.uuid, issuerRecordOf e.1 e.2)).hydrateLazy with
          | error fault =>
              rw [hrow] at hfound
              exact hfound
          | ok versioned =>
              rw [hrow] at hfound
              exact hfound
  | list after limit =>
      unfold IssuerRead.program listProgram
      rw [Program.run_bind, Program.run_bind, run_listIssuers_lazy]
      rcases h.issuers.page (after.map IssuerId.uuid) limit with
        ⟨entries, hrows, hpage⟩
      have hlisted : AnswersRead text c (.list after limit) _ := .listed hpage
      unfold shownIssuer at hlisted
      rw [mapM_map_eq] at hlisted
      have hread : ((d.issuers.page (after.map IssuerId.uuid) limit).map
          reconstituteLazy).mapM StoredIssuer.hydrateLazy =
          entries.mapM (fun e => (reconstituteLazy
            (e.1, issuerRecordOf e.2.1 e.2.2)).hydrateLazy) := by
        rw [hrows, List.map_map, List.mapM_map]
        rfl
      simp only [hread]
      cases hissuers : entries.mapM (fun e =>
          (reconstituteLazy
            (e.1, issuerRecordOf e.2.1 e.2.2)).hydrateLazy) with
      | error fault =>
          rw [hissuers] at hlisted
          exact hlisted
      | ok issuers =>
          rw [hissuers] at hlisted
          exact hlisted

end Engine
end Valqeron
