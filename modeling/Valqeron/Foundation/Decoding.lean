import Mathlib.Algebra.Order.Ring.Int
import Mathlib.Data.List.Forall2
import Valqeron.Foundation.Text

/-!
# Rows decoded one after the other

A list of rows is decoded as a whole: it has values exactly when every row has
one.  The values of a part of the rows are the same part of the values, as long
as the part is chosen by what decoding keeps.
-/

namespace Valqeron
namespace Foundation

variable {error row value key : Type} {decode : row -> Except error value}

theorem exists_right_of_mem {R : row -> value -> Prop} {rows : List row}
    {values : List value} (h : List.Forall₂ R rows values) {r : row}
    (hr : r ∈ rows) : exists v, v ∈ values ∧ R r v := by
  induction h with
  | nil => cases hr
  | @cons r' v' _ _ hfirst _ ih =>
      rcases List.mem_cons.mp hr with rfl | hmem
      · exact ⟨v', List.mem_cons_self, hfirst⟩
      · rcases ih hmem with ⟨v, hv, hrv⟩
        exact ⟨v, List.mem_cons_of_mem _ hv, hrv⟩

theorem exists_left_of_mem {R : row -> value -> Prop} {rows : List row}
    {values : List value} (h : List.Forall₂ R rows values) {v : value}
    (hv : v ∈ values) : exists r, r ∈ rows ∧ R r v :=
  exists_right_of_mem h.flip hv

theorem getElem?_of_forall₂ {R : row -> value -> Prop} {rows : List row}
    {values : List value} (h : List.Forall₂ R rows values) {i : Nat} {r : row}
    (hr : rows[i]? = some r) : exists v, values[i]? = some v ∧ R r v := by
  induction h generalizing i with
  | nil => cases hr
  | @cons r' v' _ _ hfirst _ ih =>
      cases i with
      | zero =>
          cases hr
          exact ⟨v', rfl, hfirst⟩
      | succ i => exact ih hr

theorem getLast?_of_forall₂ {R : row -> value -> Prop} {rows : List row}
    {values : List value} (h : List.Forall₂ R rows values) {r : row}
    (hr : rows.getLast? = some r) :
    exists v, values.getLast? = some v ∧ R r v := by
  rw [List.getLast?_eq_getElem?] at hr ⊢
  rw [← h.length_eq]
  exact getElem?_of_forall₂ h hr

theorem mapM_cons_eq_ok {r : row} {rows : List row} {values : List value} :
    (r :: rows).mapM decode = .ok values <->
      exists v rest, decode r = .ok v ∧ rows.mapM decode = .ok rest ∧
        values = v :: rest := by
  rw [List.mapM_cons]
  constructor
  · intro h
    rcases bind_eq_ok.mp h with ⟨v, hv, h⟩
    rcases bind_eq_ok.mp h with ⟨rest, hrest, h⟩
    cases h
    exact ⟨v, rest, hv, hrest, rfl⟩
  · intro h
    rcases h with ⟨v, rest, hv, hrest, rfl⟩
    rw [hv, hrest]
    rfl

theorem mapM_eq_ok_iff {rows : List row} {values : List value} :
    rows.mapM decode = .ok values <->
      List.Forall₂ (fun r v => decode r = .ok v) rows values := by
  induction rows generalizing values with
  | nil =>
      rw [List.forall₂_nil_left_iff]
      constructor
      · intro h
        cases h
        rfl
      · intro h
        rw [h]
        rfl
  | cons r rows ih =>
      rw [mapM_cons_eq_ok, List.forall₂_cons_left_iff]
      constructor
      · intro h
        rcases h with ⟨v, rest, hv, hrest, hvalues⟩
        exact ⟨v, rest, hv, ih.mp hrest, hvalues⟩
      · intro h
        rcases h with ⟨v, rest, hv, hrest, hvalues⟩
        exact ⟨v, rest, hv, ih.mpr hrest, hvalues⟩

theorem exists_mapM_iff {rows : List row} :
    (exists values, rows.mapM decode = .ok values) <->
      forall r, r ∈ rows -> exists v, decode r = .ok v := by
  induction rows with
  | nil =>
      constructor
      · intro _ r hr
        cases hr
      · intro _
        exact ⟨[], rfl⟩
  | cons r rows ih =>
      rw [List.forall_mem_cons, ← ih]
      constructor
      · intro hgiven
        rcases hgiven with ⟨values, h⟩
        rcases mapM_cons_eq_ok.mp h with ⟨v, rest, hv, hrest, _⟩
        exact ⟨⟨v, hv⟩, rest, hrest⟩
      · intro h
        rcases h with ⟨⟨v, hv⟩, rest, hrest⟩
        exact ⟨v :: rest, mapM_cons_eq_ok.mpr ⟨v, rest, hv, hrest, rfl⟩⟩

theorem mapM_append_eq_ok {rows rows' : List row} {values : List value} :
    (rows ++ rows').mapM decode = .ok values <->
      exists first second, rows.mapM decode = .ok first ∧
        rows'.mapM decode = .ok second ∧ values = first ++ second := by
  induction rows generalizing values with
  | nil =>
      constructor
      · intro h
        exact ⟨[], values, rfl, h, rfl⟩
      · intro h
        rcases h with ⟨first, second, hfirst, hsecond, rfl⟩
        cases hfirst
        exact hsecond
  | cons r rows ih =>
      rw [List.cons_append, mapM_cons_eq_ok]
      constructor
      · intro h
        rcases h with ⟨v, rest, hv, hrest, rfl⟩
        rcases ih.mp hrest with ⟨first, second, hfirst, hsecond, rfl⟩
        exact ⟨v :: first, second,
          mapM_cons_eq_ok.mpr ⟨v, first, hv, hfirst, rfl⟩, hsecond, rfl⟩
      · intro h
        rcases h with ⟨first, second, hfirst, hsecond, rfl⟩
        rcases mapM_cons_eq_ok.mp hfirst with ⟨v, rest, hv, hrest, rfl⟩
        exact ⟨v, rest ++ second, hv,
          ih.mpr ⟨rest, second, hrest, hsecond, rfl⟩, rfl⟩

/-- What is decoded may be converted row by row, or behind the last row. -/
theorem mapM_map_eq {other : Type} (g : value -> other) (rows : List row) :
    rows.mapM (fun r => (decode r).map g) =
      (rows.mapM decode).map (List.map g) := by
  induction rows with
  | nil => rfl
  | cons r rows ih =>
      rw [List.mapM_cons, List.mapM_cons, ih]
      cases decode r with
      | error e => rfl
      | ok v =>
          cases rows.mapM decode with
          | error e => rfl
          | ok values => rfl

theorem mem_of_mapM {rows : List row} {values : List value} {v : value}
    (h : rows.mapM decode = .ok values) (hv : v ∈ values) :
    exists r, r ∈ rows ∧ decode r = .ok v :=
  exists_left_of_mem (mapM_eq_ok_iff.mp h) hv

theorem value_of_mem_mapM {rows : List row} {values : List value} {r : row}
    (h : rows.mapM decode = .ok values) (hr : r ∈ rows) :
    exists v, v ∈ values ∧ decode r = .ok v :=
  exists_right_of_mem (mapM_eq_ok_iff.mp h) hr

theorem mapM_filter {p : row -> Bool} {q : value -> Bool}
    (hkeeps : forall {r v}, decode r = .ok v -> q v = p r)
    {rows : List row} {values : List value}
    (h : rows.mapM decode = .ok values) :
    (rows.filter p).mapM decode = .ok (values.filter q) := by
  induction rows generalizing values with
  | nil =>
      cases h
      rfl
  | cons r rows ih =>
      rcases mapM_cons_eq_ok.mp h with ⟨v, rest, hv, hrest, rfl⟩
      have hsame := hkeeps hv
      cases hp : p r with
      | true =>
          rw [List.filter_cons_of_pos hp,
            List.filter_cons_of_pos (hsame.trans hp)]
          exact mapM_cons_eq_ok.mpr ⟨v, _, hv, ih hrest, rfl⟩
      | false =>
          have hq : ¬ q v = true := by
            rw [hsame, hp]
            exact Bool.false_ne_true
          rw [List.filter_cons_of_neg (by rw [hp]; exact Bool.false_ne_true),
            List.filter_cons_of_neg hq]
          exact ih hrest

theorem mapM_congr {decode' : row -> Except error value} {rows : List row}
    (h : forall r, r ∈ rows -> decode r = decode' r) :
    rows.mapM decode = rows.mapM decode' := by
  induction rows with
  | nil => rfl
  | cons r rows ih =>
      rw [List.forall_mem_cons] at h
      rw [List.mapM_cons, List.mapM_cons, h.left, ih h.right]

theorem mapM_map_eq_ok {next : Type} {f : value -> next} {rows : List row}
    {values : List next} :
    rows.mapM (fun r => (decode r).map f) = .ok values <->
      exists vs, rows.mapM decode = .ok vs ∧ values = vs.map f := by
  rw [mapM_eq_ok_iff]
  constructor
  · intro h
    induction h with
    | nil => exact ⟨[], rfl, rfl⟩
    | @cons r v rows values hv _ ih =>
        rcases ih with ⟨vs, hvs, rfl⟩
        cases hdecode : decode r with
        | error e =>
            rw [hdecode] at hv
            cases hv
        | ok u =>
            rw [hdecode] at hv
            cases hv
            exact ⟨u :: vs, mapM_cons_eq_ok.mpr ⟨u, vs, hdecode, hvs, rfl⟩, rfl⟩
  · intro h
    rcases h with ⟨vs, hvs, rfl⟩
    rw [List.forall₂_map_right_iff]
    apply (mapM_eq_ok_iff.mp hvs).imp
    intro r v hv
    rw [hv]
    rfl

/-!
## Optional values
-/

section Optional

variable {raw wrapped : Type}

def decodeOptional (wrap : error -> wrapped)
    (decode : raw -> Except error value) :
    Option raw -> Except wrapped (Option value)
  | none => .ok none
  | some r => ((decode r).mapError wrap).map some

theorem decodeOptional_some_eq_ok_iff {wrap : error -> wrapped}
    {decode : raw -> Except error value} {r : raw} {v : Option value} :
    decodeOptional wrap decode (some r) = .ok v <->
      exists x, decode r = .ok x ∧ v = some x := by
  show ((decode r).mapError wrap).map some = .ok v <-> _
  cases hdecode : decode r with
  | error e =>
      apply iff_of_false (fun h => nomatch h)
      intro hgiven
      rcases hgiven with ⟨x, hx, _⟩
      cases hx
  | ok x =>
      constructor
      · intro h
        cases h
        exact ⟨x, rfl, rfl⟩
      · intro h
        rcases h with ⟨y, hy, rfl⟩
        cases hy
        rfl

theorem decodeOptional_wrap {wrap : error -> wrapped}
    {decode : raw -> Except error value} {r : Option raw} {v : Option value} :
    decodeOptional wrap decode r = .ok v <->
      decodeOptional id decode r = .ok v := by
  cases r with
  | none => exact ⟨fun h => by cases h; rfl, fun h => by cases h; rfl⟩
  | some r => rw [decodeOptional_some_eq_ok_iff, decodeOptional_some_eq_ok_iff]

end Optional

end Foundation
end Valqeron
