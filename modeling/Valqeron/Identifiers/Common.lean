import Valqeron.Foundation.Text

/-!
# What the identifiers have in common

The character classes of the positions of a code, and codes that carry the proof
of their validation.
-/

namespace Valqeron
namespace Identifiers

open Foundation

inductive CharacterClass where
  | digit
  | letter
  | alphanumeric
deriving DecidableEq, Repr

def CharacterClass.display : CharacterClass -> String
  | digit => "a digit (0-9)"
  | letter => "an uppercase letter (A-Z)"
  | alphanumeric => "a digit (0-9) or an uppercase letter (A-Z)"

def CharacterClass.Contains (byte : UInt8) : CharacterClass -> Prop
  | digit => isAsciiDigit byte = true
  | letter => isAsciiUppercase byte = true
  | alphanumeric => isAsciiDigit byte = true ∨ isAsciiUppercase byte = true

theorem CharacterClass.isCodeByte_of_contains {expected : CharacterClass}
    {b : UInt8} (h : expected.Contains b) : isCodeByte b = true := by
  unfold isCodeByte
  rw [Bool.or_eq_true]
  cases expected with
  | digit => exact Or.inl h
  | letter => exact Or.inr h
  | alphanumeric => exact h

def OfClasses (classAt : Nat -> CharacterClass) (candidate : List UInt8) :
    Prop :=
  forall i byte, candidate[i]? = some byte -> (classAt i).Contains byte

theorem OfClasses.isCodeByte {classAt : Nat -> CharacterClass}
    {candidate : List UInt8} (h : OfClasses classAt candidate) {b : UInt8}
    (hb : b ∈ candidate) : isCodeByte b = true := by
  rcases List.getElem?_of_mem hb with ⟨i, hi⟩
  exact CharacterClass.isCodeByte_of_contains (h i b hi)

section Checks

variable {error : Type}

theorem accepts_iff {valid : Bool} {e : error} :
    (if valid = true then Except.ok () else Except.error e) = .ok () <->
      valid = true := by
  cases valid with
  | false => exact iff_of_false nofun Bool.false_ne_true
  | true => exact iff_of_true rfl rfl

variable {classAt : Nat -> CharacterClass}
variable {check : Nat -> UInt8 -> Except error Unit}

theorem checkBytes_eq_ok_iff_ofClasses
    (hcheck : forall i b, check i b = .ok () <-> (classAt i).Contains b)
    (candidate : List UInt8) :
    checkBytes check 0 candidate = .ok () <-> OfClasses classAt candidate := by
  rw [checkBytes_eq_ok_iff]
  unfold OfClasses
  simp only [Nat.zero_add, hcheck]

theorem isCodeByte_of_checked
    (hcheck : forall i b, check i b = .ok () <-> (classAt i).Contains b)
    {candidate : List UInt8} {rest : Unit -> Except error Unit}
    (hvalid : (checkBytes check 0 candidate >>= rest) = .ok ()) {b : UInt8}
    (hb : b ∈ candidate) : isCodeByte b = true := by
  rcases bind_eq_ok.mp hvalid with ⟨_, hclasses, _⟩
  exact ((checkBytes_eq_ok_iff_ofClasses hcheck candidate).mp
    hclasses).isCodeByte hb

end Checks

/-!
## Validated codes
-/

section Validated

variable {error code : Type} {n : Nat}

/-- `validate(&bytes)?` and then the code of these bytes. -/
def validated (validate : Bytes n -> Except error Unit)
    (mk : forall bytes, validate bytes = .ok () -> code) (bytes : Bytes n) :
    Except error code :=
  match h : validate bytes with
  | .error e => .error e
  | .ok () => .ok (mk bytes h)

variable {validate : Bytes n -> Except error Unit}
variable {mk : forall bytes, validate bytes = .ok () -> code}
variable {bytes : Bytes n}

theorem validated_of_ok (h : validate bytes = .ok ()) :
    validated validate mk bytes = .ok (mk bytes h) := by
  unfold validated
  split
  · rename_i e herror
    rw [h] at herror
    cases herror
  · rfl

theorem validated_eq_ok_iff {c : code} :
    validated validate mk bytes = .ok c <->
      exists h, mk bytes h = c := by
  constructor
  · intro h
    unfold validated at h
    split at h
    · cases h
    · rename_i hvalid
      cases h
      exact ⟨hvalid, rfl⟩
  · intro h
    rcases h with ⟨hvalid, rfl⟩
    exact validated_of_ok hvalid

theorem validated_isOk_iff :
    (exists c, validated validate mk bytes = .ok c) <->
      validate bytes = .ok () := by
  simp only [validated_eq_ok_iff, exists_comm (α := code), exists_eq',
    exists_prop, and_true]

theorem validated_eq_error_iff {e : error} :
    validated validate mk bytes = .error e <-> validate bytes = .error e := by
  unfold validated
  split
  · rename_i e' h
    rw [h, Except.error.injEq, Except.error.injEq]
  · rename_i h
    refine iff_of_false nofun ?_
    intro herror
    rw [h] at herror
    cases herror

theorem map_validated {stored : code -> Bytes n}
    (hstored : forall bytes h, stored (mk bytes h) = bytes) :
    (validated validate mk bytes).map stored =
      (validate bytes).map (fun _ => bytes) := by
  cases h : validate bytes with
  | error e =>
      rw [validated_eq_error_iff.mpr h]
      rfl
  | ok _ =>
      rw [validated_of_ok h]
      exact congrArg Except.ok (hstored bytes h)

end Validated

end Identifiers
end Valqeron
