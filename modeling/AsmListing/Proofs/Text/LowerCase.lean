import AsmListing.Text.Case
import Mathlib.Data.List.Basic

/-!
# Lower case is settled at once

The lower-case mapping moves every run of capital letters to letters that no
run holds.  Putting a text into lower case a second time therefore changes
nothing.
-/

namespace AsmListing

namespace Text

namespace CaseRun

/-- The code point that a run maps one of its own to. -/
def image (run : CaseRun) (code : Nat) : Nat :=
  (code + run.offset).toNat

/-- Whether a run maps its code points to none of the given runs.  The images
lie below a run, above it, or between the code points of a run that holds
every other one.  As in a look-up, nothing counts behind a run that starts
above the images. -/
def misses (run : CaseRun) : List CaseRun → Bool
  | [] => true
  | other :: rest =>
      Nat.blt (run.image run.last) other.first ||
        (Nat.blt other.last (run.image run.first) ||
          (Nat.beq run.stride 2 || Nat.beq run.first run.last) && Nat.beq other.stride 2 &&
            Nat.beq ((run.image run.first + other.first) % 2) 1) && run.misses rest

end CaseRun

theorem mem_of_findRun? {code : Nat} {runs : List CaseRun} {run : CaseRun}
    (found : findRun? code runs = some run) :
    run ∈ runs ∧ run.first ≤ code ∧ code ≤ run.last ∧ (code - run.first) % run.stride = 0 := by
  induction runs with
  | nil => simp [findRun?] at found
  | cons other rest induction =>
      unfold findRun? at found
      split at found
      · contradiction
      split at found
      · rename_i notBelow inside
        simp only [Bool.and_eq_true, decide_eq_true_eq, beq_iff_eq] at inside
        cases found
        exact ⟨List.mem_cons_self, by omega, inside.1, inside.2⟩
      · have later := induction found
        exact ⟨List.mem_cons_of_mem _ later.1, later.2⟩

/-- The image of a code point under a run that misses all runs is in none of
them. -/
theorem findRun?_image_eq_none {run : CaseRun} {runs : List CaseRun} {code : Nat}
    (positive : 0 ≤ run.first + run.offset) (misses : run.misses runs = true)
    (least : run.first ≤ code) (most : code ≤ run.last)
    (step : (code - run.first) % run.stride = 0) :
    findRun? (run.image code) runs = none := by
  have low : run.image run.first ≤ run.image code := by
    unfold CaseRun.image
    omega
  have high : run.image code ≤ run.image run.last := by
    unfold CaseRun.image
    omega
  have moved : run.image code = run.image run.first + (code - run.first) := by
    unfold CaseRun.image
    omega
  induction runs with
  | nil => rfl
  | cons other rest induction =>
      simp only [CaseRun.misses, Bool.or_eq_true, Bool.and_eq_true, Nat.blt_eq,
        Nat.beq_eq] at misses
      unfold findRun?
      split
      · rfl
      rename_i notBelow
      rcases misses with above | ⟨apart, later⟩
      · omega
      have outside : ¬ (run.image code ≤ other.last ∧
          (run.image code - other.first) % other.stride = 0) := by
        rintro ⟨inside, held⟩
        rcases apart with below | ⟨⟨everyOther, otherStride⟩, parity⟩
        · omega
        · have even : (code - run.first) % 2 = 0 := by
            rcases everyOther with stride | single
            · rwa [stride] at step
            · omega
          rw [otherStride] at held
          omega
      rw [if_neg (by simpa using outside)]
      exact induction later

/-- No lower-case letter of the table is mapped on to another one. -/
theorem lowerRuns_miss : ∀ run ∈ lowerRuns,
    0 ≤ run.first + run.offset ∧ run.misses lowerRuns = true := by
  decide +kernel

theorem toNat_ofNat_or (code : Nat) :
    (Char.ofNat code).toNat = code ∨ (Char.ofNat code).toNat = 0 := by
  by_cases valid : code.isValidChar
  · rw [Char.ofNat, dif_pos valid]
    exact .inl rfl
  · rw [Char.ofNat, dif_neg valid]
    exact .inr rfl

theorem lowerChar_lowerChar (character : Char) :
    lowerChar (lowerChar character) = lowerChar character := by
  unfold lowerChar
  cases found : findRun? character.toNat lowerRuns with
  | none => simp [mapChar, found]
  | some run =>
      obtain ⟨member, least, most, step⟩ := mem_of_findRun? found
      obtain ⟨positive, misses⟩ := lowerRuns_miss run member
      have settled : findRun? (Char.ofNat (run.image character.toNat)).toNat lowerRuns = none := by
        rcases toNat_ofNat_or (run.image character.toNat) with same | zero
        · rw [same]
          exact findRun?_image_eq_none positive misses least most step
        · rw [zero]
          rfl
      have mapped : mapChar lowerRuns character = Char.ofNat (run.image character.toNat) := by
        rw [mapChar, found]
        rfl
      rw [mapped, mapChar, settled]

/-- A text in lower case is its own lower case. -/
@[simp] theorem lower_lower (text : String) : lower (lower text) = lower text := by
  simp [lower, Function.comp_def, lowerChar_lowerChar]

end Text

end AsmListing
