import SampleTypes.Proofs.Ident.Characters

/-!
# Capitals

In Pascal case every word starts with a capital, so that no identifier starts with a small letter of
ASCII.  A letter of another script may have no capital, and the capital of one may be an ASCII
letter, but then it is no small one.

* `startsCapital_toUppercase` says it of one character, by a check of the tables;
* `startsCapital_apply` says it of the identifier for a key.
-/

namespace SampleTypes

namespace Text

/-- The characters do not start with a small letter of ASCII. -/
def StartsCapital (chars : List Char) : Prop :=
  chars.head?.any Char.isLower = false

instance : DecidablePred StartsCapital :=
  fun chars => inferInstanceAs (Decidable (chars.head?.any Char.isLower = false))

theorem StartsCapital.append {l m : List Char} (hl : StartsCapital l) (hm : StartsCapital m) :
    StartsCapital (l ++ m) := by
  cases l with
  | nil => exact hm
  | cons c l => exact hl

theorem toNat_mem_of_isLower {c : Char} (h : c.isLower) : 97 ≤ c.toNat ∧ c.toNat ≤ 122 := by
  delta Char.isLower at h
  simp only [Bool.and_eq_true, decide_eq_true_eq] at h
  exact h

/-! ### One character -/

theorem isLower_toUpper : ∀ n < 0x80, (Char.ofNat n).toUpper.isLower = false := by
  decide +kernel

theorem isLower_of_mem_uppercaseExpansions : ∀ e ∈ uppercaseExpansions,
    (Char.ofNat e.2.1).isLower = false := by
  decide +kernel

/-- A run of images is one capital, or has no ASCII letter in it. -/
theorem image_of_mem_uppercaseImages : ∀ r ∈ uppercaseImages,
    r.first = r.last ∧ r.image < 97 ∨ 122 < r.image := by
  decide +kernel

theorem isLower_of_image? {r : CaseRun} (hr : r ∈ uppercaseImages) {n m : Nat}
    (h : r.image? n = some m) : (Char.ofNat m).isLower = false := by
  rw [Bool.eq_false_iff]
  intro hlower
  have hletter := toNat_mem_of_isLower hlower
  rw [toNat_ofNat_of_isWordPoint (isWordPoint_of_image? (isWordRun_of_mem_images.1 r hr) h)]
    at hletter
  have hrun := image_of_mem_uppercaseImages r hr
  unfold CaseRun.image? at h
  split at h
  · cases h
    omega
  · cases h

/-- **The upper case form of a character starts with no small letter.** -/
theorem startsCapital_toUppercase (c : Char) : StartsCapital (toUppercase c) := by
  unfold toUppercase
  split
  · rename_i hlt
    have hupper := isLower_toUpper c.toNat hlt
    rwa [Char.ofNat_toNat] at hupper
  · rename_i hge
    split
    · rename_i e first rest hfind
      exact isLower_of_mem_uppercaseExpansions _ (List.mem_of_find?_eq_some hfind)
    · show Char.isLower _ = false
      cases hfind : uppercaseImages.findSome? (·.image? c.toNat) with
      | none =>
        -- the character stays as it is, outside of ASCII
        rw [Bool.eq_false_iff]
        intro hlower
        have hletter := toNat_mem_of_isLower hlower
        rw [Option.map_none, Option.getD_none] at hletter
        omega
      | some m =>
        obtain ⟨r, hr, hm⟩ := List.exists_of_findSome?_eq_some hfind
        exact isLower_of_image? hr hm

end Text

/-! ### Identifiers -/

namespace Ident

open Text

theorem startsCapital_capitalize (word : List Char) : StartsCapital (capitalize word) := by
  cases word with
  | nil => rfl
  | cons c rest =>
    obtain ⟨d, ds, hcons⟩ := List.exists_cons_of_ne_nil (toUppercase_ne_nil c)
    have hcapital := startsCapital_toUppercase c
    rw [hcons] at hcapital
    rw [capitalize, hcons]
    exact hcapital

/-- **In Pascal case no identifier starts with a small letter.** -/
theorem startsCapital_apply (key : String) :
    StartsCapital (Convention.pascal.apply key).toList := by
  rw [Convention.apply, String.toList_ofList, Convention.joinChars]
  induction words key.toList with
  | nil => rfl
  | cons word ws ih =>
    rw [List.flatMap_cons]
    exact (startsCapital_capitalize word).append ih

end Ident

end SampleTypes
