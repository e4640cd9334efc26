import Mathlib.Data.Nat.Digits.Lemmas
import Transit.Common.Double
import Transit.Common.StringUtils

/-!
# Numbers, written and read

`str_to_int` reads back what `%d` writes (`strToInt_fmtNat`).
-/

namespace Transit

theorem fmtNat_of_lt {n : Nat} (h : n < 10) : fmtNat n = [UInt8.ofNat (48 + n)] := by
  unfold fmtNat
  by_cases h0 : n = 0
  · rw [if_pos h0, h0]; rfl
  · rw [if_neg h0, Nat.digits_of_lt 10 n h0 h]
    rfl

theorem fmtNat_of_ge {n : Nat} (h : 10 ≤ n) : fmtNat n = fmtNat (n / 10) ++ [UInt8.ofNat (48 + n % 10)] := by
  unfold fmtNat
  rw [if_neg (show ¬ n = 0 by omega), if_neg (show ¬ n / 10 = 0 by omega),
    Nat.digits_def' (by decide) (show 0 < n by omega), List.reverse_cons, List.map_append]
  rfl

theorem decimal_concat (ds : Str) (d : Byte) : decimal (ds ++ [d]) = 10 * decimal ds + (d.toNat - 48 : Nat) := by
  unfold decimal
  rw [List.foldl_append]
  rfl

theorem toNat_digit {d : Nat} (h : d < 10) : (UInt8.ofNat (48 + d)).toNat - 48 = d := by
  rw [UInt8.toNat_ofNat']
  omega

/-- Reading a number back. -/
theorem decimal_fmtNat (n : Nat) : decimal (fmtNat n) = n := by
  induction n using Nat.strongRecOn with
  | ind n ih =>
    by_cases h : n < 10
    · rw [fmtNat_of_lt h, ← List.nil_append [UInt8.ofNat (48 + n)], decimal_concat, toNat_digit h]
      show 10 * (0 : Int) + n = n
      omega
    · rw [fmtNat_of_ge (by omega), decimal_concat, ih _ (by omega), toNat_digit (by omega)]
      omega

theorem fmtNat_ne_nil (n : Nat) : fmtNat n ≠ [] := by
  unfold fmtNat
  split
  · simp
  · rename_i h
    simp [Nat.digits_ne_nil_iff_ne_zero, h]

/-- A digit is no space and no sign. -/
theorem digit_spec {b : Byte} (h : isdigit b = true) : isspace b = false ∧ b ≠ 45 ∧ b ≠ 43 := by
  unfold isdigit at h
  simp only [Bool.and_eq_true, decide_eq_true_eq, UInt8.le_iff_toNat_le, UInt8.reduceToNat] at h
  refine ⟨?_, ?_, ?_⟩
  · unfold isspace
    rw [Bool.or_eq_false_iff, beq_eq_false_iff_ne, Bool.and_eq_false_iff]
    simp only [decide_eq_false_iff_not, UInt8.le_iff_toNat_le, UInt8.reduceToNat, ne_eq, ← UInt8.toNat_inj]
    omega
  all_goals
    simp only [ne_eq, ← UInt8.toNat_inj, UInt8.reduceToNat]
    omega

theorem dropWhile_spaces {ws rest : Str} (hws : ∀ b ∈ ws, isspace b = true) {c : Byte} (hc : isspace c = false) :
    (ws ++ c :: rest).dropWhile isspace = c :: rest := by
  rw [List.dropWhile_append_of_pos hws]
  exact List.dropWhile_cons_of_neg (by simp [hc])

/-- Behind blanks, a number without a sign goes up to the first byte that is no digit. -/
theorem strtol_of_digit {ws : Str} (hws : ∀ b ∈ ws, isspace b = true) {c : Byte} (h : isdigit c = true) (rest : Str) :
    strtol (ws ++ c :: rest) = (max (-2 ^ 63) (min (2 ^ 63 - 1) (decimal ((c :: rest).takeWhile isdigit))),
      (c :: rest).dropWhile isdigit) := by
  obtain ⟨hspace, hminus, hplus⟩ := digit_spec h
  have htake : (c :: rest).takeWhile isdigit ≠ [] := by
    rw [List.takeWhile_cons_of_pos h]
    exact List.cons_ne_nil _ _
  unfold strtol
  dsimp only
  rw [dropWhile_spaces hws hspace, List.head?_cons, show (some c == some (45 : Byte)) = false by simpa using hminus,
    show (some c == some (43 : Byte)) = false by simpa using hplus]
  simp only [Bool.or_self, Bool.false_eq_true, ↓reduceIte, htake]

/-- A row of digits behind blanks is read to its end. -/
theorem strtol_of_digits {ws ds : Str} (hws : ∀ b ∈ ws, isspace b = true) (hne : ds ≠ [])
    (hds : ∀ b ∈ ds, isdigit b = true) :
    strtol (ws ++ ds) = (max (-2 ^ 63) (min (2 ^ 63 - 1) (decimal ds)), []) := by
  obtain ⟨c, rest, rfl⟩ := List.exists_cons_of_ne_nil hne
  rw [strtol_of_digit hws (hds c (List.mem_cons_self ..)), List.takeWhile_eq_self_iff.mpr hds,
    List.dropWhile_eq_nil_iff.mpr hds]

theorem strtol_fmtNat {n : Nat} (h : n < 2 ^ 63) : strtol (fmtNat n) = ((n : Int), []) := by
  have hread := strtol_of_digits (List.forall_mem_nil _) (fmtNat_ne_nil n) (isdigit_fmtNat n)
  rw [List.nil_append, decimal_fmtNat] at hread
  rw [hread, Prod.mk.injEq]
  exact ⟨by omega, rfl⟩

theorem toInt32_of_lt {n : Nat} (h : n < 2 ^ 31) : toInt32 n = n := by
  unfold toInt32
  rw [Int.bmod_eq_of_le] <;> omega

/-- The server reads the number that the client writes. -/
theorem strToInt_fmtNat {n : Nat} (h : n < 2 ^ 31) : strToInt (fmtNat n) = some (n : Int) := by
  have hblank : strIsBlank (fmtNat n) = false := by
    obtain ⟨b, rest, hb⟩ := List.exists_cons_of_ne_nil (fmtNat_ne_nil n)
    have hspace := (digit_spec (isdigit_fmtNat n b (by rw [hb]; exact List.mem_cons_self ..))).1
    rw [hb]
    unfold strIsBlank
    rw [List.all_cons, hspace, Bool.false_and]
  unfold strToInt
  rw [if_neg (by simp [hblank]), strtol_fmtNat (by omega)]
  dsimp only
  rw [if_neg (by simp), toInt32_of_lt h]

end Transit
