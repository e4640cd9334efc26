import Mathlib.Algebra.Order.Field.Rat
import Mathlib.Data.Rat.Floor
import Transit.Common.Libc

/-!
# `double`

The program's coordinates and distances are `double`s. The model takes the
operations it uses on them as a parameter, `CDouble`: what it proves holds
whatever their rounding is. The one fact assumed is that `%.1f` writes digits,
letters, a sign and a point only (no separator of the protocol).

`ℚ` is an instance, with exact arithmetic; its `atof` reads decimal notation
without an exponent.
-/

namespace Transit

/-- The operations on `double` the program uses. `lit n k` is the literal
`n / 10 ^ k`, `toInt` the cast `(int)`, `fmt1` is `"%.1f"`. -/
class CDouble (D : Type) where
  lit : Int → Nat → D
  sub : D → D → D
  add : D → D → D
  mul : D → D → D
  eq : D → D → Bool
  lt : D → D → Bool
  le : D → D → Bool
  toInt : D → Int
  atof : Str → D
  fmt1 : D → Str
  fmt1_plain : ∀ d, ∀ b ∈ fmt1 d, isdigit b ∨ (97 ≤ b ∧ b ≤ 122) ∨ b = 45 ∨ b = 46

/-- `atof` in decimal notation. -/
def ratAtof (s : Str) : ℚ :=
  let t := s.dropWhile isspace
  let neg := t.head? == some 45
  let u := if neg || t.head? == some 43 then t.tail else t
  let whole := u.takeWhile isdigit
  let rest := u.dropWhile isdigit
  let frac := if rest.head? == some 46 then rest.tail.takeWhile isdigit else []
  let value : ℚ := decimal whole + decimal frac / 10 ^ frac.length
  if neg then -value else value

/-- `"%.1f"` of an exact number: rounded to the nearest tenth, ties to even. -/
def ratFmt1 (q : ℚ) : Str :=
  let t := |q| * 10
  let f := ⌊t⌋.toNat
  let r := t - f
  let n := if r < 1 / 2 then f else if 1 / 2 < r then f + 1 else f + f % 2
  (if q < 0 then [45] else []) ++ fmtNat (n / 10) ++ [46] ++ fmtNat (n % 10)

theorem isdigit_fmtNat (n : Nat) : ∀ b ∈ fmtNat n, isdigit b := by
  intro b hb
  simp only [fmtNat] at hb
  split at hb
  · simp only [List.mem_singleton] at hb; subst hb; decide
  · simp only [List.mem_map, List.mem_reverse] at hb
    obtain ⟨d, hd, rfl⟩ := hb
    have hlt := Nat.digits_lt_base (by decide) hd
    simp only [isdigit, Bool.and_eq_true, decide_eq_true_eq, UInt8.le_iff_toNat_le,
      UInt8.toNat_ofNat', UInt8.reduceToNat]
    omega

instance : CDouble ℚ where
  lit n k := n / 10 ^ k
  sub := (· - ·)
  add := (· + ·)
  mul := (· * ·)
  eq a b := a == b
  lt a b := a < b
  le a b := a ≤ b
  toInt q := if 0 ≤ q then ⌊q⌋ else ⌈q⌉
  atof := ratAtof
  fmt1 := ratFmt1
  fmt1_plain := by
    intro q b hb
    simp only [ratFmt1, List.mem_append, List.mem_singleton] at hb
    rcases hb with ((hb | hb) | rfl) | hb
    · split at hb
      · simp only [List.mem_singleton] at hb; exact .inr (.inr (.inl hb))
      · simp at hb
    · exact .inl (isdigit_fmtNat _ b hb)
    · exact .inr (.inr (.inr rfl))
    · exact .inl (isdigit_fmtNat _ b hb)

end Transit
