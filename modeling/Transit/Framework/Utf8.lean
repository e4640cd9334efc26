import Mathlib.Tactic.Common
import Transit.Framework.Packing
import Transit.Framework.Split

/-!
# UTF-8 that is cut

`Utf8` says of bytes that they encode characters, `AtChar` that a character
begins with the first of them, if there is one. Where bytes that encode
characters are cut in two, both parts do so exactly when the second is `AtChar`
(`utf8_take_iff`); of a `Fragment`, bytes that stand within such ones, a part is
`Utf8` exactly when it and what follows it are `AtChar` (`Fragment.utf8_iff`).

* `utf8_foldl_put_iff`: when a buffer into which pieces are packed is `Utf8`.
-/

namespace Framework

/-- Bytes that encode characters. -/
def Utf8 (s : List UInt8) : Prop := ∃ cs : List Char, s = cs.flatMap String.utf8EncodeChar

/-- The first of the bytes, if any, is the first of a character. -/
def AtChar (s : List UInt8) : Prop := ∀ b ∈ s.head?, b.IsUTF8FirstByte

instance (s : List UInt8) : Decidable (AtChar s) := inferInstanceAs (Decidable (∀ b ∈ s.head?, b.IsUTF8FirstByte))

/-- Bytes that stand within bytes that encode characters. -/
def Fragment (s : List UInt8) : Prop := ∃ a b, Utf8 (a ++ s ++ b)

variable {s a b : List UInt8} {c : Char}

/-! ## Characters -/

theorem utf8EncodeChar_eq (c : Char) : ∃ b bs, String.utf8EncodeChar c = b :: bs ∧ b.IsUTF8FirstByte ∧
    ∀ x ∈ bs, ¬ x.IsUTF8FirstByte := by
  have hpos : 0 < (String.utf8EncodeChar c).length := by
    rw [String.length_utf8EncodeChar]
    exact c.utf8Size_pos
  have hfirst : ∀ i (hi : i < (String.utf8EncodeChar c).length),
      (String.utf8EncodeChar c)[i].IsUTF8FirstByte ↔ i = 0 := fun _ _ => UInt8.isUTF8FirstByte_getElem_utf8EncodeChar
  generalize String.utf8EncodeChar c = bytes at hpos hfirst
  cases bytes with
  | nil => exact absurd hpos (Nat.lt_irrefl 0)
  | cons b bs =>
    refine ⟨b, bs, rfl, (hfirst 0 hpos).mpr rfl, fun x hx => ?_⟩
    obtain ⟨i, hi, rfl⟩ := List.mem_iff_getElem.mp hx
    exact fun h => absurd ((hfirst (i + 1) (Nat.succ_lt_succ hi)).mp h) (Nat.succ_ne_zero i)

theorem utf8_iff_isValidUTF8 : Utf8 s ↔ s.toByteArray.IsValidUTF8 := by
  constructor
  · rintro ⟨cs, rfl⟩
    exact ⟨cs, rfl⟩
  · rintro ⟨cs, hcs⟩
    exact ⟨cs, List.toByteArray_inj.mp hcs⟩

@[simp] theorem utf8_nil : Utf8 [] := ⟨[], rfl⟩

theorem Utf8.append (ha : Utf8 a) (hb : Utf8 b) : Utf8 (a ++ b) := by
  obtain ⟨cs, rfl⟩ := ha
  obtain ⟨ds, rfl⟩ := hb
  exact ⟨cs ++ ds, List.flatMap_append.symm⟩

theorem joins_utf8 : Joins Utf8 := ⟨utf8_nil, .append⟩

theorem utf8_encode_append : Utf8 (String.utf8EncodeChar c ++ s) ↔ Utf8 s := by
  have hbytes : (String.utf8EncodeChar c ++ s).toByteArray = [c].utf8Encode ++ s.toByteArray := by
    rw [List.toByteArray_append, List.utf8Encode_singleton]
  rw [utf8_iff_isValidUTF8, hbytes, ByteArray.isValidUTF8_utf8Encode_singleton_append_iff, utf8_iff_isValidUTF8]

/-- What is left behind characters. -/
theorem Utf8.append_iff (ha : Utf8 a) : Utf8 (a ++ b) ↔ Utf8 b := by
  obtain ⟨cs, rfl⟩ := ha
  induction cs with
  | nil => exact Iff.rfl
  | cons c cs ih => rw [List.flatMap_cons, List.append_assoc, utf8_encode_append, ih]

theorem utf8_of_ascii (h : ∀ x ∈ s, x < 128) : Utf8 s := by
  induction s with
  | nil => exact utf8_nil
  | cons x s ih =>
    rw [List.forall_mem_cons] at h
    have hx : x.toNat < 128 := UInt8.lt_iff_toNat_lt.mp h.1
    have hchar : String.utf8EncodeChar (Char.ofNat x.toNat) = [x] := by
      have hvalid : x.toNat.isValidChar := .inl (by omega)
      have hval : (Char.ofNat x.toNat).val.toNat = x.toNat := by
        unfold Char.ofNat
        rw [dif_pos hvalid]
        rfl
      unfold String.utf8EncodeChar
      dsimp only
      rw [hval, if_pos (by omega), UInt8.ofNat_toNat]
    have hcons := @utf8_encode_append s (Char.ofNat x.toNat)
    rw [hchar] at hcons
    exact hcons.mpr (ih h.2)

theorem utf8_singleton {x : UInt8} (hx : x < 128) : Utf8 [x] := utf8_of_ascii (List.forall_mem_singleton.mpr hx)

/-! ## Cuts -/

@[simp] theorem atChar_nil : AtChar [] := fun _ h => absurd h (Option.not_mem_none _)

theorem atChar_cons {x : UInt8} : AtChar (x :: s) ↔ x.IsUTF8FirstByte := by
  unfold AtChar
  simp only [List.head?_cons, Option.mem_some_iff, forall_eq']

theorem atChar_append (ha : a ≠ []) : AtChar (a ++ b) ↔ AtChar a := by
  cases a with
  | nil => exact absurd rfl ha
  | cons x a => rw [List.cons_append, atChar_cons, atChar_cons]

theorem Utf8.atChar (h : Utf8 s) : AtChar s := by
  obtain ⟨cs, rfl⟩ := h
  cases cs with
  | nil => exact atChar_nil
  | cons c cs =>
    obtain ⟨x, xs, hc, hx, -⟩ := utf8EncodeChar_eq c
    rw [List.flatMap_cons, hc]
    exact atChar_cons.mpr hx

theorem AtChar.take (h : AtChar s) (n : Nat) : AtChar (s.take n) := by
  cases s with
  | nil => exact (List.take_nil (i := n)).symm ▸ atChar_nil
  | cons x s =>
    cases n with
    | zero => exact atChar_nil
    | succ n => exact atChar_cons.mpr (atChar_cons.mp h)

/-- Characters do not overlap: what is in front of a first byte is whole. -/
theorem Utf8.left (h : Utf8 (a ++ b)) (hb : AtChar b) : Utf8 a := by
  obtain ⟨cs, hcs⟩ := h
  induction cs generalizing a with
  | nil => exact (List.append_eq_nil_iff.mp hcs).1 ▸ utf8_nil
  | cons c cs ih =>
    rw [List.flatMap_cons] at hcs
    rcases List.append_eq_append_iff.mp hcs with ⟨tail, hc, hrest⟩ | ⟨tail, ha, hrest⟩
    · cases tail with
      | nil =>
        rw [List.append_nil] at hc
        exact hc ▸ ⟨[c], (List.flatMap_singleton _ c).symm⟩
      | cons x tail =>
        cases a with
        | nil => exact utf8_nil
        | cons y a =>
          obtain ⟨z, zs, hz, -, hzs⟩ := utf8EncodeChar_eq c
          have htail : zs = a ++ x :: tail := by
            rw [hz, List.cons_append, List.cons.injEq] at hc
            exact hc.2
          have hx : x.IsUTF8FirstByte := by
            rw [hrest, List.cons_append] at hb
            exact atChar_cons.mp hb
          exact absurd hx (hzs x (htail ▸ List.mem_append_right _ (List.mem_cons_self ..)))
    · rw [ha, utf8_encode_append]
      exact ih hrest.symm

theorem utf8_append_iff (hb : AtChar b) : Utf8 (a ++ b) ↔ Utf8 a ∧ Utf8 b := by
  constructor
  · intro h
    have ha := h.left hb
    exact ⟨ha, ha.append_iff.mp h⟩
  · exact fun h => h.1.append h.2

/-- A cut leaves characters whole exactly where one begins behind it. -/
theorem utf8_take_iff (h : Utf8 s) (n : Nat) : Utf8 (s.take n) ↔ AtChar (s.drop n) := by
  rw [← List.take_append_drop n s] at h
  exact ⟨fun ht => (ht.append_iff.mp h).atChar, fun hd => h.left hd⟩

/-- Cutting a text behind a part that is kept whole. -/
theorem utf8_take_append_iff {n : Nat} (ha : a.length ≤ n) (hb : Utf8 b) :
    Utf8 ((a ++ b).take n) ↔ Utf8 a ∧ AtChar ((a ++ b).drop n) := by
  rw [List.take_append, List.take_of_length_le ha, List.drop_append, List.drop_of_length_le ha, List.nil_append,
    utf8_append_iff (hb.atChar.take _), utf8_take_iff hb]

/-! ## ASCII bytes between texts -/

theorem atChar_ascii {x : UInt8} (hx : x < 128) : AtChar (x :: s) := by
  have hone : AtChar [x] := (utf8_singleton hx).atChar
  exact atChar_cons.mpr (atChar_cons.mp hone)

theorem utf8_ascii_cons {x : UInt8} (hx : x < 128) : Utf8 (x :: s) ↔ Utf8 s :=
  (utf8_singleton hx).append_iff

theorem utf8_append_cons {x : UInt8} (hx : x < 128) : Utf8 (a ++ x :: b) ↔ Utf8 a ∧ Utf8 b := by
  rw [utf8_append_iff (atChar_ascii hx), utf8_ascii_cons hx]

theorem utf8_intercalate_iff {x : UInt8} (hx : x < 128) (parts : List (List UInt8)) :
    Utf8 ([x].intercalate parts) ↔ ∀ p ∈ parts, Utf8 p := by
  induction parts with
  | nil => exact ⟨fun _ => List.forall_mem_nil _, fun _ => utf8_nil⟩
  | cons p parts ih =>
    cases parts with
    | nil => rw [List.intercalate_singleton, List.forall_mem_singleton]
    | cons q parts =>
      rw [List.intercalate_cons_cons, List.append_assoc, List.singleton_append, utf8_append_cons hx, ih,
        List.forall_mem_cons (a := p)]

/-! ## Fragments -/

theorem Utf8.fragment (h : Utf8 s) : Fragment s := ⟨[], [], by rwa [List.nil_append, List.append_nil]⟩

theorem Fragment.of_infix (h : Fragment s) (ha : a <:+: s) : Fragment a := by
  obtain ⟨x, y, hxy⟩ := h
  obtain ⟨l, r, rfl⟩ := ha
  exact ⟨x ++ l, r ++ y, by simpa only [List.append_assoc] using hxy⟩

theorem Fragment.utf8_iff (h : Fragment (a ++ b)) (ha : a ≠ []) (hb : b ≠ []) :
    Utf8 a ↔ AtChar a ∧ AtChar b := by
  obtain ⟨x, y, hxy⟩ := h
  have hrest : AtChar a → Utf8 (a ++ (b ++ y)) := by
    intro hat
    rw [List.append_assoc, List.append_assoc, utf8_append_iff ((atChar_append ha).mpr hat)] at hxy
    exact hxy.2
  constructor
  · intro hutf
    have hbehind : Utf8 (b ++ y) := hutf.append_iff.mp (hrest hutf.atChar)
    exact ⟨hutf.atChar, (atChar_append hb).mp hbehind.atChar⟩
  · intro ⟨hat, hbat⟩
    exact (hrest hat).left ((atChar_append hb).mpr hbat)

/-- Cells of a text: the quotes taken out of it are characters of their own. -/
theorem fragment_cells {sep quote : UInt8} (hsep : sep < 128) (hquote : quote < 128) {cur text : List UInt8}
    (h : Utf8 (a ++ (cur ++ text) ++ b)) (inQuotes : Bool) :
    ∀ cell ∈ (cells sep quote inQuotes text).modifyHead (cur ++ ·), Fragment cell := by
  induction text generalizing a cur inQuotes with
  | nil =>
    rw [cells_nil, List.modifyHead_cons, List.forall_mem_singleton]
    exact ⟨a, b, h⟩
  | cons x text ih =>
    rw [cells]
    by_cases hx : x = quote
    · rw [if_pos hx]
      rw [hx, ← List.append_assoc, List.append_assoc, List.cons_append, utf8_append_cons hquote] at h
      exact @ih a cur (by simpa only [List.append_assoc] using h.1.append h.2) _
    rw [if_neg hx]
    by_cases hend : x = sep ∧ inQuotes = false
    · rw [if_pos hend, List.modifyHead_cons, List.append_nil, List.forall_mem_cons]
      rw [hend.1, ← List.append_assoc, List.append_assoc, List.cons_append, utf8_append_cons hsep] at h
      refine ⟨⟨a, [], by simpa only [List.append_nil] using h.1⟩, ?_⟩
      have hrest := @ih [] [] h.2 inQuotes
      rwa [show (fun cell : List UInt8 => [] ++ cell) = id from rfl, List.modifyHead_id] at hrest
    · rw [if_neg hend, List.modifyHead_modifyHead]
      have hnext := @ih a (cur ++ [x]) (by simpa only [List.append_assoc, List.singleton_append] using h) inQuotes
      simpa only [Function.comp_def, List.append_assoc, List.singleton_append] using hnext

/-! ## Buffers -/

namespace Piece

/-- Putting a piece into a buffer of which this much is used cuts no character. -/
def CutClean (cap used : Nat) : Piece UInt8 → Prop
  | whole _ => True
  | cut src => AtChar (src.drop (cap - used))

/-- Putting pieces one after the other cuts no character. -/
def CutsClean (cap : Nat) : Nat → List (Piece UInt8) → Prop
  | _, [] => True
  | used, p :: ps => p.CutClean cap used ∧ CutsClean cap (p.fill cap used) ps

end Piece

theorem utf8_put_iff {cap : Nat} {buf : List UInt8} {p : Piece UInt8} (h : Utf8 p.text) :
    Utf8 (p.put cap buf) ↔ Utf8 buf ∧ p.CutClean cap buf.length := by
  cases p with
  | whole src =>
    rw [Piece.put, put, Piece.CutClean, and_true]
    rw [Piece.text] at h
    split
    · rw [utf8_append_iff h.atChar]
      exact and_iff_left h
    · exact Iff.rfl
  | cut src =>
    rw [Piece.text] at h
    rw [Piece.put, Piece.CutClean, utf8_append_iff (h.atChar.take _)]
    exact and_congr_right fun _ => utf8_take_iff h _

theorem utf8_foldl_put_iff {cap : Nat} {ps : List (Piece UInt8)} (h : ∀ p ∈ ps, Utf8 p.text) (buf : List UInt8) :
    Utf8 (ps.foldl (Piece.put cap) buf) ↔ Utf8 buf ∧ Piece.CutsClean cap buf.length ps := by
  induction ps generalizing buf with
  | nil => exact (and_iff_left trivial).symm
  | cons p ps ih =>
    rw [List.forall_mem_cons] at h
    rw [List.foldl_cons, ih h.2, utf8_put_iff h.1, Piece.length_put, Piece.CutsClean, and_assoc]

end Framework
