import Mathlib.Data.List.Nodup
import Mathlib.Data.List.Sort

/-!
# Lists filled by insertion

Ways of putting a sequence of records into a list, one by one. `addUnless`
puts a record in front unless a test says that it is there already, and `addNew`
tests its key: the first record of every key is the one found
(`find?_foldl_addNew`). `insertBehind` puts it behind all records whose key is
not larger: this is a stable sort (`foldl_insertBehind`).
-/

namespace Framework

variable {α κ : Type*}

section Unseen

variable (seen : List α → α → Bool)

def addUnless (xs : List α) (x : α) : List α := if seen xs x then xs else x :: xs

variable {seen}

theorem addUnless_seen {xs : List α} {x : α} (h : seen xs x = true) : addUnless seen xs x = xs := if_pos h

theorem addUnless_new {xs : List α} {x : α} (h : seen xs x = false) : addUnless seen xs x = x :: xs :=
  if_neg (by rw [h]; exact Bool.false_ne_true)

/-- A single record is put there, or is there already. -/
theorem foldl_addUnless_toList (xs : List α) (own : Option α) :
    ∃ new : Option α, own.toList.foldl (addUnless seen) xs = new.toList ++ xs ∧ ∀ x ∈ new, own = some x := by
  cases own with
  | none => exact ⟨none, rfl, fun x hx => by cases hx⟩
  | some x =>
    cases hx : seen xs x with
    | true => exact ⟨none, addUnless_seen hx, fun y hy => by cases hy⟩
    | false => exact ⟨some x, addUnless_new hx, fun y hy => hy⟩

/-- Where nothing is there already, everything is put into the list. -/
theorem foldl_addUnless_never (records xs : List α) :
    records.foldl (addUnless fun _ _ => false) xs = records.reverse ++ xs := by
  induction records generalizing xs with
  | nil => rfl
  | cons x records ih =>
    rw [List.foldl_cons, addUnless_new rfl, ih, List.reverse_cons, List.append_assoc, List.singleton_append]

end Unseen

section FirstWins

variable [BEq κ] [LawfulBEq κ] (key : α → κ)

def addNew (xs : List α) (x : α) : List α :=
  if (xs.find? (key · == key x)).isNone then x :: xs else xs

omit [LawfulBEq κ] in
theorem addNew_eq_addUnless : addNew key = addUnless fun xs x => (xs.find? (key · == key x)).isSome := by
  funext xs x
  unfold addNew addUnless
  cases hfind : xs.find? (key · == key x) with
  | none => simp [hfind]
  | some y => simp [hfind]

theorem find?_addNew (xs : List α) (x : α) (k : κ) :
    (addNew key xs x).find? (key · == k) = (xs.find? (key · == k)).or ([x].find? (key · == k)) := by
  unfold addNew
  by_cases hx : key x = k
  · subst hx
    cases hf : xs.find? (key · == key x) with
    | none => simp
    | some y => simp [hf]
  · have hskip : (x :: xs).find? (key · == k) = xs.find? (key · == k) :=
      List.find?_cons_of_neg (by simpa using hx)
    have hnone : [x].find? (key · == k) = none := by simpa using hx
    rw [hnone, Option.or_none]
    split
    · exact hskip
    · rfl

/-- The record found for a key is the first one of the sequence. -/
theorem find?_foldl_addNew (xs init : List α) (k : κ) :
    (xs.foldl (addNew key) init).find? (key · == k) =
      (init.find? (key · == k)).or (xs.find? (key · == k)) := by
  induction xs generalizing init with
  | nil => simp
  | cons x xs ih =>
    rw [List.foldl_cons, ih, find?_addNew, Option.or_assoc, ← List.find?_append]
    rfl

theorem foldl_addNew_ne_nil {xs : List α} (h : xs ≠ []) (init : List α) : xs.foldl (addNew key) init ≠ [] := by
  obtain ⟨x, xs, rfl⟩ := List.exists_cons_of_ne_nil h
  intro hnil
  have hfind := find?_foldl_addNew key (x :: xs) init (key x)
  rw [hnil, List.find?_nil, eq_comm, Option.or_eq_none_iff] at hfind
  exact List.find?_eq_none.mp hfind.2 x (List.mem_cons_self ..) (beq_self_eq_true _)

omit [BEq κ] [LawfulBEq κ] in
/-- What hangs on the record of one key. -/
theorem filterMap_of_nodup [DecidableEq κ] {β : Type*} {l : List α} (h : (l.map key).Nodup) {a : α} (ha : a ∈ l)
    (value : Option β) : (l.filterMap fun b => if key b = key a then value else none) = value.toList := by
  induction l with
  | nil => cases ha
  | cons b l ih =>
    rw [List.map_cons, List.nodup_cons] at h
    rcases List.mem_cons.mp ha with rfl | ha
    · have hrest : (l.filterMap fun b => if key b = key a then value else none) = [] := by
        refine List.filterMap_eq_nil_iff.mpr fun b hb => if_neg fun heq => h.1 ?_
        exact heq ▸ List.mem_map_of_mem hb
      rw [List.filterMap_cons, if_pos rfl, hrest]
      cases value <;> rfl
    · have hne : key b ≠ key a := fun heq => h.1 (heq ▸ List.mem_map_of_mem ha)
      rw [List.filterMap_cons, if_neg hne]
      exact ih h.2 ha

/-- Of lists that hang on records with different keys, those of one key are one list. -/
theorem filter_flatMap_of_nodup {β : Type*} {l : List α} (h : (l.map key).Nodup) {g : α → List β} {own : β → κ}
    (hown : ∀ a ∈ l, ∀ b ∈ g a, own b = key a) {a : α} (ha : a ∈ l) :
    (l.flatMap g).filter (fun b => own b == key a) = g a := by
  have hself : ∀ c ∈ l, key c = key a → (g c).filter (fun b => own b == key a) = g c := fun c hc hkey =>
    List.filter_eq_self.mpr fun b hb => by rw [hown c hc b hb, hkey, beq_self_eq_true]
  have hother : ∀ c ∈ l, key c ≠ key a → (g c).filter (fun b => own b == key a) = [] := fun c hc hkey =>
    List.filter_eq_nil_iff.mpr fun b hb => by rw [hown c hc b hb, beq_iff_eq]; exact hkey
  rw [List.filter_flatMap]
  obtain ⟨before, after, rfl⟩ := List.append_of_mem ha
  rw [List.map_append, List.map_cons] at h
  obtain ⟨-, hafter, hbefore⟩ := List.nodup_append.mp h
  have hnot := (List.nodup_cons.mp hafter).1
  rw [List.flatMap_append, List.flatMap_cons, hself a ha rfl]
  have hleft : before.flatMap (fun c => (g c).filter fun b => own b == key a) = [] := by
    refine List.flatMap_eq_nil_iff.mpr fun c hc => hother c (List.mem_append_left _ hc) ?_
    exact hbefore _ (List.mem_map_of_mem hc) _ (List.mem_cons_self ..)
  have hright : after.flatMap (fun c => (g c).filter fun b => own b == key a) = [] := by
    refine List.flatMap_eq_nil_iff.mpr fun c hc => hother c (List.mem_append_right _ (List.mem_cons_of_mem _ hc)) ?_
    exact fun hkey => hnot (hkey ▸ List.mem_map_of_mem hc)
  rw [hleft, hright, List.nil_append, List.append_nil]

/-- A sequence without repeated keys is kept whole. -/
theorem foldl_addNew_of_nodup {xs init : List α} (h : ((xs.reverse ++ init).map key).Nodup) :
    xs.foldl (addNew key) init = xs.reverse ++ init := by
  induction xs generalizing init with
  | nil => rfl
  | cons x xs ih =>
    rw [List.reverse_cons, List.append_assoc, List.singleton_append] at h ⊢
    have hnew : addNew key init x = x :: init := by
      unfold addNew
      rw [List.map_append, List.map_cons] at h
      have hnot := (List.nodup_cons.mp (List.nodup_append.mp h).2.1).1
      refine if_pos (Option.isNone_iff_eq_none.mpr (List.find?_eq_none.mpr fun y hy => ?_))
      simpa using fun hxy : key y = key x => hnot (hxy ▸ List.mem_map_of_mem hy)
    rw [List.foldl_cons, hnew, ih h]

omit [LawfulBEq κ] in
theorem mem_foldl_addNew {xs init : List α} {x : α} (h : x ∈ xs.foldl (addNew key) init) :
    x ∈ init ∨ x ∈ xs := by
  induction xs generalizing init with
  | nil => exact .inl h
  | cons y xs ih =>
    rcases ih h with h | h
    · unfold addNew at h
      split at h
      · rcases List.mem_cons.mp h with rfl | h
        · exact .inr (List.mem_cons_self ..)
        · exact .inl h
      · exact .inl h
    · exact .inr (List.mem_cons_of_mem _ h)

theorem nodup_addNew {xs : List α} (h : (xs.map key).Nodup) (x : α) :
    ((addNew key xs x).map key).Nodup := by
  unfold addNew
  split
  · rename_i hnone
    rw [List.map_cons, List.nodup_cons]
    refine ⟨fun hm => ?_, h⟩
    obtain ⟨y, hy, hxy⟩ := List.mem_map.mp hm
    exact List.find?_eq_none.mp (Option.isNone_iff_eq_none.mp hnone) y hy (by simp [hxy])
  · exact h

theorem nodup_foldl_addNew (xs : List α) {init : List α} (h : (init.map key).Nodup) :
    ((xs.foldl (addNew key) init).map key).Nodup := by
  induction xs generalizing init with
  | nil => exact h
  | cons x xs ih => exact ih (nodup_addNew key h x)

end FirstWins

section StableSort

variable [LinearOrder κ] (key : α → κ)

def insertBehind (x : α) : List α → List α
  | [] => [x]
  | y :: ys => if key y ≤ key x then y :: insertBehind x ys else x :: y :: ys

/-- `ys` are the elements of `xs` in the order of their keys, those with the
same key as they stand in `xs`. -/
structure StableSort (xs ys : List α) : Prop where
  perm : ys.Perm xs
  sorted : ys.Pairwise (key · ≤ key ·)
  stable : ∀ k, ys.filter (key · = k) = xs.filter (key · = k)

variable {key}

theorem insertBehind_perm (x : α) (ys : List α) : (insertBehind key x ys).Perm (x :: ys) := by
  induction ys with
  | nil => exact List.Perm.refl _
  | cons y ys ih =>
    unfold insertBehind
    split
    · exact (ih.cons y).trans (List.Perm.swap x y ys)
    · exact List.Perm.refl _

theorem insertBehind_sorted (x : α) {ys : List α} (h : ys.Pairwise (key · ≤ key ·)) :
    (insertBehind key x ys).Pairwise (key · ≤ key ·) := by
  induction ys with
  | nil => exact List.pairwise_singleton _ _
  | cons y ys ih =>
    obtain ⟨hy, hys⟩ := List.pairwise_cons.mp h
    unfold insertBehind
    split
    · rename_i hyx
      refine List.pairwise_cons.mpr ⟨fun z hz => ?_, ih hys⟩
      rcases List.mem_cons.mp ((insertBehind_perm x ys).mem_iff.mp hz) with rfl | hz
      · exact hyx
      · exact hy z hz
    · rename_i hxy
      refine List.pairwise_cons.mpr ⟨fun z hz => ?_, h⟩
      rcases List.mem_cons.mp hz with rfl | hz
      · exact (not_le.mp hxy).le
      · exact (not_le.mp hxy).le.trans (hy z hz)

/-- Behind the elements with the key of `x`, and so last among them. -/
theorem filter_insertBehind (x : α) {ys : List α} (h : ys.Pairwise (key · ≤ key ·)) (k : κ) :
    (insertBehind key x ys).filter (key · = k) = (ys ++ [x]).filter (key · = k) := by
  induction ys with
  | nil => rfl
  | cons y ys ih =>
    obtain ⟨hy, hys⟩ := List.pairwise_cons.mp h
    unfold insertBehind
    split
    · rw [List.cons_append, List.filter_cons, List.filter_cons, ih hys]
    · rename_i hxy
      by_cases hk : key x = k
      · -- nothing in the list has a key as small as `k`
        have hnone : (y :: ys).filter (key · = k) = [] := by
          refine List.filter_eq_nil_iff.mpr fun z hz => ?_
          have hyz : key y ≤ key z := by
            rcases List.mem_cons.mp hz with rfl | hz
            · exact le_rfl
            · exact hy z hz
          have hlt := (not_le.mp hxy).trans_le hyz
          simpa using fun hzk : key z = k => hlt.ne (hk.trans hzk.symm)
        rw [List.filter_append, hnone, List.filter_cons_of_pos (by simpa using hk), hnone]
        simp [hk]
      · rw [List.filter_append, List.filter_cons_of_neg (by simpa using hk)]
        simp [hk]

theorem StableSort.insertBehind {xs ys : List α} (h : StableSort key xs ys) (x : α) :
    StableSort key (xs ++ [x]) (insertBehind key x ys) where
  perm := (insertBehind_perm x ys).trans ((h.perm.cons x).trans (List.perm_append_singleton x xs).symm)
  sorted := insertBehind_sorted x h.sorted
  stable k := by
    rw [filter_insertBehind x h.sorted, List.filter_append, List.filter_append, h.stable]

/-- The two conditions on the order leave one list. -/
theorem StableSort.unique {xs ys zs : List α} (hy : StableSort key xs ys) (hz : StableSort key xs zs) :
    ys = zs := by
  have hperm : ys.Perm zs := hy.perm.trans hz.perm.symm
  have hfilter : ∀ k, ys.filter (key · = k) = zs.filter (key · = k) := fun k =>
    (hy.stable k).trans (hz.stable k).symm
  obtain ⟨-, hys, -⟩ := hy
  obtain ⟨-, hzs, -⟩ := hz
  induction ys generalizing zs with
  | nil => exact (List.nil_perm.mp hperm).symm
  | cons y ys ih =>
    cases zs with
    | nil => exact absurd hperm.length_eq (by simp)
    | cons z zs =>
      -- both lists start with the smallest key
      have hkey : key y = key z := by
        refine le_antisymm ?_ ?_
        · rcases List.mem_cons.mp (hperm.mem_iff.mpr (List.mem_cons_self ..)) with h | h
          · rw [h]
          · exact (List.pairwise_cons.mp hys).1 z h
        · rcases List.mem_cons.mp (hperm.mem_iff.mp (List.mem_cons_self ..)) with h | h
          · rw [h]
          · exact (List.pairwise_cons.mp hzs).1 y h
      have hhead := hfilter (key y)
      rw [List.filter_cons_of_pos (by simp), List.filter_cons_of_pos (by simp [hkey])] at hhead
      obtain ⟨rfl, -⟩ := List.cons.inj hhead
      congr 1
      refine ih hperm.cons_inv (fun k => ?_) (List.pairwise_cons.mp hys).2 (List.pairwise_cons.mp hzs).2
      have hk := hfilter k
      rw [List.filter_cons, List.filter_cons] at hk
      split at hk
      · exact (List.cons.inj hk).2
      · exact hk

theorem stableSort_mergeSort (xs : List α) :
    StableSort key xs (xs.mergeSort fun a b => decide (key a ≤ key b)) := by
  have htrans : ∀ a b c : α, decide (key a ≤ key b) = true → decide (key b ≤ key c) = true →
      decide (key a ≤ key c) = true := by
    intro a b c hab hbc
    simp only [decide_eq_true_eq] at hab hbc ⊢
    exact hab.trans hbc
  have htotal : ∀ a b : α, (decide (key a ≤ key b) || decide (key b ≤ key a)) = true := by
    intro a b
    simpa using le_total (key a) (key b)
  have hperm := List.mergeSort_perm xs fun a b => decide (key a ≤ key b)
  refine ⟨hperm, ?_, fun k => ?_⟩
  · exact (List.pairwise_mergeSort htrans htotal xs).imp fun h => by simpa using h
  · -- elements with one key are sorted as they stand, so the sort keeps their order
    have hsame : (xs.filter (key · = k)).Pairwise fun a b => decide (key a ≤ key b) = true := by
      refine List.pairwise_of_forall_mem_list fun a ha b hb => ?_
      have hka : key a = k := by simpa using (List.mem_filter.mp ha).2
      have hkb : key b = k := by simpa using (List.mem_filter.mp hb).2
      simp [hka, hkb]
    have hsub := (List.sublist_mergeSort htrans htotal hsame List.filter_sublist).filter (key · = k)
    rw [List.filter_filter, show (fun a => decide (key a = k) && decide (key a = k)) =
      fun a => decide (key a = k) from funext fun a => Bool.and_self _] at hsub
    exact (hsub.eq_of_length (hperm.filter _).length_eq.symm).symm

/-- Inserting one by one sorts stably. -/
theorem foldl_insertBehind (xs : List α) :
    xs.foldl (fun ys x => insertBehind key x ys) [] = xs.mergeSort fun a b => decide (key a ≤ key b) := by
  have hrun : ∀ (xs done ys : List α), StableSort key done ys →
      StableSort key (done ++ xs) (xs.foldl (fun ys x => Framework.insertBehind key x ys) ys) := by
    intro xs
    induction xs with
    | nil => intro done ys h; simpa using h
    | cons x xs ih =>
      intro done ys h
      rw [List.append_cons]
      exact ih _ _ (h.insertBehind x)
  have hnil : StableSort key ([] : List α) [] := ⟨List.Perm.refl _, List.Pairwise.nil, fun _ => rfl⟩
  exact (hrun xs [] [] hnil).unique (stableSort_mergeSort xs)

end StableSort

end Framework
