import Transit.Proof.StoredLines

/-!
# Replacing a file when file operations fail

Both functions write a temporary file, remove the original and rename the
temporary file. Where this is interrupted between the two, the data is gone:
`fileUpdates_atomic_iff` says exactly when a call leaves its file either as it
was or as it was meant to be.
-/

namespace Transit

/-- A delete request leaves the favourites as they were or as they were meant
to be, and as they were where it answers an error. -/
def DeleteAtomic (io : Io) (fs : UserFiles) (payload : Str) (size : Nat) : Prop :=
  (contents (handleFavoriteDelete io fs payload size).2.favorites = contents fs.favorites ∨
    contents (handleFavoriteDelete io fs payload size).2.favorites =
      contents (handleFavoriteDelete .allOk fs payload size).2.favorites) ∧
  ((handleFavoriteDelete io fs payload size).1.code = .serverError →
    contents (handleFavoriteDelete io fs payload size).2.favorites = contents fs.favorites)

/-- A search that is recorded leaves the history as it was or as it was meant to be. -/
def RecentAtomic (io : Io) (fs : UserFiles) (type keyword ts : Str) : Prop :=
  contents (serverRecentAdd io fs type keyword ts).recent = contents fs.recent ∨
    contents (serverRecentAdd io fs type keyword ts).recent =
      contents (serverRecentAdd .allOk fs type keyword ts).recent

/-- Nothing that a delete request does is interrupted after the original is
removed: it names no stored line, or gets no further than `remove`, or its
`rename` succeeds. -/
def DeleteCompletes (io : Io) (fs : UserFiles) (payload : Str) : Prop :=
  deleteTarget fs payload = none ∨ io.openRead = false ∨ io.openWrite = false ∨ io.remove = false ∨
    io.rename = true

/-- The same for a recorded search. Here the old records are lost also where the
file could not be read (and says something else than the new record). -/
def RecentCompletes (io : Io) (fs : UserFiles) (type keyword ts : Str) : Prop :=
  recentAccepts type keyword = false ∨ io.openWrite = false ∨
    (io.rename = true ∧ (io.openRead = true ∨ storedLines (contents fs.recent) = [] ∨
      contents fs.recent = recentRecord type keyword ts ++ [packetTerm])) ∨
    (io.rename = false ∧ (io.remove = false ∨ contents fs.recent = []))

variable (io : Io) (fs : UserFiles)

/-! ## Deleting a favourite -/

theorem storedLines_ne_nil {payload : Str} {i : Nat} (h : deleteTarget fs payload = some i) :
    contents fs.favorites ≠ [] := by
  intro hnil
  have hi := (deleteTarget_eq_some h).2
  rw [hnil] at hi
  exact absurd hi (Nat.not_lt_zero i)

theorem deleteAtomic_iff (payload : Str) (size : Nat) :
    DeleteAtomic io fs payload size ↔ DeleteCompletes io fs payload := by
  unfold DeleteAtomic DeleteCompletes
  constructor
  · intro ⟨_, herror⟩
    by_contra hc
    simp only [not_or, Bool.not_eq_false, Bool.not_eq_true] at hc
    obtain ⟨htarget, hr, hw, hm, hn⟩ := hc
    obtain ⟨i, hi⟩ := Option.ne_none_iff_exists'.mp htarget
    obtain ⟨hlost, hcode⟩ := handleFavoriteDelete_lost size hi hr hw hm hn
    have hold := herror hcode
    rw [hlost] at hold
    exact storedLines_ne_nil fs hi hold.symm
  · intro h
    by_cases hkept : deleteTarget fs payload = none ∨ io.openRead = false ∨ io.openWrite = false ∨
        io.remove = false
    · rw [handleFavoriteDelete_kept size hkept]
      exact ⟨.inl rfl, fun _ => rfl⟩
    · simp only [not_or, Bool.not_eq_false] at hkept
      obtain ⟨htarget, hr, hw, hm⟩ := hkept
      obtain ⟨i, hi⟩ := Option.ne_none_iff_exists'.mp htarget
      have hn : io.rename = true := by
        rcases h with h | h | h | h | h
        · exact absurd h htarget
        · rw [h] at hr; cases hr
        · rw [h] at hw; cases hw
        · rw [h] at hm; cases hm
        · exact h
      obtain ⟨hnew, hcode⟩ := handleFavoriteDelete_replaced size hi hr hw hm hn
      obtain ⟨hall, -⟩ := @handleFavoriteDelete_replaced .allOk fs payload i size hi rfl rfl rfl rfl
      rw [hnew, hall, hcode]
      exact ⟨.inr rfl, fun hs => by cases hs⟩

/-! ## Recording a search -/

theorem pushRecord_ne_nil (room : Nat) (kept : List Str) (line : Str) :
    pushRecord room kept line ≠ [] := by
  unfold pushRecord
  split <;> simp

theorem keptRecords_eq_nil {file : List Byte} : keptRecords file = [] ↔ storedLines file = [] := by
  have hmap : ((fgetsAll 1024 file).map stripNewline).filter (fun line => !strIsBlank line) =
      (storedLines file).map stripNewline := by
    rw [List.filter_map]
    rfl
  unfold keptRecords
  rw [hmap]
  cases h : storedLines file with
  | nil => exact ⟨fun _ => rfl, fun _ => rfl⟩
  | cons line lines =>
    refine ⟨fun hnil => ?_, fun hnil => by cases hnil⟩
    -- the last record is always kept
    rw [← List.dropLast_append_getLast (List.cons_ne_nil line lines), List.map_append, List.foldl_append] at hnil
    exact (pushRecord_ne_nil _ _ _ hnil).elim

/-- What the history holds after an accepted search. -/
theorem contents_serverRecentAdd {type keyword : Str} (ha : recentAccepts type keyword = true)
    (hw : io.openWrite = true) (ts : Str) :
    contents (serverRecentAdd io fs type keyword ts).recent =
      if io.rename then
        recentText (if io.openRead then keptRecords (contents fs.recent) else []) (recentRecord type keyword ts)
      else if io.remove then [] else contents fs.recent := by
  unfold serverRecentAdd Io.read
  rw [if_neg (by simp [ha])]
  dsimp only
  rw [if_neg (by simp [hw])]
  by_cases hn : io.rename = true
  · rw [if_pos hn, if_pos hn]
    by_cases hr : io.openRead = true
    · rw [if_pos hr, if_pos hr]
      cases fs.recent <;> rfl
    · rw [if_neg hr, if_neg hr]
      rfl
  · rw [if_neg hn, if_neg hn]
    by_cases hm : io.remove = true
    · rw [if_pos hm, if_pos hm]; rfl
    · rw [if_neg hm, if_neg hm]

theorem recentText_inj {kept : List Str} {record : Str} (h : recentText [] record = recentText kept record) :
    kept = [] := by
  have hlen := congrArg List.length h
  unfold recentText at hlen
  cases kept with
  | nil => rfl
  | cons line kept =>
    simp only [List.flatMap_nil, List.flatMap_cons, List.length_append, List.length_singleton,
      List.length_nil] at hlen
    omega

theorem recentAtomic_iff (type keyword ts : Str) :
    RecentAtomic io fs type keyword ts ↔ RecentCompletes io fs type keyword ts := by
  have hrecord : ∀ kept, recentText kept (recentRecord type keyword ts) ≠ [] := fun kept => by
    unfold recentText; simp
  unfold RecentAtomic RecentCompletes
  by_cases ha : recentAccepts type keyword = true
  · by_cases hw : io.openWrite = true
    · have hall := contents_serverRecentAdd .allOk fs ha rfl ts
      change _ = recentText (keptRecords (contents fs.recent)) _ at hall
      rw [contents_serverRecentAdd io fs ha hw, hall]
      simp only [ha, hw, Bool.true_eq_false, false_or]
      by_cases hn : io.rename = true
      · simp only [hn, ↓reduceIte, true_and, Bool.true_eq_false, false_and, or_false]
        by_cases hr : io.openRead = true
        · simp only [hr, ↓reduceIte, or_true, true_or]
        · simp only [hr, Bool.false_eq_true, ↓reduceIte, false_or]
          constructor
          · rintro (hold | hnew)
            · exact .inr hold.symm
            · exact .inl (keptRecords_eq_nil.mp (recentText_inj hnew))
          · rintro (hnone | hold)
            · exact .inr (by rw [keptRecords_eq_nil.mpr hnone])
            · exact .inl hold.symm
      · rw [Bool.not_eq_true] at hn
        simp only [hn, Bool.false_eq_true, ↓reduceIte, false_and, true_and, false_or]
        by_cases hm : io.remove = true
        · simp only [hm, ↓reduceIte, Bool.true_eq_false, false_or]
          constructor
          · rintro (hold | hnew)
            · exact hold.symm
            · exact absurd hnew.symm (hrecord _)
          · exact fun hold => .inl hold.symm
        · simp only [hm, Bool.false_eq_true, ↓reduceIte, true_or]
    · rw [Bool.not_eq_true] at hw
      have hkeep : (serverRecentAdd io fs type keyword ts).recent = fs.recent := by
        unfold serverRecentAdd
        rw [if_neg (by simp [ha])]
        dsimp only
        rw [if_pos (by simp [hw])]
      rw [hkeep]
      exact ⟨fun _ => .inr (.inl hw), fun _ => .inl rfl⟩
  · rw [Bool.not_eq_true] at ha
    have hkeep : serverRecentAdd io fs type keyword ts = fs := by
      unfold serverRecentAdd
      exact if_pos (by simp [ha])
    rw [hkeep]
    exact ⟨fun _ => .inl ha, fun _ => .inl rfl⟩

/-! ## Both -/

/-- For all contents of the files and all outcomes of the file operations: the
two functions update their files atomically exactly when they are not
interrupted. -/
theorem fileUpdates_atomic_iff (payload : Str) (size : Nat) (type keyword ts : Str) :
    (DeleteAtomic io fs payload size ↔ DeleteCompletes io fs payload) ∧
      (RecentAtomic io fs type keyword ts ↔ RecentCompletes io fs type keyword ts) :=
  ⟨deleteAtomic_iff io fs payload size, recentAtomic_iff io fs type keyword ts⟩

/-- Two favourites, the first of which is deleted while `rename` fails: both are
gone, and the answer is an error. The same failure loses the history. -/
theorem fileUpdates_not_atomic :
    let io : Io := { Io.allOk with rename := false }
    let fs : UserFiles := ⟨some (utf8 "stop|1|A\nstop|2|B\n"), none, some (utf8 "stop|A|2026-01-01 00:00:00\n"), none⟩
    (handleFavoriteDelete io fs (utf8 "1") maxPacketSize).2.favorites = none ∧
      ¬ DeleteAtomic io fs (utf8 "1") maxPacketSize ∧
      (serverRecentAdd io fs (utf8 "bus") (utf8 "1") (utf8 "2026-01-01 00:00:01")).recent = none ∧
      ¬ RecentAtomic io fs (utf8 "bus") (utf8 "1") (utf8 "2026-01-01 00:00:01") := by
  intro io fs
  have htarget : deleteTarget fs (utf8 "1") = some 0 := by decide +kernel
  refine ⟨(handleFavoriteDelete_lost _ htarget rfl rfl rfl rfl).1, fun h => ?_, by decide +kernel, fun h => ?_⟩
  · rcases (deleteAtomic_iff io fs (utf8 "1") maxPacketSize).mp h with h | h | h | h | h
    · rw [htarget] at h; cases h
    all_goals cases h
  · rcases (recentAtomic_iff ..).mp h with h | h | ⟨h, -⟩ | ⟨-, h | h⟩
    · exact absurd h (by decide)
    all_goals cases h

end Transit
