import Transit.Proof.RecordViews
import Transit.Proof.StoredLines

/-!
# What a stored favourite names

`favorite_target_exists` looks for an item that the id or the display name
identifies (`favoriteTargetExists_iff`), so the name alone may let an id pass
that is no item's.

* `handleFavoriteAdd_target`: a line is appended only for an id or a name that
  identifies a loaded item of its type.
-/

namespace Transit

variable {D : Type}

/-- The value is the id or the name of a loaded item of this type, by the
rules for routes that `route_matches_input` has. -/
def Identifies (data : AppData D) (type value : Str) : Prop :=
  (type = utf8 "stop" ∧ ∃ stop ∈ data.stops, stop.stopId.val = value ∨ stop.stopName.val = value) ∨
  (type = utf8 "bus" ∧ ∃ route ∈ data.routes,
    route.routeNo.val = value ∨ routeMatchesInput route value value = true) ∨
  (type = utf8 "station" ∧ ∃ station ∈ data.stations,
    station.stationId.val = value ∨ station.stationName.val = value)

instance (data : AppData D) (type value : Str) : Decidable (Identifies data type value) :=
  inferInstanceAs (Decidable (_ ∨ _))

/-- A match is one of the id or one of the name. -/
theorem textMatchesInput_or (value id name : Str) :
    textMatchesInput value id name = (textMatchesInput value id id || textMatchesInput value name name) := by
  unfold textMatchesInput
  cases strIsBlank value <;> cases strIsBlank id <;> cases strIsBlank name <;> simp

theorem routeMatchesInput_or (route : RouteNode) (id name : Str) :
    routeMatchesInput route id name = (routeMatchesInput route id id || routeMatchesInput route name name) := by
  unfold routeMatchesInput
  rw [textMatchesInput_or route.routeNo id name, textMatchesInput_or route.routeName id name]
  ac_rfl

theorem textMatchesInput_self {value text : Str} (h : strIsBlank text = false) :
    textMatchesInput value text text = (value == text) := by
  unfold textMatchesInput
  rw [h]
  cases hv : value == text with
  | false => simp
  | true =>
    have heq : value = text := by simpa using hv
    rw [heq, h]
    simp

/-- Looking for the id, for the name, and then for a record that matches either. -/
theorem exists_either {α : Type} (key : α → Str) (isMatch : α → Str → Bool) (records : List α) (id name : Str) :
    ((records.find? (key · == id)).isSome || (records.find? (key · == name)).isSome ||
        records.any fun cur => isMatch cur id || isMatch cur name) = true ↔
      (∃ cur ∈ records, key cur = id ∨ isMatch cur id = true) ∨
        ∃ cur ∈ records, key cur = name ∨ isMatch cur name = true := by
  simp only [Bool.or_eq_true, List.find?_isSome, beq_iff_eq, List.any_eq_true]
  constructor
  · rintro ((⟨cur, hcur, h⟩ | ⟨cur, hcur, h⟩) | ⟨cur, hcur, h | h⟩)
    · exact .inl ⟨cur, hcur, .inl h⟩
    · exact .inr ⟨cur, hcur, .inl h⟩
    · exact .inl ⟨cur, hcur, .inr h⟩
    · exact .inr ⟨cur, hcur, .inr h⟩
  · rintro (⟨cur, hcur, h | h⟩ | ⟨cur, hcur, h | h⟩)
    · exact .inl (.inl ⟨cur, hcur, h⟩)
    · exact .inr ⟨cur, hcur, .inl h⟩
    · exact .inl (.inr ⟨cur, hcur, h⟩)
    · exact .inr ⟨cur, hcur, .inr h⟩

variable {data : AppData D} {type id name : Str}

/-- Both parts of an addition are looked for. -/
theorem favoriteTargetExists_iff (h : FavoriteFields type id name) :
    favoriteTargetExists data type id name = true ↔ Identifies data type id ∨ Identifies data type name := by
  obtain ⟨hbus, hstation, hboth⟩ :
      utf8 "bus" ≠ utf8 "stop" ∧ utf8 "station" ≠ utf8 "stop" ∧ utf8 "station" ≠ utf8 "bus" := by decide
  have htype := h.type
  simp only [List.mem_cons, List.not_mem_nil, or_false] at htype
  unfold favoriteTargetExists Identifies
  rcases htype with rfl | rfl | rfl
  · rw [if_neg (by decide), if_pos (by decide)]
    simp only [textMatchesInput_or _ id name, textMatchesInput_self h.id_blank, textMatchesInput_self h.name_blank,
      hbus.symm, hstation.symm, true_and, false_and, or_false]
    have heither := exists_either (·.stopId.val) (fun cur value => cur.stopName.val == value) data.stops id name
    simp only [beq_iff_eq] at heither
    exact heither
  · rw [if_neg (by decide), if_neg (by decide), if_pos (by decide)]
    simp only [routeMatchesInput_or _ id name, hbus, hboth.symm, true_and, false_and, or_false, false_or]
    exact exists_either (·.routeNo.val) (fun cur value => routeMatchesInput cur value value) data.routes id name
  · rw [if_neg (by decide), if_neg (by decide), if_neg (by decide), if_pos (by decide)]
    simp only [textMatchesInput_or _ id name, textMatchesInput_self h.id_blank, textMatchesInput_self h.name_blank,
      hboth, hstation, true_and, false_and, false_or]
    have heither := exists_either (·.stationId.val) (fun cur value => cur.stationName.val == value) data.stations
      id name
    simp only [beq_iff_eq] at heither
    exact heither

/-- The favourites change by a line whose id or name identifies a loaded item, or not at all. -/
theorem handleFavoriteAdd_target (io : Io) (data : AppData D) (fs : UserFiles) (payload : Str) (size : Nat) :
    (handleFavoriteAdd io data fs payload size).2 = fs ∨
    ∃ type id name, favoriteAddFields payload = some (type, id, name) ∧
      (handleFavoriteAdd io data fs payload size).2 =
        { fs with favorites := some (contents fs.favorites ++ favoriteLine type id name) } ∧
      (Identifies data type id ∨ Identifies data type name) := by
  unfold handleFavoriteAdd
  cases hfields : favoriteAddFields payload with
  | none => exact .inl rfl
  | some row =>
    obtain ⟨type, id, name⟩ := row
    dsimp only
    cases htarget : favoriteTargetExists data type id name with
    | false => exact .inl rfl
    | true =>
      rw [if_neg (by decide)]
      cases hexists : favoriteExists io fs type id with
      | true => exact .inl rfl
      | false =>
        rw [if_neg (by decide)]
        cases io.openWrite with
        | false => exact .inl rfl
        | true =>
          refine .inr ⟨type, id, name, rfl, rfl, ?_⟩
          exact (favoriteTargetExists_iff (favoriteAddFields_spec hfields)).mp htarget

/-- The display name of a stop lets any id pass. -/
theorem handleFavoriteAdd_byName :
    (handleFavoriteAdd .allOk (loadedData kioskFiles : AppData ℚ) ⟨none, none, none, none⟩ (utf8 "stop:nowhere:S")
        maxPacketSize).2.favorites = some (utf8 "stop|nowhere|S\n") ∧
      ¬ Identifies (loadedData kioskFiles : AppData ℚ) (utf8 "stop") (utf8 "nowhere") := by
  decide +kernel

end Transit
