import Transit.Server.SearchService

/-!
# What the labels of routes are made of

A display name is one of a few texts, made of the name and the number of the
route (`NameText`) and cut to the buffer; a label is a display name, with the
name of the last stop behind it if that is known (`LabelText`), cut again.
-/

namespace Transit

variable {D : Type} {data : AppData D} {route : RouteNode}

/-- The texts in front of a number. -/
def labelPrefixes : List Str := [utf8 "마중", utf8 "순환", utf8 "공영 "]

/-- The texts a display name is cut from, `name` being the name that is shown. -/
inductive NameText (routeNo name : Str) : Str → Prop
  | numbered {number : Str} : routeNumberFromRouteId routeNo 32 = some number →
      NameText routeNo name (number ++ utf8 "번 - " ++ name)
  | identified : NameText routeNo name (utf8 "노선ID " ++ routeNo ++ utf8 " - " ++ name)
  | prefixed {labelPrefix : Str} (p : Str) (beon : Bool) : labelPrefix ∈ labelPrefixes →
      NameText routeNo name (labelPrefix ++ (routeNumberToken p).1 ++ if beon then utf8 "번" else [])
  | numeric {p : Str} : (routeNumberToken p).1 ≠ [] → NameText routeNo name ((routeNumberToken p).1 ++ utf8 "번")

/-- The texts a label is cut from. -/
inductive LabelText (data : AppData D) (route : RouteNode) (base : Str) : Str → Prop
  | name : LabelText data route base base
  | bound : LabelText data route base
      (base ++ utf8 " - " ++ findNodeNameById data route.endStopId ++ utf8 " 방면")

theorem copyPrefixedRouteNumber_some {name pfx labelPrefix out : Str} {beon : Bool} {n : Nat}
    (h : copyPrefixedRouteNumber name pfx labelPrefix beon n = some out) :
    ∃ p, out = snprintf n (labelPrefix ++ (routeNumberToken p).1 ++ if beon then utf8 "번" else []) := by
  unfold copyPrefixedRouteNumber at h
  cases hpos : strstr name pfx with
  | none =>
    rw [hpos] at h
    cases h
  | some pos =>
    rw [hpos] at h
    dsimp only at h
    split at h
    · cases h
    split at h
    · cases h
    · cases h
      exact ⟨_, rfl⟩

theorem extractNumericRouteNumber_some {name out : Str} {n : Nat} (h : extractNumericRouteNumber name n = some out) :
    ∃ p, (routeNumberToken p).1 ≠ [] ∧ out = snprintf n ((routeNumberToken p).1 ++ utf8 "번") := by
  unfold extractNumericRouteNumber at h
  dsimp only at h
  split at h
  · cases h
  split at h
  · cases h
  · rename_i hdigits
    split at h
    · cases h
    · cases h
      refine ⟨_, fun hnil => ?_, rfl⟩
      rw [hnil] at hdigits
      exact hdigits (.inl rfl)

theorem nameText_of_copyPrefixed {routeNo shown name pfx labelPrefix out : Str} {beon : Bool} {n : Nat}
    (hpre : labelPrefix ∈ labelPrefixes) (h : copyPrefixedRouteNumber name pfx labelPrefix beon n = some out) :
    ∃ text, NameText routeNo shown text ∧ out = snprintf n text := by
  obtain ⟨p, rfl⟩ := copyPrefixedRouteNumber_some h
  exact ⟨_, .prefixed p beon hpre, rfl⟩

theorem nameText_of_numeric {routeNo shown name out : Str} {n : Nat} (h : extractNumericRouteNumber name n = some out) :
    ∃ text, NameText routeNo shown text ∧ out = snprintf n text := by
  obtain ⟨p, hne, rfl⟩ := extractNumericRouteNumber_some h
  exact ⟨_, .numeric hne, rfl⟩

theorem nameText_of_routeDisplayName {n : Nat} {out : Str} (h : routeDisplayName route n = some out) :
    ∃ text, NameText route.routeNo
      (if strIsBlank route.routeName then route.routeNo.val else route.routeName.val) text ∧
      out = snprintf n text := by
  unfold routeDisplayName at h
  dsimp only at h
  generalize (if strIsBlank route.routeName then route.routeNo.val else route.routeName.val) = name at h ⊢
  by_cases hinactive : routeNameIsInactive name = true
  · rw [if_pos hinactive] at h
    cases h
  rw [if_neg hinactive] at h
  by_cases hbound : (strstr name (utf8 "방면")).isSome = true
  · rw [if_pos hbound] at h
    cases hnumber : routeNumberFromRouteId route.routeNo 32 with
    | some number =>
      rw [hnumber] at h
      cases h
      exact ⟨_, .numbered hnumber, rfl⟩
    | none =>
      rw [hnumber] at h
      cases h
      exact ⟨_, .identified, rfl⟩
  · rw [if_neg hbound] at h
    simp only [Option.or_eq_some_iff] at h
    rcases h with h | ⟨-, h | ⟨-, h | ⟨-, h | ⟨-, h⟩⟩⟩⟩
    · exact nameText_of_copyPrefixed (by decide) h
    · exact nameText_of_copyPrefixed (by decide) h
    · exact nameText_of_copyPrefixed (by decide) h
    · exact nameText_of_copyPrefixed (by decide) h
    · exact nameText_of_numeric h

theorem labelText_of_routeDisplayLabel {n : Nat} {label : Str} (h : routeDisplayLabel data route n = some label) :
    ∃ base, routeDisplayName route maxRouteLen = some base ∧
      ∃ text, LabelText data route base text ∧ label = snprintf n text := by
  unfold routeDisplayLabel at h
  cases hbase : routeDisplayName route maxRouteLen with
  | none =>
    rw [hbase] at h
    cases h
  | some base =>
    rw [hbase] at h
    dsimp only at h
    split at h
    · cases h
      exact ⟨base, rfl, _, .name, rfl⟩
    · split at h
      · cases h
        exact ⟨base, rfl, _, .bound, rfl⟩
      · cases h
        exact ⟨base, rfl, _, .name, rfl⟩

/-! ## Lengths -/

theorem length_routeDisplayLabel {n : Nat} {label : Str} (h : routeDisplayLabel data route n = some label) :
    label.length ≤ n - 1 := by
  obtain ⟨-, -, text, -, rfl⟩ := labelText_of_routeDisplayLabel h
  exact List.length_take_le ..

theorem two_le_snprintf {n : Nat} {text : Str} (hn : 3 ≤ n) (h : 2 ≤ text.length) : 2 ≤ (snprintf n text).length := by
  unfold snprintf
  rw [List.length_take]
  omega

theorem NameText.two_le {routeNo name text : Str} (h : NameText routeNo name text) : 2 ≤ text.length := by
  cases h with
  | numbered _ =>
    have hpart : (utf8 "번 - ").length = 6 := by decide
    simp only [List.length_append]
    omega
  | identified =>
    have hpart : (utf8 "노선ID ").length = 9 := by decide
    simp only [List.length_append]
    omega
  | prefixed p beon hpre =>
    have hpart : ∀ labelPrefix ∈ labelPrefixes, 2 ≤ labelPrefix.length := by decide
    have := hpart _ hpre
    simp only [List.length_append]
    omega
  | numeric _ =>
    have hpart : (utf8 "번").length = 3 := by decide
    simp only [List.length_append]
    omega

/-- A label has at least two bytes. -/
theorem two_le_routeDisplayLabel {n : Nat} {label : Str} (hn : 3 ≤ n)
    (h : routeDisplayLabel data route n = some label) : 2 ≤ label.length := by
  obtain ⟨base, hbase, text, htext, rfl⟩ := labelText_of_routeDisplayLabel h
  obtain ⟨name, hname, rfl⟩ := nameText_of_routeDisplayName hbase
  have htwo : 2 ≤ (snprintf maxRouteLen name).length := two_le_snprintf (by decide) hname.two_le
  refine two_le_snprintf hn ?_
  cases htext with
  | name => exact htwo
  | bound =>
    simp only [List.length_append]
    omega

end Transit
