import Transit.Proof.RecordViews

/-!
# Routes that are displayed and routes that are found

A stop search displays a route by its label, a bus search finds it by
`route_match_rank`. Both leave out inactive routes, but a route without a name
is displayed by its number, and never found.

* `routeMatchRank_routeNo_iff`: the number of a displayed route finds it exactly
  when neither its name nor its number is blank.
-/

namespace Transit

variable {D : Type} {data : AppData D} {route : RouteNode}

/-- The name `route_display_name` goes by: the number stands for a name that is blank. -/
def shownName (route : RouteNode) : Str :=
  if strIsBlank route.routeName then route.routeNo else route.routeName

theorem routeNameIsInactive_of_blank {name : Str} (h : strIsBlank name = true) :
    routeNameIsInactive name = true := by
  simp [routeNameIsInactive, h]

/-- Only routes with an active name are displayed. -/
theorem shownName_active {n : Nat} (h : (routeDisplayName route n).isSome) :
    routeNameIsInactive (shownName route) = false := by
  cases hi : routeNameIsInactive (shownName route) with
  | false => rfl
  | true =>
    have hnone : routeDisplayName route n = none := by
      rw [routeDisplayName]
      exact if_pos hi
    rw [hnone] at h
    cases h

theorem routeDisplayName_of_label {n : Nat} (h : (routeDisplayLabel data route n).isSome) :
    (routeDisplayName route maxRouteLen).isSome := by
  cases hname : routeDisplayName route maxRouteLen with
  | some base => rfl
  | none =>
    rw [routeDisplayLabel, hname] at h
    cases h

/-- A route is found by its exact number unless the number is blank or the name inactive. -/
theorem routeMatchRank_routeNo (route : RouteNode) :
    routeMatchRank route route.routeNo =
      if strIsBlank route.routeNo || routeNameIsInactive route.routeName then 0 else 1 := by
  simp [routeMatchRank]

/-- The number of a displayed route finds it exactly when neither its name nor its number is blank. -/
theorem routeMatchRank_routeNo_iff (h : (routeDisplayLabel data route maxRouteLen).isSome) :
    routeMatchRank route route.routeNo = 1 ↔
      strIsBlank route.routeName = false ∧ strIsBlank route.routeNo = false := by
  have hactive := shownName_active (routeDisplayName_of_label h)
  rw [routeMatchRank_routeNo]
  cases hname : strIsBlank route.routeName with
  | true => simp [routeNameIsInactive_of_blank hname]
  | false =>
    rw [shownName, hname] at hactive
    have hactive : routeNameIsInactive route.routeName = false := hactive
    cases hno : strIsBlank route.routeNo <;> simp [hactive]

/-- A route with a name is found. -/
theorem routeMatchRank_routeNo_named :
    routeMatchRank ⟨.copy _ (utf8 "7"), .copy _ (utf8 "311"), .copy _ [], .copy _ [], 0, []⟩ (utf8 "7") = 1 :=
  (@routeMatchRank_routeNo_iff ℚ appDataInit
    ⟨.copy _ (utf8 "7"), .copy _ (utf8 "311"), .copy _ [], .copy _ [], 0, []⟩ (by decide)).mpr (by decide)

/-- The table of routes need not have a column `route_name`: the route is displayed and not found. -/
theorem routeMatchRank_routeNo_nameless :
    (dataLoaderLoad kioskFiles : AppData ℚ × Bool).2 = true ∧
    (loadedData kioskFiles : AppData ℚ).routes.map (fun route =>
        (routeDisplayLabel (loadedData kioskFiles : AppData ℚ) route maxRouteLen,
          routeMatchRank route route.routeNo)) =
      [(some (utf8 "1번"), 0)] := by
  decide +kernel

end Transit
