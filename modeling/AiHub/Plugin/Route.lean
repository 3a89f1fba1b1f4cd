import AiHub.Library.GoString
import AiHub.Library.Segments
import AiHub.Library.Stages

/-!
# The routes of plugins

A plugin declares routes, whose paths have segments that are fixed, parameters, or a catch-all
at the end.  A route is refused if its path could match something in one of the namespaces that
are reserved for the site itself.
-/

namespace AiHub.Plugin

open AiHub.Library List

inductive RouteType where
  | submit
  | query
  | dynamic
  | other (name : String)
  deriving DecidableEq, Repr

structure Route where
  method : String
  path : String
  type : RouteType
  action : String
  decode : String
  render : String
  taskIDParam : String
  models : List String
  deriving DecidableEq, Repr

/-! ## Paths -/

def startsWith (text : String) (char : Char) : Bool := text.toList.head? = some char

/-- `strings.TrimPrefix`, for one character. -/
def trimFirst (text : String) (char : Char) : String :=
  if startsWith text char then String.ofList (text.toList.drop 1) else text

/-- `strings.Trim`, for one character. -/
def trimBoth (text : String) (char : Char) : String :=
  String.ofList ((text.toList.dropWhile (· = char)).rdropWhile (· = char))

/-- `strings.Split(text, "/")` -/
def segmentsOf (text : String) : List String := (split '/' text.toList).map String.ofList

/-- `^[A-Za-z_][A-Za-z0-9_]*$` -/
def pathNamePattern (name : String) : Bool :=
  match name.toList with
  | [] => false
  | first :: rest =>
    (first.isAlpha || first = '_') && rest.all fun char => char.isAlphanum || char = '_'

/-- `^[A-Za-z0-9._~-]+$` -/
def staticSegment (segment : String) : Bool :=
  segment ≠ "" && segment.toList.all fun char =>
    char.isAlphanum || char = '.' || char = '_' || char = '~' || char = '-'

/-- `^[A-Za-z_$][A-Za-z0-9_$]*$` -/
def memberNamePattern (name : String) : Bool :=
  match name.toList with
  | [] => false
  | first :: rest =>
    (first.isAlpha || first = '_' || first = '$') &&
      rest.all fun char => char.isAlphanum || char = '_' || char = '$'

/-- Whether two slashes follow each other. -/
def hasEmptySegment : List Char → Bool
  | first :: second :: rest => (first = '/' && second = '/') || hasEmptySegment (second :: rest)
  | _ => false

/-- The loop over the segments in `NormalizeRoutePath`. -/
def checkSegments (routePath : String) : List String → List String → Except String Unit
  | _, [] => .ok ()
  | seenNames, segment :: rest =>
    if segment = "" ∧ rest = [] then .ok ()
    else if segment = "." ∨ segment = ".." then
      .error ("plugin route path " ++ routePath.quote ++ " must not contain dot segments")
    else if startsWith segment ':' then
      let name := trimFirst segment ':'
      if !pathNamePattern name then
        .error ("plugin route path " ++ routePath.quote ++ " has invalid parameter " ++
          segment.quote)
      else if name ∈ seenNames then
        .error ("plugin route path " ++ routePath.quote ++ " repeats parameter " ++ name.quote)
      else checkSegments routePath (name :: seenNames) rest
    else if startsWith segment '*' then
      let name := trimFirst segment '*'
      if rest ≠ [] ∨ !pathNamePattern name then
        .error ("plugin route path " ++ routePath.quote ++ " has an invalid catch-all segment")
      else if name ∈ seenNames then
        .error ("plugin route path " ++ routePath.quote ++ " repeats parameter " ++ name.quote)
      else checkSegments routePath (name :: seenNames) rest
    else if !staticSegment segment then
      .error ("plugin route path " ++ routePath.quote ++ " has invalid segment " ++
        segment.quote)
    else checkSegments routePath seenNames rest

def normalizeRoutePath (routePath : String) : Except String String :=
  if !startsWith routePath '/' then .error "plugin route path must start with /"
  else if routePath = "/" then .error "plugin route path / is reserved"
  else if routePath.toList.any fun char => char = '?' || char = '#' || char = '%' then
    .error ("plugin route path " ++ routePath.quote ++
      " must not contain a query, fragment, or percent-encoding")
  else if hasEmptySegment routePath.toList then
    .error ("plugin route path " ++ routePath.quote ++ " must not contain empty segments")
  else (checkSegments routePath [] (segmentsOf (trimFirst routePath '/'))).map fun _ => routePath

def routePathShape (routePath : String) : Except String String :=
  (normalizeRoutePath routePath).map fun normalized =>
    "/" ++ "/".intercalate ((segmentsOf (trimFirst normalized '/')).map fun segment =>
      if startsWith segment ':' then ":" else if startsWith segment '*' then "*" else segment)

/-! ## Reserved namespaces -/

def reservedRouteNamespaces : List String :=
  ["/api", "/assets", "/setup", "/v1/tasks", "/console", "/login", "/forbidden", "/sign-in",
    "/sign-up", "/forgot-password", "/oauth", "/otp", "/register", "/reset", "/privacy-policy",
    "/user-agreement", "/about", "/pricing", "/rankings", "/user", "/401", "/403", "/404", "/500",
    "/503", "/chat2link", "/system-settings", "/channels", "/chat", "/dashboard", "/errors",
    "/keys", "/models", "/playground", "/profile", "/redemption-codes", "/subscriptions",
    "/system-info", "/task-plugins", "/usage-logs", "/users", "/wallet"]

/-- The loop in `routePatternIntersectsNamespace`, over the segments of the namespace and of the
route. -/
def segmentsIntersect : List String → List String → Bool
  | [], _ => true
  | _ :: _, [] => false
  | namespaceSegment :: namespaceRest, routeSegment :: routeRest =>
    if startsWith routeSegment '*' then true
    else if !startsWith routeSegment ':' && routeSegment ≠ namespaceSegment then false
    else segmentsIntersect namespaceRest routeRest

def routePatternIntersectsNamespace (routePath nameSpace : String) : Bool :=
  segmentsIntersect (segmentsOf (trimFirst nameSpace '/'))
    (segmentsOf (trimBoth (trimFirst routePath '/') '/'))

def intersectingReservedNamespace (routePath : String) : Option String :=
  reservedRouteNamespaces.find? (routePatternIntersectsNamespace routePath)

/-! ## Checking a route -/

/-- A text in upper case; outside ASCII this is a table of Unicode. -/
def toUpper (upperRune : Char → Char) (text : String) : String :=
  String.ofList (text.toList.map fun char =>
    if char.toNat < 128 then char.toUpper else upperRune char)

def normalizeRouteMethod (upperRune : Char → Char) (method : String) : Except String String :=
  let method := toUpper upperRune (trimSpace method)
  if method ∈ ["GET", "POST", "PUT", "PATCH", "DELETE"] then .ok method
  else .error ("plugin route method " ++ method.quote ++ " is not supported")

def asciiFold (text : String) : String :=
  String.ofList (text.toList.map fun char =>
    if 'A' ≤ char ∧ char ≤ 'Z' then Char.ofNat (char.toNat + 32) else char)

def validateModelScope (subject : String) : List String → List String → Except String Unit
  | _, [] => .ok ()
  | seen, model :: rest =>
    if trimSpace model = "" ∨ trimSpace model ≠ model then
      .error ("plugin " ++ subject ++ " models must contain non-empty canonical names")
    else if asciiFold model ∈ seen then
      .error ("plugin " ++ subject ++ " models must be unique case-insensitively")
    else validateModelScope subject (asciiFold model :: seen) rest

def pathHasParameter (routePath name : String) : Bool := (":" ++ name) ∈ segmentsOf routePath

/-- The parameter with the task's ID, which has a default. -/
def taskIDParamOf (route : Route) : String :=
  if route.taskIDParam = "" then "task_id" else route.taskIDParam

/-- The switch over the type of a route, which may fill in its parameter. -/
def checkType (route : Route) : Except String Route :=
  let subject := route.method ++ " " ++ route.path
  match route.type with
  | .submit =>
    if route.decode = "" ∨ route.render = "" ∨ route.taskIDParam ≠ "" then
      .error ("submit route " ++ subject ++
        " must declare decode and render and must not declare taskIdParam")
    else .ok route
  | .query =>
    if route.decode ≠ "" ∨ trimSpace route.render = "" then
      .error ("query route " ++ subject ++ " must declare render and must not declare decode")
    else if route.action ≠ "" then
      .error ("query route " ++ subject ++ " must not declare action")
    else if !pathNamePattern (taskIDParamOf route) then
      .error ("query route " ++ subject ++ " has invalid taskIdParam " ++
        (taskIDParamOf route).quote)
    else if !pathHasParameter route.path (taskIDParamOf route) then
      .error ("query route " ++ subject ++ " must contain :" ++ taskIDParamOf route)
    else .ok { route with taskIDParam := taskIDParamOf route }
  | .dynamic =>
    if route.decode = "" ∨ route.render = "" ∨ route.taskIDParam ≠ "" then
      .error ("dynamic route " ++ subject ++
        " must declare decode and render and must not declare taskIdParam")
    else .ok route
  | .other name => .error ("plugin route " ++ subject ++ " has unsupported type " ++ name.quote)

/-- The checks behind the switch. -/
def checkMembers (route : Route) : Except String Route :=
  let subject := route.method ++ " " ++ route.path
  if route.decode ≠ "" ∧ !memberNamePattern route.decode then
    .error ("plugin route " ++ subject ++ " has invalid decode " ++ route.decode.quote)
  else if route.render ≠ "" ∧ !memberNamePattern route.render then
    .error ("plugin route " ++ subject ++ " has invalid render " ++ route.render.quote)
  else if trimSpace route.action ≠ route.action then
    .error ("plugin route " ++ subject ++ " action must not have surrounding whitespace")
  else if route.models = [] then .ok route
  else if route.type = .query then
    .error ("query route " ++ subject ++ " must not declare models")
  else (validateModelScope ("route " ++ subject) [] route.models).map fun _ => route

/-- `validateRoute`: the route as it is kept, or why it is refused. -/
def validateRoute (upperRune : Char → Char) (route : Route) : Except String Route :=
  if route.method ≠ toUpper upperRune (trimSpace route.method) then
    .error ("plugin route method " ++ route.method.quote ++
      " must use canonical uppercase spelling")
  else do
    let method ← normalizeRouteMethod upperRune route.method
    let path ← normalizeRoutePath route.path
    match intersectingReservedNamespace path with
    | some nameSpace =>
      .error ("plugin route path " ++ path.quote ++ " intersects reserved namespace " ++
        nameSpace)
    | none =>
      let checked ← checkType { route with method := method, path := path }
      checkMembers checked

/-! ## What a route matches -/

/-- Whether the segments of a path are matched: a parameter matches one segment that is not
empty, a catch-all at the end matches the rest. -/
def segmentsMatch : List String → List String → Bool
  | [], url => url = []
  | segment :: rest, url =>
    if startsWith segment '*' then rest = []
    else
      match url with
      | [] => false
      | first :: others =>
        (if startsWith segment ':' then first ≠ "" else segment = first) &&
          segmentsMatch rest others

/-- Whether a route matches the path of a URL. -/
def routeMatches (routePath url : String) : Bool :=
  segmentsMatch (segmentsOf (trimFirst routePath '/')) (segmentsOf (trimFirst url '/'))

/-- The path of a URL lies in a namespace. -/
def InNamespace (nameSpace url : String) : Prop := Within '/' nameSpace.toList url.toList

/-- A route that matches a path with the segments of a namespace in front intersects the
namespace, also if empty segments at its end are not looked at. -/
theorem segmentsIntersect_of_match {nameSpace route url : List String} {count : Nat}
    (nonempty : "" ∉ nameSpace) (within : nameSpace <+: url)
    (isMatch : segmentsMatch (route ++ List.replicate count "") url = true) :
    segmentsIntersect nameSpace route = true := by
  induction nameSpace generalizing route url with
  | nil => rfl
  | cons segment others ih =>
    obtain ⟨rest, rfl⟩ := within
    rw [cons_append] at isMatch
    have segmentNonempty : segment ≠ "" := fun empty => nonempty (empty ▸ mem_cons_self)
    cases route with
    | nil =>
      -- What is left of the route is an empty segment, which matches no segment here.
      cases count with
      | zero => cases isMatch
      | succ count =>
        have both : (decide ("" = segment) &&
            segmentsMatch (List.replicate count "") (others ++ rest)) = true := isMatch
        rw [Bool.and_eq_true, decide_eq_true_eq] at both
        exact absurd both.1.symm segmentNonempty
    | cons routeSegment routeRest =>
      rw [cons_append, segmentsMatch] at isMatch
      rw [segmentsIntersect]
      cases isCatchAll : startsWith routeSegment '*' with
      | true => rfl
      | false =>
        rw [isCatchAll, if_neg Bool.false_ne_true] at isMatch
        rw [Bool.and_eq_true] at isMatch
        obtain ⟨isSegment, isRest⟩ := isMatch
        have deeper := ih (fun empty => nonempty (mem_cons_of_mem _ empty))
          (prefix_append others rest) isRest
        cases isParameter : startsWith routeSegment ':' with
        | true => exact deeper
        | false =>
          rw [isParameter, if_neg Bool.false_ne_true, decide_eq_true_eq] at isSegment
          rw [isSegment]
          simpa using deeper

variable {nameSpace url routePath : String} {route checked : Route}

theorem segmentsOf_of_within (starts : startsWith nameSpace '/' = true)
    (within : InNamespace nameSpace url) :
    segmentsOf (trimFirst nameSpace '/') <+: segmentsOf (trimFirst url '/') := by
  have startsURL : startsWith url '/' = true := by
    rw [startsWith, decide_eq_true_eq] at starts ⊢
    rcases within with same | ⟨rest, goesOn⟩
    · rw [same, starts]
    · rw [goesOn, head?_append, starts]
      rfl
  have first : nameSpace.toList ≠ [] := by
    rintro empty
    rw [startsWith, empty] at starts
    exact absurd starts (by decide)
  have tails : Within '/' (nameSpace.toList.drop 1) (url.toList.drop 1) := by
    rcases within with same | ⟨rest, goesOn⟩
    · exact .inl (by rw [same])
    · refine .inr ⟨rest, ?_⟩
      rw [goesOn, drop_append_of_le_length (length_pos_iff.mpr first)]
  rw [trimFirst, trimFirst, if_pos starts, if_pos startsURL, segmentsOf, segmentsOf,
    String.toList_ofList, String.toList_ofList]
  exact (split_of_within tails).map String.ofList

/-- The segments that are compared with a namespace are those of the route, up to empty ones at
the end. -/
theorem segmentsOf_trimBoth (starts : startsWith routePath '/' = true)
    (noEmpty : hasEmptySegment routePath.toList = false) :
    ∃ count, segmentsOf (trimFirst routePath '/') =
      segmentsOf (trimBoth (trimFirst routePath '/') '/') ++ List.replicate count "" := by
  obtain ⟨count, splits⟩ := split_eq_split_rdropWhile '/' (routePath.toList.drop 1)
  refine ⟨count, ?_⟩
  have unled : (routePath.toList.drop 1).dropWhile (· = '/') = routePath.toList.drop 1 := by
    cases chars : routePath.toList with
    | nil => rfl
    | cons first rest =>
      rw [startsWith, chars, decide_eq_true_eq] at starts
      cases rest with
      | nil => rfl
      | cons second others =>
        rw [chars, hasEmptySegment, Bool.or_eq_false_iff] at noEmpty
        have notSlash : second ≠ '/' := by
          intro isSlash
          rw [Option.some.inj starts, isSlash] at noEmpty
          exact absurd noEmpty.1 (by decide)
        exact dropWhile_cons_of_neg (by simpa using notSlash)
  rw [trimFirst, if_pos starts, trimBoth, segmentsOf, segmentsOf, String.toList_ofList,
    String.toList_ofList, unled, splits, map_append, map_replicate]

theorem of_normalizeRoutePath {normalized : String}
    (isNormalized : normalizeRoutePath routePath = .ok normalized) :
    normalized = routePath ∧ startsWith routePath '/' = true ∧
      hasEmptySegment routePath.toList = false := by
  rw [normalizeRoutePath] at isNormalized
  split at isNormalized
  · cases isNormalized
  next starts =>
    split at isNormalized
    · cases isNormalized
    split at isNormalized
    · cases isNormalized
    split at isNormalized
    · cases isNormalized
    next noEmpty =>
      refine ⟨?_, by simpa using starts, by simpa using noEmpty⟩
      obtain ⟨_, -, same⟩ := exists_ok_of_map isNormalized
      exact same.symm

theorem path_of_checkType (isChecked : checkType route = .ok checked) :
    checked.path = route.path := by
  rw [checkType] at isChecked
  split at isChecked
  · split at isChecked
    · cases isChecked
    · cases isChecked
      rfl
  · split at isChecked
    · cases isChecked
    split at isChecked
    · cases isChecked
    split at isChecked
    · cases isChecked
    split at isChecked
    · cases isChecked
    · cases isChecked
      rfl
  · split at isChecked
    · cases isChecked
    · cases isChecked
      rfl
  · cases isChecked

theorem path_of_checkMembers (isChecked : checkMembers route = .ok checked) :
    checked.path = route.path := by
  rw [checkMembers] at isChecked
  split at isChecked
  · cases isChecked
  split at isChecked
  · cases isChecked
  split at isChecked
  · cases isChecked
  split at isChecked
  · cases isChecked
    rfl
  · split at isChecked
    · cases isChecked
    · obtain ⟨_, -, rfl⟩ := exists_ok_of_map isChecked
      rfl

/-- What is known of the path of a route that is accepted. -/
theorem of_validateRoute {upperRune : Char → Char} {accepted : Route}
    (valid : validateRoute upperRune route = .ok accepted) :
    accepted.path = route.path ∧ normalizeRoutePath route.path = .ok route.path ∧
      intersectingReservedNamespace route.path = none := by
  rw [validateRoute] at valid
  split at valid
  · cases valid
  obtain ⟨method, -, valid⟩ := exists_ok_of_bind valid
  obtain ⟨path, isPath, valid⟩ := exists_ok_of_bind valid
  obtain ⟨rfl, -, -⟩ := of_normalizeRoutePath isPath
  cases intersecting : intersectingReservedNamespace route.path with
  | some nameSpace =>
    simp only [intersecting] at valid
    cases valid
  | none =>
    simp only [intersecting] at valid
    obtain ⟨checked, isChecked, valid⟩ := exists_ok_of_bind valid
    refine ⟨?_, isPath, rfl⟩
    rw [path_of_checkMembers valid, path_of_checkType isChecked]

/-- A route that is accepted matches nothing in a reserved namespace. -/
theorem reserved_not_matched {upperRune : Char → Char} {route accepted : Route}
    {nameSpace url : String} (valid : validateRoute upperRune route = .ok accepted)
    (reserved : nameSpace ∈ reservedRouteNamespaces) (within : InNamespace nameSpace url) :
    routeMatches accepted.path url = false := by
  obtain ⟨samePath, isNormalized, unreserved⟩ := of_validateRoute valid
  obtain ⟨-, starts, noEmpty⟩ := of_normalizeRoutePath isNormalized
  have wellFormed : ∀ nameSpace ∈ reservedRouteNamespaces,
      startsWith nameSpace '/' = true ∧ "" ∉ segmentsOf (trimFirst nameSpace '/') := by
    decide +kernel
  obtain ⟨nameSpaceStarts, nonempty⟩ := wellFormed nameSpace reserved
  rw [samePath, Bool.eq_false_iff]
  intro isMatch
  obtain ⟨count, segments⟩ := segmentsOf_trimBoth starts noEmpty
  rw [routeMatches, segments] at isMatch
  have intersects : routePatternIntersectsNamespace route.path nameSpace = true :=
    segmentsIntersect_of_match nonempty (segmentsOf_of_within nameSpaceStarts within) isMatch
  exact find?_eq_none.mp unreserved nameSpace reserved intersects

/-- A route with a parameter and a catch-all. -/
def filesRoute : Route := ⟨"GET", "/x/:a/*b", .dynamic, "", "d", "r", "", []⟩

theorem files_route_misses_tasks :
    routeMatches filesRoute.path "/v1/tasks/1/2" = false ∧
      routeMatches filesRoute.path "/x/1/2" = true := by
  refine ⟨@reserved_not_matched id filesRoute filesRoute "/v1/tasks" "/v1/tasks/1/2" ?_ ?_ ?_, ?_⟩
  · rfl
  · decide
  · exact .inr ⟨"1/2".toList, rfl⟩
  · rfl

end AiHub.Plugin
