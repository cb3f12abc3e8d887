import ClusterGate.Proofs.Request.Faults
import ClusterGate.Proofs.Request.Located

/-!
# The order of the checks

An input can be at fault in several ways at once. The checks that classifying
makes are listed here in the order in which their faults count
(`InputCheck.all`), and for each of them it is said when an input violates it
and what the rejection is then (`CallerInput.Violates`). An input is rejected
just with the rejection of the first check that it violates, and accepted if
there is none (`reportsFirst_classify`).
-/

namespace ClusterGate

/-- What an input is checked for. -/
inductive InputCheck where
  | requiredFields
  | connectionTimeout
  | socketTimeout
  | resolution
  | queryKeys
  | componentResolution
  | agreement
  | endpoint
  | pathText
  | apiMatch
  | bannedCharacters
  | missingParams
  | unsupportedParams
  deriving DecidableEq, Repr

/-- All checks, in the order in which they count. -/
def InputCheck.all : List InputCheck :=
  [requiredFields, connectionTimeout, socketTimeout, resolution, queryKeys,
    componentResolution, agreement, endpoint, pathText, apiMatch,
    bannedCharacters, missingParams, unsupportedParams]

/-- The parameters for a route: the given ones, or else those in the path,
without the slashes around them. -/
def Route.paramsOf (route : Route) (path given : String) : String :=
  String.ofList
    (trimSlashes (if given.isEmpty then route.remainder path else given.toList))

namespace CallerInput

/-- The input gives none of the fields of which one is needed. -/
def LacksTarget (input : CallerInput) : Prop :=
  input.url = "" ∧ input.path = "" ∧ input.scheme = ""

/-- Both timeouts are in range. -/
def InTime (connection socket : Int32) : Prop :=
  (1 ≤ connection ∧ connection ≤ 5) ∧ 1 ≤ socket ∧ socket ≤ 60

/-- The input leads to a path, with its escapes undone. -/
def LeadsTo (input : CallerInput) (path : String) : Prop :=
  ∃ uri, input.Reaches uri ∧
    Utf8.decode (Percent.decode uri.path.toList) = .ok path.toList

/-- The input leads to a path of an API, with these parameters. -/
def Calls (input : CallerInput) (catalog : Catalog) (api : Api) (route : Route)
    (params : String) : Prop :=
  ∃ path, input.LeadsTo path ∧ catalog.FirstMatch path api route ∧
    route.paramsOf path input.pathParams = params

/-- The rejections of the checks that an input violates. -/
inductive Violates (input : CallerInput) (catalog : Catalog) :
    InputCheck → Rejection → Prop
  | requiredFields (h : input.LacksTarget) :
      Violates input catalog .requiredFields .missingFields
  | connectionTimeout
      (h : ¬ (1 ≤ input.connectionTimeout ∧ input.connectionTimeout ≤ 5)) :
      Violates input catalog .connectionTimeout
        (.timeoutOutOfRange .connection input.connectionTimeout)
  | socketTimeout (h : ¬ (1 ≤ input.socketTimeout ∧ input.socketTimeout ≤ 60)) :
      Violates input catalog .socketTimeout
        (.timeoutOutOfRange .socket input.socketTimeout)
  | resolution {e : Rejection} (h : input.TargetFault e) :
      Violates input catalog .resolution e
  | queryKeys {uri : Uri} {key : String} (huri : input.Reaches uri)
      (h : RepeatedKey uri.queryPairs key) :
      Violates input catalog .queryKeys
        (.invalidUrl input.targetField uri.render (.repeatedParameter key))
  | componentResolution {e : Rejection} (hurl : input.url ≠ "")
      (hpath : input.path ≠ "") (h : input.ComponentsFault e) :
      Violates input catalog .componentResolution e
  | agreement {uri components : Uri} (hurl : input.url ≠ "")
      (hpath : input.path ≠ "") (huri : input.Reaches uri)
      (hcomponents : input.Describes components) (h : ¬ components.Alike uri) :
      Violates input catalog .agreement
        (.conflictingTarget input.url components.render)
  | endpoint {uri : Uri} (huri : input.Reaches uri)
      (h : ¬ (isSupportedHost uri.hostText = true ∧
        uri.effectivePort? = some 9200)) :
      Violates input catalog .endpoint
        (.unsupportedHostOrPort uri.hostText (uri.effectivePort?.getD 0))
  | pathText {uri : Uri} {cause : Utf8.DecodeError} (huri : input.Reaches uri)
      (h : Utf8.decode (Percent.decode uri.path.toList) = .error cause) :
      Violates input catalog .pathText
        (.invalidUrl input.targetField uri.render (.undecodablePath cause))
  | apiMatch {path : String} (hpath : input.LeadsTo path)
      (h : ∀ e ∈ catalog.entries, ¬ e.2.lead.toList <+: path.toList) :
      Violates input catalog .apiMatch (.unsupportedApi path)
  | bannedCharacters {api : Api} {route : Route} {params : String}
      (hcall : input.Calls catalog api route params)
      (h : ∃ c ∈ params.toList, c ∈ bannedCharacters) :
      Violates input catalog .bannedCharacters (.bannedParams params)
  | missingParams {api : Api} {route : Route} {params : String}
      (hcall : input.Calls catalog api route params)
      (hrule : route.params = .required) (h : params = "") :
      Violates input catalog .missingParams (.missingParams api.name)
  | unsupportedParams {api : Api} {route : Route} {params : String}
      (hcall : input.Calls catalog api route params)
      (hrule : route.params = .unsupported) (h : params ≠ "") :
      Violates input catalog .unsupportedParams
        (.unsupportedParams api.name params)

end CallerInput

section

variable {catalog : Catalog} {input : CallerInput} {uri : Uri}
  {path params : String} {api : Api} {route : Route} {e : Rejection}

/-! ## What an input leads to -/

theorem CallerInput.namesTarget_eq_false_iff :
    input.namesTarget = false ↔ input.LacksTarget := by
  simp [namesTarget, LacksTarget, and_assoc]

theorem CallerInput.LeadsTo.unique {other : String} (h : input.LeadsTo path)
    (hother : input.LeadsTo other) : path = other := by
  obtain ⟨uri, huri, hpath⟩ := h
  obtain ⟨uri', huri', hother⟩ := hother
  obtain rfl := huri.unique huri'
  exact String.toList_inj.mp (Except.ok.inj (hpath.symm.trans hother))

theorem CallerInput.Calls.unique {api' : Api} {route' : Route}
    {params' : String} (h : input.Calls catalog api route params)
    (hother : input.Calls catalog api' route' params') :
    api = api' ∧ route = route' ∧ params = params' := by
  obtain ⟨path, hpath, hmatch, rfl⟩ := h
  obtain ⟨path', hpath', hmatch', rfl⟩ := hother
  obtain rfl := hpath.unique hpath'
  obtain ⟨rfl, rfl⟩ := hmatch.unique hmatch'
  exact ⟨rfl, rfl, rfl⟩

/-! ## Check by check -/

namespace CallerInput

theorem violates_requiredFields_iff :
    input.Violates catalog .requiredFields e ↔
      input.namesTarget = false ∧ .missingFields = e := by
  rw [namesTarget_eq_false_iff]
  constructor
  · intro h
    cases h with
    | requiredFields h => exact ⟨h, rfl⟩
  · rintro ⟨h, rfl⟩
    exact .requiredFields h

theorem violates_connectionTimeout_iff :
    checkTimeout .connection input.connectionTimeout = .error e ↔
      input.Violates catalog .connectionTimeout e := by
  rw [checkTimeout_eq_error_iff]
  constructor
  · rintro ⟨h, rfl⟩
    exact .connectionTimeout h
  · intro h
    cases h with
    | connectionTimeout h => exact ⟨h, rfl⟩

theorem violates_socketTimeout_iff :
    checkTimeout .socket input.socketTimeout = .error e ↔
      input.Violates catalog .socketTimeout e := by
  rw [checkTimeout_eq_error_iff]
  constructor
  · rintro ⟨h, rfl⟩
    exact .socketTimeout h
  · intro h
    cases h with
    | socketTimeout h => exact ⟨h, rfl⟩

theorem violates_resolution_iff :
    input.targetUri = .error e ↔ input.Violates catalog .resolution e := by
  rw [targetUri_eq_error_iff]
  refine ⟨.resolution, fun h => ?_⟩
  cases h with
  | resolution h => exact h

theorem violates_queryKeys_iff (huri : input.Reaches uri) :
    uri.queryMap input.targetField = .error e ↔
      input.Violates catalog .queryKeys e := by
  rw [Uri.queryMap_eq_error_iff]
  constructor
  · rintro ⟨key, h, rfl⟩
    exact .queryKeys huri h
  · intro h
    cases h with
    | queryKeys huri' h =>
        obtain rfl := huri.unique huri'
        exact ⟨_, h, rfl⟩

theorem violates_componentResolution_iff (hurl : input.url ≠ "")
    (hpath : input.path ≠ "") :
    input.componentUri = .error e ↔
      input.Violates catalog .componentResolution e := by
  rw [componentUri_eq_error_iff]
  refine ⟨.componentResolution hurl hpath, fun h => ?_⟩
  cases h with
  | componentResolution _ _ h => exact h

theorem violates_agreement_iff {components : Uri} (hurl : input.url ≠ "")
    (hpath : input.path ≠ "") (huri : input.Reaches uri)
    (hcomponents : input.Describes components) :
    input.Violates catalog .agreement e ↔
      ¬ components.Alike uri ∧
        .conflictingTarget input.url components.render = e := by
  constructor
  · intro h
    cases h with
    | agreement _ _ huri' hcomponents' h =>
        obtain rfl := huri.unique huri'
        obtain rfl := hcomponents.unique hcomponents'
        exact ⟨h, rfl⟩
  · rintro ⟨h, rfl⟩
    exact .agreement hurl hpath huri hcomponents h

theorem violates_endpoint_iff (huri : input.Reaches uri) :
    uri.checkEndpoint = .error e ↔ input.Violates catalog .endpoint e := by
  rw [Uri.checkEndpoint_eq_error_iff]
  constructor
  · rintro ⟨h, rfl⟩
    exact .endpoint huri h
  · intro h
    cases h with
    | endpoint huri' h =>
        obtain rfl := huri.unique huri'
        exact ⟨h, rfl⟩

theorem violates_pathText_iff (huri : input.Reaches uri) :
    uri.decodedPath input.targetField = .error e ↔
      input.Violates catalog .pathText e := by
  rw [Uri.decodedPath_eq_error_iff]
  constructor
  · rintro ⟨cause, h, rfl⟩
    exact .pathText huri h
  · intro h
    cases h with
    | pathText huri' h =>
        obtain rfl := huri.unique huri'
        exact ⟨_, h, rfl⟩

theorem violates_bannedCharacters_iff
    (hcall : input.Calls catalog api route params) :
    input.Violates catalog .bannedCharacters e ↔
      (∃ c ∈ params.toList, c ∈ bannedCharacters) ∧
        .bannedParams params = e := by
  constructor
  · intro h
    cases h with
    | bannedCharacters hcall' h =>
        obtain ⟨-, -, rfl⟩ := hcall.unique hcall'
        exact ⟨h, rfl⟩
  · rintro ⟨h, rfl⟩
    exact .bannedCharacters hcall h

theorem violates_missingParams_iff
    (hcall : input.Calls catalog api route params) :
    input.Violates catalog .missingParams e ↔
      (route.params = .required ∧ params = "") ∧
        .missingParams api.name = e := by
  constructor
  · intro h
    cases h with
    | missingParams hcall' hrule h =>
        obtain ⟨rfl, rfl, rfl⟩ := hcall.unique hcall'
        exact ⟨⟨hrule, h⟩, rfl⟩
  · rintro ⟨⟨hrule, h⟩, rfl⟩
    exact .missingParams hcall hrule h

theorem violates_unsupportedParams_iff
    (hcall : input.Calls catalog api route params) :
    input.Violates catalog .unsupportedParams e ↔
      (route.params = .unsupported ∧ params ≠ "") ∧
        .unsupportedParams api.name params = e := by
  constructor
  · intro h
    cases h with
    | unsupportedParams hcall' hrule h =>
        obtain ⟨rfl, rfl, rfl⟩ := hcall.unique hcall'
        exact ⟨⟨hrule, h⟩, rfl⟩
  · rintro ⟨⟨hrule, h⟩, rfl⟩
    exact .unsupportedParams hcall hrule h

end CallerInput

/-! ## One part after the other -/

open CallerInput

/-- The checks of the parameters, once the API is known. -/
theorem reports_extractParams (hroute : api.route = some route)
    (hpath : input.LeadsTo path) (hmatch : catalog.FirstMatch path api route) :
    Reports (input.Violates catalog)
      [.bannedCharacters, .missingParams, .unsupportedParams]
      (api.extractParams path input.pathParams) := by
  have hcall :
      input.Calls catalog api route (route.paramsOf path input.pathParams) :=
    ⟨path, hpath, hmatch, rfl⟩
  have hextract : api.extractParams path input.pathParams =
      route.admitParams api.name (route.paramsOf path input.pathParams) := by
    rw [Api.extractParams, hroute]
    rfl
  rw [hextract, Route.admitParams]
  refine .ite_cons (fun e => ?_) fun _ => .ite_cons (fun e => ?_) fun _ =>
    .ite_cons (fun e => ?_) fun _ => .ok _
  · rw [violates_bannedCharacters_iff hcall]
    simp
  · rw [violates_missingParams_iff hcall, Bool.and_eq_true,
      ParamRule.demands_iff, String.isEmpty_iff]
  · rw [violates_unsupportedParams_iff hcall, Bool.and_eq_true,
      Bool.not_eq_true', Bool.not_eq_true', ← Bool.not_eq_true,
      ← Bool.not_eq_true, ParamRule.allows_iff, not_not, String.isEmpty_iff]

/-- The checks that follow on the path. -/
theorem reports_settle {table : ApiTable} (hcat : catalog.Over table)
    {found : Located} (hpath : input.LeadsTo found.path) :
    Reports (input.Violates catalog)
      [.apiMatch, .bannedCharacters, .missingParams, .unsupportedParams]
      (catalog.settle input found) := by
  unfold Catalog.settle
  split
  · next hnone =>
      refine .error_cons fun e => ⟨fun h => ?_, ?_⟩
      · cases h with
        | apiMatch hpath' _ => rw [hpath.unique hpath']
      · rintro rfl
        exact .apiMatch hpath (Catalog.findEntry?_eq_none_iff.mp hnone)
  · next api route hsome =>
      have hmatch := Catalog.findEntry?_eq_some_iff.mp hsome
      obtain ⟨-, hroute⟩ :=
        ApiTable.mem_routable_iff.mp (hcat.mem_routable _ hmatch.mem)
      refine .skip_cons (fun e h => ?_)
        (reports_extractParams hroute hpath hmatch).map
      cases h with
      | apiMatch hpath' hnone =>
          rw [hpath.unique hpath', Catalog.findEntry?_eq_none_iff.mpr hnone]
            at hsome
          cases hsome

theorem reports_checkAgreement (huri : input.Reaches uri) :
    Reports (input.Violates catalog) [.componentResolution, .agreement]
      (input.checkAgreement uri) := by
  unfold checkAgreement
  split
  · next hempty =>
      have hnot : ¬ (input.url ≠ "" ∧ input.path ≠ "") := by
        rintro ⟨hurl, hpath⟩
        simp [hurl, hpath] at hempty
      refine .skip_cons (fun e h => ?_) (.skip_cons (fun e h => ?_) (.ok ()))
      · cases h with
        | componentResolution hurl hpath _ => exact hnot ⟨hurl, hpath⟩
      · cases h with
        | agreement hurl hpath _ _ _ => exact hnot ⟨hurl, hpath⟩
  · next hgiven =>
      obtain ⟨hurl, hpath⟩ : input.url ≠ "" ∧ input.path ≠ "" := by
        simpa using hgiven
      refine .bind_cons (fun _ => violates_componentResolution_iff hurl hpath)
        fun components hcomponents => .singleton fun e => ?_
      rw [violates_agreement_iff hurl hpath huri
          (componentUri_eq_ok_iff.mp hcomponents),
        ← Uri.sameTarget_iff]
      split
      · next hsame => exact iff_of_false nofun fun h => h.1 hsame
      · next hother =>
          rw [and_iff_right hother]
          exact ⟨fun h => Except.error.inj h, fun h => congrArg Except.error h⟩

theorem reports_locate (input : CallerInput) (catalog : Catalog) :
    Reports (input.Violates catalog)
      [.requiredFields, .connectionTimeout, .socketTimeout,
        .resolution, .queryKeys, .componentResolution, .agreement, .endpoint,
        .pathText] input.locate := by
  unfold locate
  cases htarget : input.namesTarget with
  | false =>
      refine .error_cons fun e => ?_
      rw [violates_requiredFields_iff, and_iff_right htarget]
  | true =>
      simp only [Bool.not_true, Bool.false_eq_true, if_false]
      refine .skip_cons (fun e h => ?_) ?_
      · rw [violates_requiredFields_iff, htarget] at h
        cases h.1
      refine .bind_cons (fun _ => violates_connectionTimeout_iff) fun _ _ =>
        .bind_cons (fun _ => violates_socketTimeout_iff) fun _ _ =>
        .bind_cons (fun _ => violates_resolution_iff) fun uri huri => ?_
      have hreaches := targetUri_eq_ok_iff.mp huri
      exact .bind_cons (fun _ => violates_queryKeys_iff hreaches) fun _ _ =>
        (reports_checkAgreement hreaches).bind fun _ _ =>
        .bind_cons (fun _ => violates_endpoint_iff hreaches) fun _ _ =>
        .bind_cons (fun _ => violates_pathText_iff hreaches) fun _ _ => .ok _

/-- **First faults.** An input is rejected with the rejection of the first check
that it violates. -/
theorem reports_classify {table : ApiTable} (hcat : catalog.Over table)
    (input : CallerInput) :
    Reports (input.Violates catalog) InputCheck.all
      (catalog.classify input) := by
  rw [classify_eq_locate_bind]
  refine (reports_locate input catalog).bind fun found hfound =>
    reports_settle hcat ?_
  obtain ⟨huri, hpath⟩ := locate_eq_ok hfound
  exact ⟨found.uri, targetUri_eq_ok_iff.mp huri, hpath⟩

end

/-! ## What does not matter -/

namespace CallerInput

variable {input : CallerInput} {apiType : String} {connection socket : Int32}

/-- With timeouts in range nothing else is read from them. -/
theorem locate_of_inTime (input : CallerInput)
    (h : InTime input.connectionTimeout input.socketTimeout) :
    input.locate = do
      if !input.namesTarget then throw .missingFields
      let uri ← input.targetUri
      let query ← uri.queryMap input.targetField
      input.checkAgreement uri
      uri.checkEndpoint
      let path ← uri.decodedPath input.targetField
      return ⟨uri, query, path⟩ := by
  have hconnection :
      TimeoutKind.connection.allows input.connectionTimeout = true :=
    TimeoutKind.allows_iff.mpr h.1
  have hsocket : TimeoutKind.socket.allows input.socketTimeout = true :=
    TimeoutKind.allows_iff.mpr h.2
  rw [locate, checkTimeout_eq_ok.mpr hconnection,
    checkTimeout_eq_ok.mpr hsocket]
  rfl

theorem componentUri_with :
    { input with
      apiType, connectionTimeout := connection
      socketTimeout := socket }.componentUri =
        input.componentUri := by
  rw [componentUri_eq, componentUri_eq]
  rfl

/-- What is located does not depend on the name of the API, nor on timeouts that
are in range. -/
theorem locate_with (h : InTime input.connectionTimeout input.socketTimeout)
    (hother : InTime connection socket) :
    { input with
      apiType, connectionTimeout := connection
      socketTimeout := socket }.locate =
        input.locate := by
  rw [locate_of_inTime input h,
    locate_of_inTime
      { input with
        apiType, connectionTimeout := connection
        socketTimeout := socket } hother,
    targetUri, targetUri, componentUri_with]
  simp only [checkAgreement, componentUri_with]
  rfl

end CallerInput

theorem Catalog.settle_with (catalog : Catalog) (input : CallerInput)
    (found : Located) (apiType : String) (connection socket : Int32) :
    catalog.settle
        { input with
          apiType, connectionTimeout := connection
          socketTimeout := socket } found =
      (catalog.settle input found).map fun r =>
        { r with
          connectionTimeout := connection
          socketTimeout := socket } := by
  unfold settle
  cases catalog.findEntry? found.path with
  | none => rfl
  | some e =>
      obtain ⟨api, route⟩ := e
      dsimp only
      cases api.extractParams found.path input.pathParams <;> rfl

theorem classify_with (catalog : Catalog) {input : CallerInput}
    {apiType : String} {connection socket : Int32}
    (h : CallerInput.InTime input.connectionTimeout input.socketTimeout)
    (hother : CallerInput.InTime connection socket) :
    catalog.classify
        { input with
          apiType, connectionTimeout := connection
          socketTimeout := socket } =
      (catalog.classify input).map fun r =>
        { r with
          connectionTimeout := connection
          socketTimeout := socket } := by
  rw [classify_eq_locate_bind, classify_eq_locate_bind,
    CallerInput.locate_with h hother]
  cases input.locate with
  | error => rfl
  | ok found => exact catalog.settle_with input found apiType connection socket

/-! ## All checks -/

theorem InputCheck.mem_all (check : InputCheck) : check ∈ all := by
  cases check <;> decide

section

variable {table : ApiTable} {catalog : Catalog} {input : CallerInput}
  {check : InputCheck} {e : Rejection}

namespace CallerInput.Violates

theorem lacksTarget_of_check (h : input.Violates catalog .requiredFields e) :
    input.LacksTarget := by
  cases h with
  | requiredFields h => exact h

theorem lacksTarget (h : input.Violates catalog check .missingFields) :
    input.LacksTarget := by
  cases h with
  | requiredFields h => exact h
  | resolution h => exact absurd h.exists_eq nofun
  | componentResolution _ _ h => exact absurd h.exists_eq nofun

theorem not_inTime {kind : TimeoutKind} {seconds : Int32}
    (h : input.Violates catalog check (.timeoutOutOfRange kind seconds)) :
    ¬ InTime input.connectionTimeout input.socketTimeout := by
  cases h with
  | connectionTimeout h => exact fun htime => h htime.1
  | socketTimeout h => exact fun htime => h htime.2
  | resolution h => exact absurd h.exists_eq nofun
  | componentResolution _ _ h => exact absurd h.exists_eq nofun

end CallerInput.Violates

theorem classify_missingFields_iff (hcat : catalog.Over table) :
    catalog.classify input = .error .missingFields ↔ input.LacksTarget := by
  have hreports := reports_classify hcat input
  constructor
  · intro h
    obtain ⟨_, hviolates⟩ := hreports.exists_fault h
    exact hviolates.lacksTarget
  · intro h
    have hsplit :
        InputCheck.all = [] ++ .requiredFields :: InputCheck.all.drop 1 := rfl
    exact hreports.eq_error hsplit (List.forall_mem_nil _) (.requiredFields h)

theorem classify_connectionTimeout (hcat : catalog.Over table)
    (htarget : ¬ input.LacksTarget)
    (h : ¬ (1 ≤ input.connectionTimeout ∧ input.connectionTimeout ≤ 5)) :
    catalog.classify input =
      .error (.timeoutOutOfRange .connection input.connectionTimeout) := by
  have hsplit : InputCheck.all = [.requiredFields] ++
      .connectionTimeout :: InputCheck.all.drop 2 :=
    rfl
  refine (reports_classify hcat input).eq_error hsplit ?_ (.connectionTimeout h)
  exact List.forall_mem_singleton.mpr fun _ hviolates =>
    htarget hviolates.lacksTarget_of_check

theorem classify_socketTimeout (hcat : catalog.Over table)
    (htarget : ¬ input.LacksTarget)
    (hconnection : 1 ≤ input.connectionTimeout ∧ input.connectionTimeout ≤ 5)
    (h : ¬ (1 ≤ input.socketTimeout ∧ input.socketTimeout ≤ 60)) :
    catalog.classify input =
      .error (.timeoutOutOfRange .socket input.socketTimeout) := by
  have hsplit : InputCheck.all =
      [.requiredFields, .connectionTimeout] ++
        .socketTimeout :: InputCheck.all.drop 3 := rfl
  refine (reports_classify hcat input).eq_error hsplit ?_ (.socketTimeout h)
  refine List.forall_mem_cons.mpr
    ⟨fun _ hviolates => htarget hviolates.lacksTarget_of_check, ?_⟩
  refine List.forall_mem_singleton.mpr fun _ hviolates => ?_
  cases hviolates with
  | connectionTimeout h => exact h hconnection

theorem classify_timeout_iff (hcat : catalog.Over table)
    (htarget : ¬ input.LacksTarget) :
    (∃ kind seconds, catalog.classify input =
      .error (.timeoutOutOfRange kind seconds)) ↔
        ¬ CallerInput.InTime input.connectionTimeout input.socketTimeout := by
  constructor
  · rintro ⟨kind, seconds, h⟩
    obtain ⟨_, hviolates⟩ := (reports_classify hcat input).exists_fault h
    exact hviolates.not_inTime
  · intro hout
    by_cases hconnection : 1 ≤ input.connectionTimeout ∧
      input.connectionTimeout ≤ 5
    · exact ⟨_, _, classify_socketTimeout hcat htarget hconnection
        fun h => hout ⟨hconnection, h⟩⟩
    · exact ⟨_, _, classify_connectionTimeout hcat htarget hconnection⟩

end

/-- How classifying an input fails and when it does not. -/
structure Catalog.ReportsFirst (catalog : Catalog) (input : CallerInput) :
    Prop where
  /-- Missing fields are reported whatever the timeouts. -/
  missingFields : catalog.classify input = .error .missingFields ↔
    input.LacksTarget
  /-- Otherwise timeouts out of range are, -/
  timeout : ¬ input.LacksTarget →
    ((∃ kind seconds, catalog.classify input =
      .error (.timeoutOutOfRange kind seconds)) ↔
        ¬ CallerInput.InTime input.connectionTimeout input.socketTimeout)
  /-- the connection timeout -/
  connection : ¬ input.LacksTarget →
    ¬ (1 ≤ input.connectionTimeout ∧ input.connectionTimeout ≤ 5) →
      catalog.classify input =
        .error (.timeoutOutOfRange .connection input.connectionTimeout)
  /-- before the socket timeout. -/
  socket : ¬ input.LacksTarget →
    1 ≤ input.connectionTimeout ∧ input.connectionTimeout ≤ 5 →
    ¬ (1 ≤ input.socketTimeout ∧ input.socketTimeout ≤ 60) →
      catalog.classify input =
        .error (.timeoutOutOfRange .socket input.socketTimeout)
  /-- Timeouts in range are copied, and the API that the caller names is
  ignored. -/
  outcome : ∀ apiType connection socket,
    CallerInput.InTime input.connectionTimeout input.socketTimeout →
      CallerInput.InTime connection socket →
        catalog.classify
            { input with
              apiType, connectionTimeout := connection
              socketTimeout := socket } =
          (catalog.classify input).map fun r =>
            { r with
              connectionTimeout := connection
              socketTimeout := socket }
  /-- Every rejection is that of the first check that is violated. -/
  rejected : Reports (input.Violates catalog) InputCheck.all
    (catalog.classify input)
  accepted : (∃ r, catalog.classify input = .ok r) ↔
    ∀ check e, ¬ input.Violates catalog check e

/-- **The order of the checks.** Whatever is wrong with an input, the first
thing in the order of the checks is reported. -/
theorem reportsFirst_classify {table : ApiTable} {catalog : Catalog}
    (hcat : catalog.Over table) (input : CallerInput) :
    catalog.ReportsFirst input where
  missingFields := classify_missingFields_iff hcat
  timeout := classify_timeout_iff hcat
  connection := classify_connectionTimeout hcat
  socket := classify_socketTimeout hcat
  outcome _ _ _ := classify_with catalog
  rejected := reports_classify hcat input
  accepted := (reports_classify hcat input).exists_eq_ok_iff.trans
    ⟨fun h check => h check check.mem_all, fun h check _ => h check⟩

/-- A URL with a repeated key and a wrong port, next to components of a scheme
that is not supported, and a path that belongs to no API. -/
def faultyInput : CallerInput :=
  ((CallerInput.ofUrl "http://localhost:9201/_x?a=1&a=2").withScheme
    "ftp").withPath "/_y"

theorem reportsFirst_faulty :
    (Catalog.full clusterTable).Over clusterTable ∧
      (Catalog.full clusterTable).classify faultyInput =
        .error (.invalidUrl .url "http://localhost:9201/_x?a=1&a=2"
          (.repeatedParameter "a")) ∧
      FirstFault (fun _ => faultyInput.Violates (Catalog.full clusterTable))
        InputCheck.all
        (.invalidUrl .url "http://localhost:9201/_x?a=1&a=2"
          (.repeatedParameter "a")) := by
  have hover : (Catalog.full clusterTable).Over clusterTable := .inl rfl
  have hrejected : (Catalog.full clusterTable).classify faultyInput =
      .error (.invalidUrl .url "http://localhost:9201/_x?a=1&a=2"
        (.repeatedParameter "a")) := rfl
  exact ⟨hover, hrejected,
    ((reportsFirst_classify hover faultyInput).rejected _).mp hrejected⟩

end ClusterGate
