import ClusterGate.Proofs.Outcome
import ClusterGate.Proofs.Request.Target
import ClusterGate.Request.Classify

/-!
# What is read before a catalog is looked at

Classifying an input falls into two parts. The first reads from the input a
URI, its query and its decoded path, and makes every check that is not about
an API (`CallerInput.locate`). The second finds the API of the path in the
catalog and takes the parameters (`Catalog.settle`). Only the second depends
on the catalog, and of the path it needs no more than the entry that is
found (`Catalog.settle_congr`).
-/

namespace ClusterGate

/-- Where an input points, as far as no API is concerned. -/
structure Located where
  uri : Uri
  query : SortedMap String
  path : String

/-- Reads an input as far as no API is concerned. -/
def CallerInput.locate (input : CallerInput) : Except Rejection Located := do
  if !input.namesTarget then throw .missingFields
  checkTimeout .connection input.connectionTimeout
  checkTimeout .socket input.socketTimeout
  let uri ← input.targetUri
  let query ← uri.queryMap input.targetField
  input.checkAgreement uri
  uri.checkEndpoint
  let path ← uri.decodedPath input.targetField
  return ⟨uri, query, path⟩

/-- The request to the API that the path belongs to. -/
def Catalog.settle (catalog : Catalog) (input : CallerInput) (found : Located) :
    Except Rejection Request :=
  match catalog.findEntry? found.path with
  | none => .error (.unsupportedApi found.path)
  | some (api, route) =>
    (api.extractParams found.path input.pathParams).map fun params =>
      { api
        scheme := found.uri.scheme
        host := String.ofList (found.uri.hostText.toList.map Char.toLower)
        port := found.uri.effectivePort?.getD 0
        path := input.shownPath route params
        pathParams := params
        queryParams :=
          if input.queryParams.isEmpty then found.query else input.queryParams
        url := if input.url.isEmpty then found.uri.render else input.url
        connectionTimeout := input.connectionTimeout
        socketTimeout := input.socketTimeout
        uri := found.uri }

variable {catalog other : Catalog} {input : CallerInput} {found : Located}

/-- **Two parts.** An input is classified by locating it and then settling
on an API. -/
theorem classify_eq_locate_bind (catalog : Catalog) (input : CallerInput) :
    catalog.classify input = input.locate >>= catalog.settle input := by
  unfold Catalog.classify CallerInput.locate
  cases input.namesTarget with
  | false => rfl
  | true =>
      simp only [Bool.not_true, Bool.false_eq_true, if_false,
        bind_assoc, pure_bind]
      refine bind_congr fun _ => bind_congr fun _ => bind_congr fun uri =>
        bind_congr fun query =>
          bind_congr fun _ => bind_congr fun _ => bind_congr fun path => ?_
      unfold Catalog.settle
      cases catalog.findEntry? path with
      | none => rfl
      | some e => cases e.1.extractParams path input.pathParams <;> rfl

theorem classify_of_locate_error {reason : Rejection}
    (h : input.locate = .error reason) (catalog : Catalog) :
    catalog.classify input = .error reason := by
  rw [classify_eq_locate_bind, h]
  rfl

theorem classify_of_locate_ok (h : input.locate = .ok found)
    (catalog : Catalog) :
    catalog.classify input = catalog.settle input found := by
  rw [classify_eq_locate_bind, h]
  rfl

theorem Catalog.settle_congr
    (h : catalog.findEntry? found.path = other.findEntry? found.path) :
    catalog.settle input found = other.settle input found := by
  rw [settle, settle, h]

theorem Catalog.settle_of_none (h : catalog.findEntry? found.path = none) :
    catalog.settle input found = .error (.unsupportedApi found.path) := by
  rw [settle, h]

/-- What is located is the target of the input, with the escapes of its path
undone. -/
theorem CallerInput.locate_eq_ok (h : input.locate = .ok found) :
    input.targetUri = .ok found.uri ∧
      Utf8.decode (Percent.decode found.uri.path.toList) =
        .ok found.path.toList := by
  unfold locate at h
  cases htarget : input.namesTarget with
  | false =>
      rw [htarget] at h
      cases h
  | true =>
      simp only [htarget, Bool.not_true, Bool.false_eq_true, if_false,
        bind_eq_ok] at h
      obtain ⟨_, -, _, -, uri, huri, query, -, _, -, _, -, path, hpath, h⟩ := h
      obtain rfl := Except.ok.inj h
      exact ⟨huri, Uri.decodedPath_eq_ok_iff.mp hpath⟩

end ClusterGate
