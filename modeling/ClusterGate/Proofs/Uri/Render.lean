import ClusterGate.Proofs.Text.Affix
import ClusterGate.Proofs.Uri.Path
import ClusterGate.Proofs.Uri.Query
import ClusterGate.Request.Limits
import ClusterGate.Uri.Parser

/-!
# Rendered URIs come back

Reading the text of a URI that was put together for the supported host and
port gives the URI back (`parse_render`): its path is resolved already, and
nothing in its query is left to be escaped.
-/

namespace ClusterGate.Uri

/-! ## Cutting a text -/

theorem splitAtFirst_of_forall {stop : Char → Bool} {text : List Char}
    (h : ∀ c ∈ text, stop c = false) : splitAtFirst stop text = (text, []) := by
  have htake : (text.takeWhile fun c => !stop c) = text := by
    induction text with
    | nil => rfl
    | cons c text ih =>
        rw [List.takeWhile_cons, h c List.mem_cons_self]
        exact congrArg (c :: ·) (ih fun d hd => h d (List.mem_cons_of_mem c hd))
  rw [splitAtFirst, htake, List.drop_length]

theorem splitAtFirst_append_cons {stop : Char → Bool}
    {before : List Char} {c : Char} (h : ∀ d ∈ before, stop d = false)
    (hc : stop c = true) (rest : List Char) :
    splitAtFirst stop (before ++ c :: rest) = (before, c :: rest) := by
  have htake : ((before ++ c :: rest).takeWhile fun d => !stop d) = before := by
    rw [List.takeWhile_append_of_pos
        fun d hd => by rw [h d hd]; rfl, List.takeWhile_cons, hc]
    exact List.append_nil before
  rw [splitAtFirst, htake, List.drop_left]

theorem isIgnored_eq_false {c : Char} (h : isSpaceOrControl c = false) :
    isIgnored c = false := by
  refine Bool.eq_false_iff.mpr fun hignored => ?_
  simp only [isIgnored, Bool.or_eq_true, beq_iff_eq] at hignored
  rcases hignored with (rfl | rfl) | rfl <;> exact absurd h (by decide)

theorem clean_eq_self {text : List Char}
    (h : ∀ c ∈ text, isSpaceOrControl c = false) :
    clean text = text := by
  rw [clean, Text.trim_eq_self (fun c hc => h c (List.mem_of_head? hc))
    fun c hc => h c (List.mem_of_getLast? hc)]
  exact List.filter_eq_self.mpr fun c hc => by
    rw [isIgnored_eq_false (h c hc)]; rfl

/-- The query with its mark. -/
def queryPart : Option (List Char) → List Char
  | some query => '?' :: query
  | none => []

theorem ne_of_set_eq_false {set : Char → Bool} {c d : Char} (hd : set d = true)
    (hc : set c = false) : (c == d) = false := by
  refine beq_eq_false_iff_ne.mpr ?_
  rintro rfl
  rw [hd] at hc
  cases hc

theorem splitTail_append {path : List Char} {query : Option (List Char)}
    (hpath : ∀ c ∈ path, Percent.path c = false)
    (hquery : ∀ q, query = some q → ∀ c ∈ q, Percent.specialQuery c = false) :
    splitTail (path ++ queryPart query) = ⟨path, query, none⟩ := by
  have hmark : ∀ c ∈ path, (c == '?') = false :=
    fun c hc => ne_of_set_eq_false (by decide) (hpath c hc)
  have hsign : ∀ c ∈ path ++ queryPart query, (c == '#') = false := by
    intro c hc
    rcases List.mem_append.mp hc with hc | hc
    · exact ne_of_set_eq_false (by decide) (hpath c hc)
    · cases query with
      | none => cases hc
      | some q =>
          rcases List.mem_cons.mp hc with rfl | hc
          · decide
          · exact ne_of_set_eq_false (by decide) (hquery q rfl c hc)
  rw [splitTail, splitAtFirst_of_forall hsign]
  cases query with
  | none => simp [queryPart, splitAtFirst_of_forall hmark]
  | some q =>
      simp [queryPart, splitAtFirst_append_cons hmark (beq_self_eq_true '?')]

/-! ## URIs of the supported endpoint -/

/-- A URI that was put together for the supported host and port. -/
structure Local (uri : Uri) : Prop where
  scheme : uri.scheme ∈ supportedSchemes
  username : uri.username = ""
  password : uri.password = ""
  host : uri.host = some (.domain supportedHost)
  port : uri.port = some supportedPort
  path : ∃ text, uri.path = UriPath.ofText true text
  query : ∀ query, uri.query = some query →
    ∃ pairs, query = String.ofList (Query.render pairs)
  fragment : uri.fragment = none

theorem Local.eq_mk {uri : Uri} (h : uri.Local) :
    uri = ⟨uri.scheme, "", "", some (.domain supportedHost),
      some supportedPort, uri.path, uri.query, none⟩ := by
  cases uri
  rw [Uri.mk.injEq]
  exact ⟨rfl, h.username, h.password, h.host, h.port, rfl, rfl, h.fragment⟩

theorem toList_render {uri : Uri} (h : uri.Local) :
    uri.render.toList = uri.scheme.toList ++
      ':' :: '/' :: '/' :: ("localhost:9200".toList ++
      (uri.path.toList ++ queryPart (uri.query.map String.toList))) := by
  have hport : toString supportedPort.toNat = "9200" := rfl
  rw [render, authority, credentials, h.username, h.password, h.host,
    h.port, h.fragment]
  cases uri.query <;> simp [queryPart, Host.render, supportedHost, hport]

theorem kind_of_supported {scheme : String} (h : scheme ∈ supportedSchemes) :
    SchemeKind.of scheme = .special := by
  have hall : ∀ scheme ∈ supportedSchemes, SchemeKind.of scheme = .special := by
    decide
  exact hall scheme h

theorem splitScheme?_supported {scheme : String} (h : scheme ∈ supportedSchemes)
    (rest : List Char) :
    splitScheme? (scheme.toList ++ ':' :: rest) = some (scheme, rest) := by
  rcases List.mem_cons.mp h with rfl | h
  · rfl
  · obtain rfl := List.mem_singleton.mp h
    rfl

theorem readHostPort_supported {scheme : String}
    (h : scheme ∈ supportedSchemes) :
    readHostPort scheme "localhost:9200".toList =
      .ok (.domain supportedHost, some supportedPort, []) := by
  rcases List.mem_cons.mp h with rfl | h
  · rfl
  · obtain rfl := List.mem_singleton.mp h
    rfl

theorem readAuthority_supported {scheme : String}
    (h : scheme ∈ supportedSchemes) (rest : List Char) :
    readAuthority scheme ("localhost:9200".toList ++ '/' :: rest) =
      .ok (⟨"", "", .domain supportedHost, some supportedPort⟩,
        '/' :: rest) := by
  have hfree : ∀ c ∈ "localhost:9200".toList, endsAuthority true c = false :=
    Percent.forall_mem_of_all (by decide)
  have huserinfo : splitUserinfo "localhost:9200".toList =
      (none, "localhost:9200".toList) := rfl
  have hspecial : (SchemeKind.of scheme == .special) = true := by
    rw [kind_of_supported h]; rfl
  rw [readAuthority, hspecial, splitAtFirst_append_cons hfree rfl]
  simp only [huserinfo, readHostPort_supported h]
  rfl

/-- A set that spaces and controls belong to is free of what reading drops. -/
theorem isSpaceOrControl_eq_false {set : Char → Bool} {c : Char}
    (hset : ∀ n ≤ 0x20, set (Char.ofNat n) = true) (hc : set c = false) :
    isSpaceOrControl c = false := by
  refine decide_eq_false fun hle => ?_
  have htrue := hset c.toNat hle
  rw [Char.ofNat_toNat, hc] at htrue
  cases htrue

theorem isSpaceOrControl_of_mem_scheme {scheme : String} {c : Char}
    (h : scheme ∈ supportedSchemes) (hc : c ∈ scheme.toList) :
    isSpaceOrControl c = false := by
  have hall : ∀ scheme ∈ supportedSchemes,
      (scheme.toList.all fun c => decide (isSpaceOrControl c = false)) =
        true := by decide
  exact Percent.forall_mem_of_all (hall scheme h) c hc

theorem isSpaceOrControl_of_mem_queryPart {query : Option (List Char)}
    {c : Char}
    (hquery : ∀ q, query = some q → ∀ c ∈ q, Percent.specialQuery c = false)
    (hc : c ∈ queryPart query) : isSpaceOrControl c = false := by
  cases query with
  | none => cases hc
  | some q =>
      rcases List.mem_cons.mp hc with rfl | hc
      · decide
      · exact isSpaceOrControl_eq_false (by decide) (hquery q rfl c hc)

section

variable {uri : Uri}

theorem Local.path_of_mem (h : uri.Local) :
    ∀ c ∈ uri.path.toList, Percent.path c = false := by
  obtain ⟨text, htext⟩ := h.path
  intro c hc
  exact UriPath.path_of_mem_ofText (htext ▸ hc)

theorem Local.specialQuery_of_mem (h : uri.Local) {query : List Char}
    (hquery : uri.query.map String.toList = some query) :
    ∀ c ∈ query, Percent.specialQuery c = false := by
  obtain ⟨text, hsome, rfl⟩ := Option.map_eq_some_iff.mp hquery
  obtain ⟨pairs, rfl⟩ := h.query text hsome
  intro c hc
  rw [String.toList_ofList] at hc
  exact Query.specialQuery_of_mem_render hc

/-- Reading drops nothing of a rendered URI. -/
theorem Local.clean_render (h : uri.Local) :
    clean uri.render.toList = uri.render.toList := by
  have hendpoint :
      ∀ c ∈ "://localhost:9200".toList, isSpaceOrControl c = false :=
    Percent.forall_mem_of_all (by decide)
  refine clean_eq_self fun c hc => ?_
  have hc : c ∈ uri.scheme.toList ++ ("://localhost:9200".toList ++
      (uri.path.toList ++ queryPart (uri.query.map String.toList))) :=
    toList_render h ▸ hc
  simp only [List.mem_append] at hc
  rcases hc with hc | hc | hc | hc
  · exact isSpaceOrControl_of_mem_scheme h.scheme hc
  · exact hendpoint c hc
  · exact isSpaceOrControl_eq_false (by decide) (h.path_of_mem c hc)
  · exact isSpaceOrControl_of_mem_queryPart
      (fun _ => h.specialQuery_of_mem) hc

/-- The query of a rendered URI is encoded to itself. -/
theorem Local.encode_query (h : uri.Local) :
    (uri.query.map String.toList).map
        (fun q => String.ofList (Percent.encode Percent.specialQuery q)) =
      uri.query := by
  cases hsome : uri.query with
  | none => rfl
  | some query =>
      have hfree : ∀ c ∈ query.toList, Percent.specialQuery c = false :=
        h.specialQuery_of_mem (by rw [hsome]; rfl)
      simp [Percent.encode_eq_self hfree]

/-- **Rendered URIs come back.** -/
theorem parse_render (h : uri.Local) : Uri.parse uri.render = .ok uri := by
  obtain ⟨text, htext⟩ := h.path
  obtain ⟨rest, hrest⟩ := UriPath.ofText_eq_cons true text
  have hstart : uri.path.toList ++ queryPart (uri.query.map String.toList) =
      '/' :: (rest ++ queryPart (uri.query.map String.toList)) := by
    rw [htext, hrest, List.cons_append]
  have hdrop :
      ('/' :: '/' :: ("localhost:9200".toList ++
        (uri.path.toList ++ queryPart (uri.query.map String.toList)))).dropWhile
          (UriPath.isSlash true) =
      "localhost:9200".toList ++
        (uri.path.toList ++ queryPart (uri.query.map String.toList)) := rfl
  have hpathText : UriPath.ofText true uri.path.toList = uri.path := by
    rw [htext, UriPath.ofText_ofText]
  rw [parse, h.clean_render, toList_render h, splitScheme?_supported h.scheme]
  simp only [kind_of_supported h.scheme]
  rw [hdrop, parseWithAuthority, hstart, readAuthority_supported h.scheme,
    ← hstart]
  simp only [bind, Except.bind,
    splitTail_append h.path_of_mem fun _ => h.specialQuery_of_mem, pure,
    Except.pure, assemble, Tail.queryText, Tail.fragmentText,
    kind_of_supported h.scheme]
  simp only [h.encode_query, hpathText, beq_self_eq_true, Bool.not_true,
    Bool.false_and, Bool.false_eq_true, if_false, reduceCtorEq,
    Option.getD_some, Option.map_some, Option.map_none]
  exact congrArg Except.ok h.eq_mk.symm

end

end ClusterGate.Uri
