import ClusterGate.Proofs.Json.Shape
import ClusterGate.Proofs.Json.Skipped
import ClusterGate.Request.Basic

/-!
# Inputs as documents

What an object says about an input is said field by field: what stands under the
name of a field, or nothing, which gives the default
(`CallerInput.DescribedBy`). An input is read from an object just if the object
describes it (`ofJson_obj_iff`), so only the lookups of the ten names matter. A
list is read as the object in which its values stand under the first names.

An input is described by the document that is written for it, and the document
of a request is that of the request as an input. What is read from a document is
also read from the text of it, in whatever order the fields stand there and
whatever stands under unknown keys (`ofText_obj`, `ofText_arr`). All of this
together is `wireForm`.
-/

namespace ClusterGate

namespace CallerInput

/-! ## What is said about a field -/

/-- What stands under the name of a field denotes the value of the field, and
the value is the default if there is nothing. -/
def Given {α : Type} (denotes : Json → α → Prop) (default : α) :
    Option Json → α → Prop
  | none, a => a = default
  | some v, a => denotes v a

def DenotesText (v : Json) (t : String) : Prop := v = .str t

/-- No port is nothing or a negative number of 64 bits. -/
inductive DenotesPort : Json → Option UInt16 → Prop
  | null : DenotesPort .null none
  | negative {n : Int} (hlow : -(Int.pow 2 63) ≤ n) (h : n < 0) :
      DenotesPort (.num (.int n)) none
  | number (port : UInt16) : DenotesPort (.num (.int port.toNat)) (some port)

/-- An object of texts, where the last of repeated keys counts. -/
def DenotesTexts (v : Json) (m : SortedMap String) : Prop :=
  ∃ texts : List (String × String),
    v = .obj (texts.map fun e => (e.1, .str e.2)) ∧ .ofList texts = m

def DenotesSeconds (v : Json) (s : Int32) : Prop := v = .num (.int s.toInt)

/-- The document that has these values under its keys describes the input. -/
@[mk_iff]
structure DescribedBy (get : String → Option Json) (input : CallerInput) :
    Prop where
  apiType : Given DenotesText "" (get "api_type") input.apiType
  scheme : Given DenotesText "" (get "scheme") input.scheme
  host : Given DenotesText "" (get "host") input.host
  port : Given DenotesPort none (get "port") input.port
  path : Given DenotesText "" (get "path") input.path
  pathParams : Given DenotesText "" (get "path_params") input.pathParams
  queryParams : Given DenotesTexts ∅ (get "query_params") input.queryParams
  url : Given DenotesText "" (get "url") input.url
  connectionTimeout : Given DenotesSeconds TimeoutKind.connection.greatest
    (get "connection_timeout") input.connectionTimeout
  socketTimeout :
    Given DenotesSeconds TimeoutKind.socket.greatest (get "socket_timeout")
      input.socketTimeout

section

variable {key : String} {entries : List (String × Json)} {value : Json}

theorem given_text_iff {t : String} :
    Given DenotesText "" (lookupEntry key entries) t ↔
      (∀ v, lookupEntry key entries = some v → Shape.text.check v = .ok ()) ∧
        textUnder key entries = t := by
  unfold textUnder
  cases lookupEntry key entries with
  | none => simp [Given, eq_comm]
  | some v =>
      simp only [Given, DenotesText, Option.some.injEq, forall_eq',
        Shape.check_text_eq_ok_iff]
      cases v <;> simp

theorem textMap_map (texts : List (String × String)) :
    textMap (texts.map fun e => (e.1, .str e.2)) = texts := by
  induction texts with
  | nil => rfl
  | cons e rest ih => rw [List.map_cons, textMap, ih]

theorem given_texts_iff {m : SortedMap String} :
    Given DenotesTexts ∅ (lookupEntry key entries) m ↔
      (∀ v, lookupEntry key entries = some v →
        (Shape.map .text).check v = .ok ()) ∧
        textMapUnder key entries = m := by
  unfold textMapUnder
  cases lookupEntry key entries with
  | none => simp [Given, eq_comm]
  | some v =>
      simp only [Given, DenotesTexts, Option.some.injEq, forall_eq',
        Shape.check_map_text_eq_ok_iff]
      constructor
      · rintro ⟨texts, rfl, rfl⟩
        exact ⟨⟨texts, rfl⟩, congrArg SortedMap.ofList (textMap_map texts)⟩
      · rintro ⟨⟨texts, rfl⟩, rfl⟩
        exact ⟨texts, rfl, congrArg SortedMap.ofList (textMap_map texts).symm⟩

theorem given_seconds_iff {kind : TimeoutKind} {s : Int32} :
    Given DenotesSeconds kind.greatest (lookupEntry key entries) s ↔
      (∀ v, lookupEntry key entries = some v →
        (Shape.scalar (Shape.acceptInteger 32)).check v = .ok ()) ∧
        secondsUnder key kind entries = s := by
  unfold secondsUnder
  cases lookupEntry key entries with
  | none => simp [Given, eq_comm]
  | some v =>
      simp only [Given, DenotesSeconds, Option.some.injEq, forall_eq',
        Shape.check_integer_eq_ok_iff]
      constructor
      · rintro rfl
        exact ⟨⟨s.toInt, rfl, Int32.le_toInt s, Int32.toInt_lt s⟩,
          Int32.ofInt_toInt s⟩
      · rintro ⟨⟨n, rfl, hlow, hhigh⟩, rfl⟩
        rw [Int32.toInt_ofInt_of_le hlow hhigh]

theorem check_port_eq_ok_iff : (Shape.scalar acceptPort).check value = .ok () ↔
    value = .null ∨ ∃ n, value = .num (.int n) ∧ -(Int.pow 2 63) ≤ n ∧
      n ≤ 65535 := by
  rw [Shape.check_scalar_eq_ok_iff (by simp [acceptPort, Shape.acceptInteger])
    (by simp [acceptPort, Shape.acceptInteger])]
  cases value with
  | null => simp [acceptPort]
  | bool | str | arr | obj => simp [acceptPort, Shape.acceptInteger]
  | num x =>
      cases x with
      | real => simp [acceptPort, Shape.acceptInteger]
      | int n =>
          have hbind : acceptPort (.num (.int n)) =
              Shape.acceptInteger 64 (.num (.int n)) >>=
              fun _ => if n < 65536 then .ok ()
                else .error (.wrongValue (.num (.int n))
                  "a port between 0 and 65535") := rfl
          have hbelow : n < 65536 ↔ n ≤ 65535 := by omega
          rw [hbind, bind_eq_ok]
          simp only [Shape.acceptInteger_eq_ok_iff, exists_const,
            ite_eq_left_iff, reduceCtorEq, imp_false, not_not, false_or,
            Json.num.injEq, Number.int.injEq, exists_eq_left', hbelow]
          constructor
          · rintro ⟨⟨hlow, -⟩, hhigh⟩
            exact ⟨hlow, hhigh⟩
          · rintro ⟨hlow, hhigh⟩
            exact ⟨⟨hlow, Int.lt_of_le_of_lt hhigh (by decide)⟩, hhigh⟩

theorem given_port_iff {port : Option UInt16} :
    Given DenotesPort none (lookupEntry key entries) port ↔
      (∀ v, lookupEntry key entries = some v →
        (Shape.scalar acceptPort).check v = .ok ()) ∧
        portUnder key entries = port := by
  unfold portUnder
  cases lookupEntry key entries with
  | none => simp [Given, eq_comm]
  | some v =>
      simp only [Given, Option.some.injEq, forall_eq', check_port_eq_ok_iff]
      constructor
      · intro h
        cases h with
        | null => exact ⟨.inl rfl, rfl⟩
        | @negative n hlow hneg =>
            exact ⟨.inr ⟨n, rfl, hlow, by omega⟩, if_pos hneg⟩
        | number port =>
            have hport : port.toNat < 65536 := port.toNat_lt
            refine ⟨.inr ⟨port.toNat, rfl, ?_, by omega⟩, ?_⟩
            · exact Int.le_trans (by decide) (Int.natCast_nonneg _)
            · exact (if_neg (by omega)).trans (congrArg some UInt16.ofNat_toNat)
      · rintro ⟨rfl | ⟨n, rfl, hlow, hhigh⟩, rfl⟩
        · exact .null
        · dsimp only
          split
          · next hneg => exact .negative hlow hneg
          · next hneg =>
              have hn : ((UInt16.ofNat n.toNat).toNat : Int) = n := by
                rw [UInt16.toNat_ofNat_of_lt' (by rw [UInt16.size]; omega)]
                omega
              have hnumber := DenotesPort.number (UInt16.ofNat n.toNat)
              rwa [hn] at hnumber

end

/-! ## Objects -/

theorem nodup_names : (fields.map Prod.fst).Nodup := by
  decide

variable {entries others : List (String × Json)} {input : CallerInput}

/-- **Objects.** An input is read just from the objects that describe it. -/
theorem ofJson_obj_iff (h : (entries.map Prod.fst).Nodup) :
    ofJson (.obj entries) = .ok input ↔
      DescribedBy (fun key => lookupEntry key entries) input := by
  have hcheck : shape.check (.obj entries) = .ok () ↔
      ∀ f ∈ fields, ∀ v, lookupEntry f.1 entries = some v →
        f.2.check v = .ok () :=
    Shape.check_record_obj_iff "UriInput" nodup_names h
  rw [ofJson, map_eq_ok]
  constructor
  · rintro ⟨⟨⟩, hok, rfl⟩
    have hfields := hcheck.mp hok
    simp only [fields, List.forall_mem_cons] at hfields
    obtain ⟨hapiType, hscheme, hhost, hport, hpath, hpathParams, hqueryParams,
      hurl, hconnection, hsocket, -⟩ := hfields
    exact {
      apiType := given_text_iff.mpr ⟨hapiType, rfl⟩
      scheme := given_text_iff.mpr ⟨hscheme, rfl⟩
      host := given_text_iff.mpr ⟨hhost, rfl⟩
      port := given_port_iff.mpr ⟨hport, rfl⟩
      path := given_text_iff.mpr ⟨hpath, rfl⟩
      pathParams := given_text_iff.mpr ⟨hpathParams, rfl⟩
      queryParams := given_texts_iff.mpr ⟨hqueryParams, rfl⟩
      url := given_text_iff.mpr ⟨hurl, rfl⟩
      connectionTimeout := given_seconds_iff.mpr ⟨hconnection, rfl⟩
      socketTimeout := given_seconds_iff.mpr ⟨hsocket, rfl⟩ }
  · intro hdescribes
    obtain ⟨hapiType, eapiType⟩ := given_text_iff.mp hdescribes.apiType
    obtain ⟨hscheme, escheme⟩ := given_text_iff.mp hdescribes.scheme
    obtain ⟨hhost, ehost⟩ := given_text_iff.mp hdescribes.host
    obtain ⟨hport, eport⟩ := given_port_iff.mp hdescribes.port
    obtain ⟨hpath, epath⟩ := given_text_iff.mp hdescribes.path
    obtain ⟨hpathParams, epathParams⟩ := given_text_iff.mp hdescribes.pathParams
    obtain ⟨hqueryParams, equeryParams⟩ :=
      given_texts_iff.mp hdescribes.queryParams
    obtain ⟨hurl, eurl⟩ := given_text_iff.mp hdescribes.url
    obtain ⟨hconnection, econnection⟩ :=
      given_seconds_iff.mp hdescribes.connectionTimeout
    obtain ⟨hsocket, esocket⟩ := given_seconds_iff.mp hdescribes.socketTimeout
    refine ⟨(), hcheck.mpr ?_, ?_⟩
    · simp only [fields, List.forall_mem_cons]
      exact ⟨hapiType, hscheme, hhost, hport, hpath, hpathParams, hqueryParams,
        hurl, hconnection, hsocket, List.forall_mem_nil _⟩
    · change ofEntries entries = input
      rw [ofEntries, eapiType, escheme, ehost, eport, epath, epathParams,
        equeryParams, eurl, econnection, esocket]

theorem DescribedBy.congr {get other : String → Option Json}
    (h : ∀ name ∈ fields.map Prod.fst, get name = other name) :
    DescribedBy get input ↔ DescribedBy other input := by
  simp only [fields, List.map_cons, List.map_nil, List.forall_mem_cons] at h
  obtain ⟨hapiType, hscheme, hhost, hport, hpath, hpathParams, hqueryParams,
    hurl, hconnection, hsocket, -⟩ := h
  simp only [describedBy_iff, hapiType, hscheme, hhost, hport, hpath,
    hpathParams, hqueryParams, hurl, hconnection, hsocket]

/-! ## Lists -/

/-- **Lists.** A list of values is read as the object in which they stand under
the first names. -/
theorem ofJson_arr {values : List Json} (h : values.length ≤ fields.length) :
    ofJson (.arr values) =
      ofJson (.obj ((fields.map Prod.fst).zip values)) := by
  have hcheck : shape.check (.arr values) =
      shape.check (.obj ((fields.map Prod.fst).zip values)) :=
    Shape.check_record_arr "UriInput" nodup_names h
  rw [ofJson, hcheck]
  rfl

theorem nodup_zip (values : List Json) :
    (((fields.map Prod.fst).zip values).map Prod.fst).Nodup := by
  rw [List.zip_eq_zip_take_min, List.map_fst_zip (by simp)]
  exact nodup_names.sublist (List.take_sublist _ _)

/-! ## Written inputs -/

/-- The fields of the document that is written for an input. -/
def written (input : CallerInput) : List (String × Json) :=
  match input.toJson with
  | .obj entries => entries
  | _ => []

theorem names_written (input : CallerInput) :
    input.written.map Prod.fst =
      ["api_type", "connection_timeout", "host", "path", "path_params", "port",
        "query_params", "scheme", "socket_timeout", "url"] :=
  rfl

theorem nodup_written (input : CallerInput) :
    (input.written.map Prod.fst).Nodup := by
  rw [names_written]
  decide

theorem denotesPort_ofPort (port : Option UInt16) :
    DenotesPort (ofPort port) port := by
  cases port with
  | none => exact .negative (by decide) (by decide)
  | some port => exact .number port

theorem denotesTexts_ofTextMap (map : SortedMap String) :
    DenotesTexts (ofTextMap map) map :=
  ⟨map.entries, rfl, SortedMap.ofList_entries map⟩

theorem describedBy_written (input : CallerInput) :
    DescribedBy (fun key => lookupEntry key input.written) input where
  apiType := rfl
  scheme := rfl
  host := rfl
  port := denotesPort_ofPort input.port
  path := rfl
  pathParams := rfl
  queryParams := denotesTexts_ofTextMap input.queryParams
  url := rfl
  connectionTimeout := rfl
  socketTimeout := rfl

/-! ## Texts -/

/-- What is read for a value that stands under the name of a field: of repeated
keys only the last one. -/
def settled : Json → Json
  | .obj fields => .ofFields fields
  | value => value

/-- What has the shape of a field is read as a field of the shape. -/
theorem reads_settled :
    ∀ f ∈ fields, ∀ v, f.2.check v = .ok () → f.2.Reads v (settled v) := by
  have htext (v : Json) (h : Shape.text.check v = .ok ()) :
      Shape.text.Reads v (settled v) := by
    obtain ⟨t, rfl⟩ := Shape.check_text_eq_ok_iff.mp h
    exact Shape.reads_text t
  have hport (v : Json) (h : (Shape.scalar acceptPort).check v = .ok ()) :
      (Shape.scalar acceptPort).Reads v (settled v) := by
    obtain rfl | ⟨n, rfl, hlow, hhigh⟩ := check_port_eq_ok_iff.mp h
    · exact Shape.reads_null rfl
    · exact Shape.reads_int hlow (Int.lt_of_le_of_lt hhigh (by decide)) h
  have htexts (v : Json) (h : (Shape.map .text).check v = .ok ()) :
      (Shape.map .text).Reads v (settled v) := by
    obtain ⟨texts, rfl⟩ := Shape.check_map_text_eq_ok_iff.mp h
    refine .map rfl (List.forall₂_same.mpr (List.forall_mem_map.mpr
      fun e _ => ⟨rfl, ?_⟩))
    exact Shape.reads_text e.2
  have hseconds (v : Json)
      (h : (Shape.scalar (Shape.acceptInteger 32)).check v = .ok ()) :
      (Shape.scalar (Shape.acceptInteger 32)).Reads v (settled v) := by
    obtain ⟨n, rfl, hlow, hhigh⟩ := Shape.check_integer_eq_ok_iff.mp h
    exact Shape.reads_int (Int.le_trans (by decide) hlow)
      (Int.lt_trans hhigh (by decide)) h
  simp only [fields, List.forall_mem_cons]
  exact ⟨htext, htext, htext, hport, htext, htext, htexts, htext,
    hseconds, hseconds, List.forall_mem_nil _⟩

theorem isStrict_fields : ∀ f ∈ fields, f.2.isStrict = true := by
  simp only [fields, List.forall_mem_cons]
  exact ⟨rfl, rfl, rfl, rfl, rfl, rfl, rfl, rfl, rfl, rfl,
    List.forall_mem_nil _⟩

theorem Given.settled {α : Type} {denotes : Json → α → Prop} {default a : α}
    {v : Option Json} (h : ∀ v, denotes v a → denotes (CallerInput.settled v) a)
    (hgiven : Given denotes default v a) :
    Given denotes default (v.map CallerInput.settled) a := by
  cases v with
  | none => exact hgiven
  | some v => exact h v hgiven

theorem DescribedBy.settled {get : String → Option Json}
    (h : DescribedBy get input) :
    DescribedBy (fun key => (get key).map CallerInput.settled) input := by
  have htext {t : String} (v : Json) (h : DenotesText v t) :
      DenotesText (CallerInput.settled v) t := by
    obtain rfl := h
    rfl
  have hport {port : Option UInt16} (v : Json) (h : DenotesPort v port) :
      DenotesPort (CallerInput.settled v) port := by
    cases h with
    | null => exact .null
    | negative hlow hneg => exact .negative hlow hneg
    | number port => exact .number port
  have htexts (v : Json) (h : DenotesTexts v input.queryParams) :
      DenotesTexts (CallerInput.settled v) input.queryParams := by
    obtain ⟨texts, rfl, htexts⟩ := h
    refine ⟨(SortedMap.ofList texts).entries,
      Json.ofFields_map Json.str texts, ?_⟩
    rw [SortedMap.ofList_entries, htexts]
  have hseconds {s : Int32} (v : Json) (h : DenotesSeconds v s) :
      DenotesSeconds (CallerInput.settled v) s := by
    obtain rfl := h
    rfl
  exact {
    apiType := h.apiType.settled htext
    scheme := h.scheme.settled htext
    host := h.host.settled htext
    port := h.port.settled hport
    path := h.path.settled htext
    pathParams := h.pathParams.settled htext
    queryParams := h.queryParams.settled htexts
    url := h.url.settled htext
    connectionTimeout := h.connectionTimeout.settled hseconds
    socketTimeout := h.socketTimeout.settled hseconds }

/-- The same input is made of what is read for the values. -/
theorem ofEntries_settled (hnodup : (entries.map Prod.fst).Nodup)
    (hothers : (others.map Prod.fst).Nodup)
    (h : ofJson (.obj entries) = .ok input)
    (hlookup : ∀ name ∈ fields.map Prod.fst,
      lookupEntry name others = (lookupEntry name entries).map settled) :
    ofEntries others = input := by
  have hdescribed := ((ofJson_obj_iff hnodup).mp h).settled
  have hjson : ofJson (.obj others) = .ok input :=
    (ofJson_obj_iff hothers).mpr ((DescribedBy.congr hlookup).mpr hdescribed)
  obtain ⟨_, -, hinput⟩ := map_eq_ok.mp hjson
  exact hinput

/-- The shapes of the fields of an object, of which the unknown ones are
skipped. -/
def known : Shape.Fields := ⟨fields, .skipped⟩

theorem shapeOf_known {f : String × Shape} (hf : f ∈ fields) :
    known.shapeOf f.1 = f.2 := by
  rw [Shape.Fields.shapeOf, known,
    (lookupEntry_eq_some_iff_of_nodup nodup_names).mpr hf]
  rfl

/-- What is read for the value under a key, where `skip` tells what unknown
fields are taken for. -/
def readAs (skip : Json → Json) (key : String) (value : Json) : Json :=
  if key ∈ fields.map Prod.fst then settled value else skip value

theorem readsEntry_known {skip : Json → Json}
    (hskip : ∀ v, Shape.skipped.Reads v (skip v))
    (h : shape.check (.obj entries) = .ok ()) :
    ∀ e ∈ entries, known.ReadsEntry true e (e.1, readAs skip e.1 e.2) := by
  rw [shape, Shape.check_record_obj, Shape.checkFields_eq_ok_iff] at h
  refine fun e he => ⟨Json.unquotes_self e.1, ?_⟩
  unfold readAs
  split
  · next hname =>
      obtain ⟨f, hf, hkey⟩ := List.mem_map.mp hname
      have hshape : known.shapeOf e.1 = f.2 := hkey ▸ shapeOf_known hf
      exact hshape.symm ▸ reads_settled f hf e.2 (hshape ▸ h e he)
  · next hname =>
      have hshape : known.shapeOf e.1 = .skipped := by
        have hnone : lookupEntry e.1 fields = none := by
          rwa [← Option.not_isSome_iff_eq_none, lookupEntry_isSome_iff]
        rw [Shape.Fields.shapeOf, known, hnone]
        rfl
      exact hshape.symm ▸ hskip e.2

/-- What is kept has the fields as they are. -/
theorem lookupEntry_kept {skip : Json → Json} {name : String}
    (h : name ∈ fields.map Prod.fst) :
    lookupEntry name ((entries.map fun e => (e.1, readAs skip e.1 e.2)).filter
      known.keeps) = (lookupEntry name entries).map settled := by
  obtain ⟨f, hf, rfl⟩ := List.mem_map.mp h
  have hkept : (known.shapeOf f.1).isStrict = true := by
    rw [shapeOf_known hf]
    exact isStrict_fields f hf
  have hsettled : readAs skip f.1 = settled := funext fun _ => if_pos h
  rw [← hsettled, ← lookupEntry_map_key]
  exact lookupEntry_filter
    (p := fun key => (known.shapeOf key).isStrict) hkept _

/-- **Texts of objects.** An input is read from the text of an object as it is
read from the object. -/
theorem ofText_obj (hnodup : (entries.map Prod.fst).Nodup)
    (h : ofJson (.obj entries) = .ok input) :
    ofText (Json.obj entries).render = .ok input := by
  obtain ⟨⟨⟩, hcheck, -⟩ := map_eq_ok.mp h
  obtain ⟨skip, hskip⟩ := Classical.skolem.mp Shape.exists_reads_skipped
  have hkeys :
      ((entries.map fun e => (e.1, readAs skip e.1 e.2)).map
        Prod.fst).Nodup := by
    rwa [List.map_map]
  have hread : shape.read (Json.obj entries).render = .ok (.ofFields
      ((entries.map fun e => (e.1, readAs skip e.1 e.2)).filter
        known.keeps)) := by
    refine (Shape.Reads.obj rfl ?_ ?_).read_render
    · rw [List.forall₂_map_right_iff, List.forall₂_same]
      exact readsEntry_known hskip hcheck
    · refine (List.pairwise_map.mp hkeys).imp fun {a b} hne => ?_
      exact fun _ => hne
  rw [ofText, hread, Json.ofFields_eq]
  refine congrArg Except.ok
    (ofEntries_settled hnodup (SortedMap.ascending _).nodup_keys h
      fun name hname => ?_)
  rw [← lookupEntry_kept hname]
  have hkept :=
    hkeys.sublist ((List.filter_sublist (p := known.keeps)).map Prod.fst)
  have hreverse := List.reverse_perm
    ((entries.map fun e => (e.1, readAs skip e.1 e.2)).filter known.keeps)
  rw [← lookupEntry_eq_of_perm ((hreverse.map Prod.fst).nodup_iff.mpr hkept)
      hreverse name]
  exact SortedMap.get?_ofList _ name

theorem readsItems_settled {length : Nat} :
    ∀ {later : List (String × Shape)} {values : List Json}, later ⊆ fields →
      Shape.checkItems length ⟨later.map (·.2), none⟩ values = .ok () →
        (Shape.Items.mk (later.map (·.2)) none).Reads values
          (values.map settled)
  | _, [], _, _ => .nil
  | [], _ :: _, _, h => nomatch h
  | f :: later, v :: values, hfields, h => by
      obtain ⟨hf, hlater⟩ := List.cons_subset.mp hfields
      rw [Shape.checkItems] at h
      obtain ⟨⟨⟩, hv, hvalues⟩ := bind_eq_ok.mp h
      exact .cons rfl (reads_settled f hf v hv)
        (readsItems_settled hlater hvalues)

/-- **Texts of lists.** An input is read from the text of a list as it is read
from the list. -/
theorem ofText_arr {values : List Json}
    (hlength : values.length ≤ fields.length)
    (h : ofJson (.arr values) = .ok input) :
    ofText (Json.arr values).render = .ok input := by
  obtain ⟨⟨⟩, hcheck, -⟩ := map_eq_ok.mp h
  have hitems : Shape.checkItems values.length ⟨fields.map (·.2), none⟩ values =
      .ok () := by
    rw [shape, Shape.check] at hcheck
    exact hcheck
  have hread :
      shape.read (Json.arr values).render = .ok (.arr (values.map settled)) :=
    (Shape.Reads.arr
      rfl (readsItems_settled (List.Subset.refl _) hitems)).read_render
  have hlookup (key : String) :
      lookupEntry key ((fields.map Prod.fst).zip (values.map settled)) =
        (lookupEntry key ((fields.map Prod.fst).zip values)).map settled := by
    rw [List.zip_map_right]
    exact lookupEntry_map settled key _
  rw [ofJson_arr hlength] at h
  rw [ofText, hread]
  exact congrArg Except.ok (ofEntries_settled (nodup_zip _) (nodup_zip _) h
    fun name _ => hlookup name)

/-! ## The wire form -/

/-- How inputs and documents go together. -/
structure WireForm : Prop where
  /-- An input is read from its document, and from the text of it. -/
  written : ∀ input : CallerInput,
    ofJson input.toJson = .ok input ∧ ofText input.toJson.render = .ok input
  /-- A port that is not set is written as -1. -/
  unset : ∀ input : CallerInput, input.port = none →
    input.toJson.field? "port" = some (.num (.int (-1)))
  /-- An input is read from the objects that describe it. -/
  objects : ∀ entries : List (String × Json), (entries.map Prod.fst).Nodup →
    ∀ input,
      ofJson (.obj entries) = .ok input ↔
        DescribedBy (fun key => lookupEntry key entries) input
  /-- The order of keys and unknown keys make no difference. -/
  independent : ∀ entries others : List (String × Json),
    (entries.map Prod.fst).Nodup → (others.map Prod.fst).Nodup →
      (∀ name ∈ fields.map Prod.fst, lookupEntry name entries =
        lookupEntry name others) →
        ∀ input, ofJson (.obj entries) = .ok input ↔
          ofJson (.obj others) = .ok input
  /-- A port is nothing or an integer of 64 bits that is not above the last
  port. -/
  ports : ∀ v, (∃ input, ofJson (.obj [("port", v)]) = .ok input) ↔
    v = .null ∨ ∃ n, v = .num (.int n) ∧ -(Int.pow 2 63) ≤ n ∧ n ≤ 65535
  /-- A list is read as every object in which its values stand under the first
  names. -/
  lists : ∀ values : List Json, values.length ≤ fields.length →
    ∀ entries, entries.Perm ((fields.map Prod.fst).zip values) → ∀ input,
      ofJson (.arr values) = .ok input ↔ ofJson (.obj entries) = .ok input
  /-- What is read from objects and lists is also read from their texts. -/
  texts : (∀ entries : List (String × Json), (entries.map Prod.fst).Nodup →
    ∀ input,
      ofJson (.obj entries) = .ok input →
        ofText (Json.obj entries).render = .ok input) ∧
    ∀ values : List Json, values.length ≤ fields.length → ∀ input,
      ofJson (.arr values) = .ok input →
        ofText (Json.arr values).render = .ok input
  /-- A request is written as what it is as an input. -/
  requests : ∀ request : Request, request.toInput.toJson = request.toJson ∧
    ofJson request.toJson = .ok request.toInput ∧
      ofText request.toJson.render = .ok request.toInput

theorem ofJson_toJson (input : CallerInput) : ofJson input.toJson = .ok input :=
  (ofJson_obj_iff input.nodup_written).mpr input.describedBy_written

theorem ofText_toJson (input : CallerInput) :
    ofText input.toJson.render = .ok input :=
  ofText_obj input.nodup_written input.ofJson_toJson

theorem exists_ofJson_port_iff {v : Json} :
    (∃ input, ofJson (.obj [("port", v)]) = .ok input) ↔
      v = .null ∨ ∃ n, v = .num (.int n) ∧ -(Int.pow 2 63) ≤ n ∧ n ≤ 65535 := by
  have hcheck : shape.check (.obj [("port", v)]) = .ok () ↔
      (Shape.scalar acceptPort).check v = .ok () := by
    rw [shape, Shape.check_record_obj, Shape.checkFields_eq_ok_iff,
      List.forall_mem_singleton]
    rfl
  rw [ofJson, exists_map_eq_ok_iff, ← check_port_eq_ok_iff, ← hcheck]
  exact ⟨fun ⟨_, h⟩ => h, fun h => ⟨(), h⟩⟩

theorem ofJson_obj_congr (h : (entries.map Prod.fst).Nodup)
    (hothers : (others.map Prod.fst).Nodup)
    (hsame : ∀ name ∈ fields.map Prod.fst, lookupEntry name entries =
      lookupEntry name others) :
    ofJson (.obj entries) = .ok input ↔ ofJson (.obj others) = .ok input := by
  rw [ofJson_obj_iff h, ofJson_obj_iff hothers]
  exact DescribedBy.congr hsame

theorem ofJson_arr_iff_of_perm {values : List Json}
    (h : values.length ≤ fields.length)
    (hperm : entries.Perm ((fields.map Prod.fst).zip values)) :
    ofJson (.arr values) = .ok input ↔ ofJson (.obj entries) = .ok input := by
  have hnodup : (entries.map Prod.fst).Nodup :=
    (hperm.map Prod.fst).nodup_iff.mpr (nodup_zip _)
  rw [ofJson_arr h]
  exact ofJson_obj_congr (nodup_zip _) hnodup fun name _ =>
    (lookupEntry_eq_of_perm hnodup hperm name).symm

end CallerInput

/-- **The wire form.** Inputs are read as they are written, from objects by what
these have under the names of the fields, and from lists as from objects. -/
theorem wireForm : CallerInput.WireForm where
  written input := ⟨input.ofJson_toJson, input.ofText_toJson⟩
  unset _ h := congrArg (fun port => some (CallerInput.ofPort port)) h
  objects _ h _ := CallerInput.ofJson_obj_iff h
  independent _ _ h hothers hsame _ :=
    CallerInput.ofJson_obj_congr h hothers hsame
  ports _ := CallerInput.exists_ofJson_port_iff
  lists _ h _ hperm _ := CallerInput.ofJson_arr_iff_of_perm h hperm
  texts :=
    ⟨fun _ h _ => CallerInput.ofText_obj h, fun _ h _ =>
      CallerInput.ofText_arr h⟩
  requests request :=
    ⟨rfl, request.toInput.ofJson_toJson, request.toInput.ofText_toJson⟩

end ClusterGate
