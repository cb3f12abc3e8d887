import ClusterGate.Proofs.Api.Routes

/-!
# The entry of a variant

A variant carries one `api` attribute and no data. Its options give the entry
of the variant (`VariantDecl.described`): the wire name, which is the one of the
identifier unless there is another one, and the route. `VariantDecl.WellFormed`
and `VariantDecl.OwnFault` tell which variants have an entry and what is
wrong with the others, whatever the other variants are.
-/

namespace ClusterGate

namespace VariantDecl

/-- The `api` attributes; others are ignored. -/
def apiAttributes (variant : VariantDecl) : List AttributeDecl :=
  variant.attributes.filter AttributeDecl.isApi

/-- The options that a variant is given. -/
def given (variant : VariantDecl) : List OptionDecl :=
  variant.apiAttributes.flatMap AttributeDecl.options

def IsBlank (variant : VariantDecl) : Prop :=
  "blank" ∈ variant.given.map OptionDecl.name

instance : DecidablePred IsBlank := fun _ => inferInstanceAs (Decidable (_ ∈ _))

/-- The path that a variant is given. -/
def path? (variant : VariantDecl) : Option String :=
  textOf? variant.given "path"

/-- The explicit wire name, or else that of the identifier. -/
def wireName (variant : VariantDecl) : String :=
  (textOf? variant.given "name").getD (WireName.ofIdent variant.ident)

/-- The entry that a variant describes. -/
def described (variant : VariantDecl) : Api :=
  ⟨variant.ident, variant.wireName, routeOf variant.given⟩

/-- Only one `api` attribute, with options that can be read. -/
def Annotated (variant : VariantDecl) : Prop :=
  ∃ decl, variant.apiAttributes = [decl] ∧ decl.Readable

structure WellFormed (variant : VariantDecl) : Prop where
  unit : variant.payload = .unit
  annotated : variant.Annotated
  fitting : Fitting variant.given

/-- What is wrong with the `api` attributes of a variant. -/
inductive AttributeFault (variant : VariantDecl) : DeclError → Prop
  | missing (hnone : variant.apiAttributes = []) :
      AttributeFault variant .missingAttribute
  | first {decl : AttributeDecl} {rest : List AttributeDecl} {e : DeclError}
      (hfirst : variant.apiAttributes = decl :: rest) (hfault : decl.Fault e) :
      AttributeFault variant e
  | second {decl other : AttributeDecl} {rest : List AttributeDecl}
      (hmany : variant.apiAttributes = decl :: other :: rest)
      (hread : decl.Readable) :
      AttributeFault variant .secondAttribute

/-- What is wrong with a variant, the others apart. -/
inductive OwnFault (variant : VariantDecl) : DeclError → Prop
  | payload (hpayload : variant.payload ≠ .unit) :
      OwnFault variant .variantWithPayload
  | attributes {e : DeclError} (hunit : variant.payload = .unit)
      (hfault : variant.AttributeFault e) : OwnFault variant e
  | route {e : DeclError} (hunit : variant.payload = .unit)
      (hannotated : variant.Annotated) (hfault : RouteFault variant.given e) :
      OwnFault variant e

variable {variant : VariantDecl}

theorem given_of_singleton {decl : AttributeDecl}
    (h : variant.apiAttributes = [decl]) :
    variant.given = decl.options := by
  rw [given, h, List.flatMap_singleton]

theorem Annotated.properOptions (h : variant.Annotated) :
    ProperOptions variant.given := by
  obtain ⟨decl, hone, hread⟩ := h
  rw [given_of_singleton hone]
  exact hread.properOptions

theorem not_annotated_of_many {decl other : AttributeDecl}
    {rest : List AttributeDecl}
    (h : variant.apiAttributes = decl :: other :: rest) :
    ¬ variant.Annotated := by
  rintro ⟨_, hone, -⟩
  rw [h] at hone
  cases hone

theorem options_eq (variant : VariantDecl) :
    variant.options =
      match variant.apiAttributes with
      | [] => .error .missingAttribute
      | [decl] => decl.read
      | decl :: _ => decl.read.bind fun _ => .error .secondAttribute := rfl

/-- The attributes are read up to the second one. -/
theorem verdict_options (variant : VariantDecl) :
    Verdict variant.options variant.Annotated
    (Options.ofDecls variant.given) variant.AttributeFault := by
  match hattrs : variant.apiAttributes with
  | [] =>
      rw [options_eq, hattrs]
      refine ⟨?_, ?_, .inr ⟨_, .missing hattrs⟩⟩
      · rintro ⟨decl, hone, -⟩
        rw [hattrs] at hone
        cases hone
      · intro e he
        cases he with
        | missing => rfl
        | first hfirst => cases hattrs.symm.trans hfirst
        | second hmany => cases hattrs.symm.trans hmany
  | [decl] =>
      rw [options_eq, hattrs, given_of_singleton hattrs]
      refine decl.verdict_read.congr ⟨fun hread => ⟨decl, hattrs, hread⟩, ?_⟩
        fun e => ⟨.first hattrs, ?_⟩
      · rintro ⟨decl', hone, hread⟩
        cases hattrs.symm.trans hone
        exact hread
      · intro he
        cases he with
        | missing hnone => cases hattrs.symm.trans hnone
        | first hfirst hfault =>
            cases hattrs.symm.trans hfirst
            exact hfault
        | second hmany => cases hattrs.symm.trans hmany
  | decl :: other :: rest =>
      rw [options_eq, hattrs]
      have hmany := not_annotated_of_many hattrs
      refine ⟨fun h => absurd h hmany, ?_, ?_⟩
      · intro e he
        cases he with
        | missing hnone => cases hattrs.symm.trans hnone
        | first hfirst hfault =>
            cases hattrs.symm.trans hfirst
            exact congrArg (Except.bind · _) (decl.verdict_read.fails hfault)
        | second hmany hread =>
            cases hattrs.symm.trans hmany
            exact congrArg (Except.bind · _) (decl.verdict_read.succeeds hread)
      · rcases decl.verdict_read.settled with hread | ⟨e, hfault⟩
        · exact .inr ⟨_, .second hattrs hread⟩
        · exact .inr ⟨e, .first hattrs hfault⟩

/-- **The entry of a variant.** It is there exactly for well-formed variants. -/
theorem verdict_entry (variant : VariantDecl) :
    Verdict variant.entry variant.WellFormed variant.described
      variant.OwnFault := by
  by_cases hunit : variant.payload = .unit
  · have hentry : variant.entry = (do
        let options ← variant.options
        let route ← options.route
        return ⟨variant.ident,
          options.name.getD (WireName.ofIdent variant.ident), route⟩) := by
      unfold VariantDecl.entry
      rw [hunit]
      rfl
    have hroute : variant.Annotated → Verdict (do
        let route ← (Options.ofDecls variant.given).route
        return ⟨variant.ident, variant.wireName, route⟩) (Fitting variant.given)
          variant.described
        (RouteFault variant.given) :=
      fun hannotated => (verdict_route hannotated.properOptions).map rfl
    rw [hentry]
    refine (variant.verdict_options.bind hroute).congr ?_ fun e => ?_
    · exact ⟨fun ⟨hannotated, hfit⟩ => ⟨hunit, hannotated, hfit⟩,
        fun h => ⟨h.annotated, h.fitting⟩⟩
    · constructor
      · rintro (hfault | ⟨hannotated, hfault⟩)
        · exact .attributes hunit hfault
        · exact .route hunit hannotated hfault
      · intro he
        cases he with
        | payload hpayload => exact absurd hunit hpayload
        | attributes _ hfault => exact .inl hfault
        | route _ hannotated hfault => exact .inr ⟨hannotated, hfault⟩
  · refine ⟨fun h => absurd h.unit hunit, ?_, .inr ⟨_, .payload hunit⟩⟩
    intro e he
    cases he with
    | payload =>
        unfold VariantDecl.entry
        rw [if_pos (bne_iff_ne.mpr hunit)]
        rfl
    | attributes h => exact absurd h hunit
    | route h => exact absurd h hunit

/-! ## What an entry says -/

/-- Only well-formed blank variants have no path. -/
theorem WellFormed.isBlank_iff (h : variant.WellFormed) :
    variant.IsBlank ↔ variant.path? = none := by
  refine ⟨h.fitting.path_eq_none, fun hnone => ?_⟩
  by_contra hblank
  obtain ⟨path, hpath, -⟩ := h.fitting.path hblank
  cases hpath.symm.trans hnone

theorem described_route_path (variant : VariantDecl) :
    variant.described.route.map Route.path = variant.path? := by
  rw [described, routeOf, Option.map_map]
  exact Option.map_id'

theorem WellFormed.isSentinel_described (h : variant.WellFormed) :
    variant.described.isSentinel = true ↔ variant.IsBlank := by
  rw [h.isBlank_iff, ← variant.described_route_path, Option.map_eq_none_iff,
    Api.isSentinel, Option.isNone_iff_eq_none]

end VariantDecl

end ClusterGate
