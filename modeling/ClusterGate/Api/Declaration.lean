import ClusterGate.Api.Basic
import ClusterGate.Api.WireName

/-!
# Declaring a set of APIs

A set of APIs is declared as an enumeration whose variants carry one `api`
attribute each, with options such as `path` and `path_params`.
`ItemDecl.derive` turns a declaration into the table of the set, or refuses
it for the first fault it meets: the item as a whole is checked first,
then one variant after the other, and last that some variant has a path.

Within a variant its payload comes first, then the attributes and their
options in the order in which they are written, then what the options say
together, and then whether the name and path are still free.
-/

namespace ClusterGate

/-! ## Declarations -/

/-- The value of an option. -/
inductive Literal where
  | text (value : String)
  | other
  deriving DecidableEq, Repr

/-- An option of an attribute, `name` or `name = value`. -/
structure OptionDecl where
  name : String
  value : Option Literal
  deriving DecidableEq, Repr

/-- The shape of an attribute: options in parentheses, nothing, or a value
after `=`. -/
inductive AttributeForm where
  | list (options : List OptionDecl)
  | bare
  | assigned
  deriving DecidableEq, Repr

structure AttributeDecl where
  name : String
  form : AttributeForm
  deriving DecidableEq, Repr

/-- What a variant carries. -/
inductive Payload where
  | unit
  | tuple
  | named
  deriving DecidableEq, Repr

structure VariantDecl where
  ident : String
  payload : Payload
  attributes : List AttributeDecl
  deriving DecidableEq, Repr

inductive ItemKind where
  | enumeration
  | record
  | union
  deriving DecidableEq, Repr

structure ItemDecl where
  kind : ItemKind
  generics : List String
  variants : List VariantDecl
  deriving DecidableEq, Repr

/-! ## Faults -/

/-- Why a declaration is refused. -/
inductive DeclError where
  | genericItem
  | notAnEnumeration
  | variantWithPayload
  | secondAttribute
  | bareAttribute
  | assignedAttribute
  | missingAttribute
  | expectedValue
  | expectedText
  | expectedSeparator
  | duplicateOption (name : String)
  | unknownOption (name : String)
  | unknownMode (mode : String)
  | blankWithRoute
  | missingPath
  | relativePath (option : String)
  | leadOutsidePath (lead path : String)
  | nameTaken (name holder : String)
  | secondBlank (holder : String)
  | pathTaken (path holder : String)
  | nothingRoutable
  deriving DecidableEq, Repr

def DeclError.message : DeclError → String
  | genericItem => "`ApiCatalog` cannot be derived for generic enums"
  | notAnEnumeration => "`ApiCatalog` can only be derived for enums"
  | variantWithPayload => "`ApiCatalog` variants cannot carry fields"
  | secondAttribute =>
    "multiple #[api] attributes specified on the same variant"
  | bareAttribute =>
    "expected options, e.g. #[api(path = \"/_cluster/health\")] or #[api(blank)]"
  | assignedAttribute => "name-value syntax is not supported for #[api]"
  | missingAttribute =>
    "missing #[api(...)] attribute; every variant needs `path = \"...\"` or `blank`"
  | expectedValue => "expected `=`"
  | expectedText => "expected string literal"
  | expectedSeparator => "expected `,`"
  | duplicateOption name => "duplicate api option `" ++ name ++ "`"
  | unknownOption name =>
    "unknown api option `" ++ name ++
      "`; expected one of `blank`, `path`, `prefix`, `suffix`, " ++
      "`path_params`, `name`"
  | unknownMode mode =>
    "unknown path_params mode `" ++ mode ++
      "`; expected `none`, `optional`, or `required`"
  | blankWithRoute =>
    "`blank` variants cannot declare `path`, `prefix`, `suffix`, or `path_params`"
  | missingPath =>
    "missing api option `path`; use #[api(blank)] for the unclassified variant"
  | relativePath option => "api `" ++ option ++ "` must start with `/`"
  | leadOutsidePath lead path =>
    "api `prefix` \"" ++ lead ++ "\" must be a prefix of `path` \"" ++
      path ++ "\""
  | nameTaken name holder =>
    "api name `" ++ name ++ "` is already used by `" ++ holder ++ "`"
  | secondBlank holder =>
    "only one `blank` variant is allowed; `" ++ holder ++ "` is already blank"
  | pathTaken path holder =>
    "api path \"" ++ path ++ "\" is already used by `" ++ holder ++ "`"
  | nothingRoutable =>
    "`ApiCatalog` needs at least one variant with #[api(path = \"...\")]"

/-! ## Options of one variant -/

/-- The options met so far. -/
structure Options where
  blank : Bool
  path : Option String
  lead : Option String
  trail : Option String
  params : Option ParamRule
  name : Option String
  deriving DecidableEq, Repr

/-- No option yet. -/
def Options.start : Options := ⟨false, none, none, none, none, none⟩

/-- The rule that a `path_params` mode names. -/
def ParamRule.ofMode (mode : String) : Except DeclError ParamRule :=
  match mode with
  | "none" => .ok .unsupported
  | "optional" => .ok .optional
  | "required" => .ok .required
  | _ => .error (.unknownMode mode)

namespace OptionDecl

/-- The text after `=`. -/
def text (o : OptionDecl) : Except DeclError String :=
  match o.value with
  | none => .error .expectedValue
  | some .other => .error .expectedText
  | some (.text value) => .ok value

/-- The name as faults show it; a name with several parts is not shown. -/
def shownName (o : OptionDecl) : String :=
  if o.name.toList.contains ':' then "?" else o.name

/-- Refuses an option that is already there. -/
def once {α : Type} (o : OptionDecl) (slot : Option α) :
    Except DeclError Unit :=
  if slot.isSome then .error (.duplicateOption o.name) else .ok ()

/-- Reads one option into those met before it. -/
def read (o : OptionDecl) (met : Options) : Except DeclError Options :=
  match o.name with
  | "blank" =>
    if met.blank then .error (.duplicateOption "blank")
    else if o.value.isSome then .error .expectedSeparator
    else .ok { met with blank := true }
  | "path" => do
    let value ← o.text
    o.once met.path
    return { met with path := some value }
  | "prefix" => do
    let value ← o.text
    o.once met.lead
    return { met with lead := some value }
  | "suffix" => do
    let value ← o.text
    o.once met.trail
    return { met with trail := some value }
  | "path_params" => do
    let rule ← ParamRule.ofMode (← o.text)
    o.once met.params
    return { met with params := some rule }
  | "name" => do
    let value ← o.text
    o.once met.name
    return { met with name := some value }
  | _ => .error (.unknownOption o.shownName)

end OptionDecl

/-- Reads the options of an attribute in order. -/
def AttributeDecl.read (decl : AttributeDecl) : Except DeclError Options :=
  match decl.form with
  | .list options => options.foldlM (fun met o => o.read met) Options.start
  | .bare => .error .bareAttribute
  | .assigned => .error .assignedAttribute

/-- Whether an attribute is about the set of APIs; all others are
ignored. -/
def AttributeDecl.isApi (decl : AttributeDecl) : Bool := decl.name == "api"

/-- The options of the only `api` attribute of a variant. -/
def VariantDecl.options (variant : VariantDecl) : Except DeclError Options :=
  match variant.attributes.filter AttributeDecl.isApi with
  | [] => .error .missingAttribute
  | [decl] => decl.read
  | decl :: _ => decl.read.bind fun _ => .error .secondAttribute

/-- Refuses a path that does not start at the root. -/
def requireAbsolute (option path : String) : Except DeclError Unit :=
  if "/".toList.isPrefixOf path.toList then .ok ()
  else .error (.relativePath option)

/-- The route that options describe; none for a blank variant. -/
def Options.route (o : Options) : Except DeclError (Option Route) := do
  if o.blank then
    if o.path.isSome || o.lead.isSome || o.trail.isSome || o.params.isSome then
      throw .blankWithRoute
    return none
  match o.path with
  | none => throw .missingPath
  | some path =>
    requireAbsolute "path" path
    match o.lead with
    | none => pure ()
    | some lead =>
      requireAbsolute "prefix" lead
      if !lead.toList.isPrefixOf path.toList then
        throw (.leadOutsidePath lead path)
    return some
      { path
        lead := o.lead.getD path
        trail := o.trail.getD ""
        params := o.params.getD .unsupported }

/-- The entry that a variant describes, the other variants apart. -/
def VariantDecl.entry (variant : VariantDecl) : Except DeclError Api := do
  if variant.payload != .unit then throw .variantWithPayload
  let options ← variant.options
  let route ← options.route
  return { ident := variant.ident
           name := options.name.getD (WireName.ofIdent variant.ident)
           route }

/-! ## The whole set -/

/-- Checks that an entry goes with those before it: its name and its path
are free, and it is the first one without route. -/
def Api.checkAgainst (before : List Api) (api : Api) : Except DeclError Unit :=
  match before.find? fun b => b.name == api.name with
  | some holder => .error (.nameTaken api.name holder.ident)
  | none =>
    match api.route with
    | none =>
      match before.find? Api.isSentinel with
      | some holder => .error (.secondBlank holder.ident)
      | none => .ok ()
    | some route =>
      match before.find? fun b => b.route.any fun r => r.path == route.path with
      | some holder => .error (.pathTaken route.path holder.ident)
      | none => .ok ()

/-- Reads the variants in order. -/
def readVariants (variants : List VariantDecl) : Except DeclError (List Api) :=
  variants.foldlM (fun before variant => do
    let api ← variant.entry
    api.checkAgainst before
    return before ++ [api]) []

/-- The table of a declared set. -/
def ItemDecl.derive (item : ItemDecl) : Except DeclError ApiTable := do
  if !item.generics.isEmpty then throw .genericItem
  if item.kind != .enumeration then throw .notAnEnumeration
  let apis ← readVariants item.variants
  if apis.all Api.isSentinel then throw .nothingRoutable
  return ⟨apis⟩

end ClusterGate
