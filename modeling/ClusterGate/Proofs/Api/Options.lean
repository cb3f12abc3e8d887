import ClusterGate.Api.Declaration
import ClusterGate.Proofs.Verdict

/-!
# Options of a variant

Which options of an attribute can be read, one after the other, and what
has been read of them in the end. An option is at fault by itself, or since
one of the same name stands before it (`OptionDecl.Fault`). Options without
fault are proper ones of different names (`ProperOptions`), and for each
name the text is kept that is given with it (`Options.ofDecls`).
-/

namespace ClusterGate

/-! ## Single options -/

namespace OptionDecl

/-- The options that are given with a text. -/
def textNames : List String :=
  ["path", "prefix", "suffix", "path_params", "name"]

/-- The texts that `path_params` can be given with. -/
def modes : List String := ["none", "optional", "required"]

/-- The text of an option, if it has one. -/
def text? (o : OptionDecl) : Option String :=
  match o.value with
  | some (.text value) => some value
  | _ => none

/-- An option that can be read: `blank` by itself, and each of the others with
a text. -/
def Proper (o : OptionDecl) : Prop :=
  (o.name = "blank" ∧ o.value = none) ∨
    o.name ∈ textNames ∧
      ∃ text, o.value = some (.text text) ∧
        (o.name = "path_params" → text ∈ modes)

/-- What is wrong with an option, given those before it. -/
inductive Fault (before : List OptionDecl) (o : OptionDecl) : DeclError → Prop
  | blankAgain (hname : o.name = "blank") (hagain : "blank" ∈ before.map name) :
      Fault before o (.duplicateOption "blank")
  | blankValue (hname : o.name = "blank") (hnew : "blank" ∉ before.map name)
      (hvalue : o.value ≠ none) : Fault before o .expectedSeparator
  | noValue (hname : o.name ∈ textNames) (hvalue : o.value = none) :
      Fault before o .expectedValue
  | noText (hname : o.name ∈ textNames) (hvalue : o.value = some .other) :
      Fault before o .expectedText
  | mode {mode : String} (hname : o.name = "path_params")
      (hvalue : o.value = some (.text mode)) (hmode : mode ∉ modes) :
      Fault before o (.unknownMode mode)
  | again {text : String} (hname : o.name ∈ textNames)
      (hvalue : o.value = some (.text text))
      (hmode : o.name = "path_params" → text ∈ modes)
      (hagain : o.name ∈ before.map name) :
      Fault before o (.duplicateOption o.name)
  | unknown (hblank : o.name ≠ "blank") (hname : o.name ∉ textNames) :
      Fault before o (.unknownOption o.shownName)

variable {before : List OptionDecl} {o : OptionDecl}

theorem blank_notMem_textNames : "blank" ∉ textNames := by decide

/-- An option is a proper one with a new name, or it is at fault. -/
theorem proper_or_fault (before : List OptionDecl) (o : OptionDecl) :
    (o.Proper ∧ o.name ∉ before.map name) ∨ ∃ e, Fault before o e := by
  by_cases hblank : o.name = "blank"
  · by_cases hagain : "blank" ∈ before.map name
    · exact .inr ⟨_, .blankAgain hblank hagain⟩
    · by_cases hvalue : o.value = none
      · exact .inl ⟨.inl ⟨hblank, hvalue⟩, hblank ▸ hagain⟩
      · exact .inr ⟨_, .blankValue hblank hagain hvalue⟩
  · by_cases hname : o.name ∈ textNames
    · match hvalue : o.value with
      | none => exact .inr ⟨_, .noValue hname hvalue⟩
      | some .other => exact .inr ⟨_, .noText hname hvalue⟩
      | some (.text text) =>
          by_cases hmode : o.name = "path_params" → text ∈ modes
          · by_cases hagain : o.name ∈ before.map name
            · exact .inr ⟨_, .again hname hvalue hmode hagain⟩
            · exact .inl ⟨.inr ⟨hname, text, hvalue, hmode⟩, hagain⟩
          · obtain ⟨hparams, hmem⟩ := Classical.not_imp.mp hmode
            exact .inr ⟨_, .mode hparams hvalue hmem⟩
    · exact .inr ⟨_, .unknown hblank hname⟩

end OptionDecl

/-! ## The options of an attribute -/

/-- The text that an option is given with among some. -/
def textOf? (options : List OptionDecl) (name : String) : Option String :=
  options.findSome? fun o => if o.name = name then o.text? else none

/-- What is read of options without fault. -/
def Options.ofDecls (options : List OptionDecl) : Options where
  blank := options.any fun o => o.name == "blank"
  path := textOf? options "path"
  lead := textOf? options "prefix"
  trail := textOf? options "suffix"
  params := (textOf? options "path_params").bind fun mode =>
    (ParamRule.ofMode mode).toOption
  name := textOf? options "name"

section

variable {done : List OptionDecl} {o : OptionDecl} {name : String}

theorem textOf?_snoc :
    textOf? (done ++ [o]) name =
      (textOf? done name).or (if o.name = name then o.text? else none) := by
  rw [textOf?, List.findSome?_append, textOf?, List.findSome?_singleton]

/-- Where all options are proper ones, those that come with a text can be
found by it. -/
theorem isSome_textOf?_iff (hproper : ∀ o ∈ done, o.Proper)
    (hname : name ∈ OptionDecl.textNames) :
    (textOf? done name).isSome = true ↔ name ∈ done.map OptionDecl.name := by
  rw [textOf?, List.findSome?_isSome_iff, List.mem_map]
  refine exists_congr fun o => and_congr_right fun ho => ?_
  by_cases hsame : o.name = name
  · subst hsame
    rcases hproper o ho with ⟨hblank, -⟩ | ⟨-, text, hvalue, -⟩
    · exact absurd (hblank ▸ hname) OptionDecl.blank_notMem_textNames
    · simp [OptionDecl.text?, hvalue]
  · simp [hsame]

theorem exists_of_textOf?_eq_some {text : String}
    (h : textOf? done name = some text) :
    ∃ o ∈ done, o.name = name ∧ o.value = some (.text text) := by
  obtain ⟨o, ho, hfound⟩ := List.exists_of_findSome?_eq_some h
  rw [Option.ite_none_right_eq_some] at hfound
  obtain ⟨hname, htext⟩ := hfound
  refine ⟨o, ho, hname, ?_⟩
  unfold OptionDecl.text? at htext
  split at htext
  · next hvalue => rw [hvalue, Option.some.inj htext]
  · cases htext

/-! ## Reading an option -/

namespace ParamRule

theorem exists_ofMode {mode : String} (h : mode ∈ OptionDecl.modes) :
    ∃ rule, ParamRule.ofMode mode = .ok rule := by
  simp only [OptionDecl.modes, List.mem_cons, List.not_mem_nil, or_false] at h
  rcases h with rfl | rfl | rfl
  · exact ⟨.unsupported, rfl⟩
  · exact ⟨.optional, rfl⟩
  · exact ⟨.required, rfl⟩

theorem ofMode_of_notMem {mode : String} (h : mode ∉ OptionDecl.modes) :
    ParamRule.ofMode mode = .error (.unknownMode mode) := by
  unfold ParamRule.ofMode
  split
  · exact absurd (by decide) h
  · exact absurd (by decide) h
  · exact absurd (by decide) h
  · rfl

end ParamRule

/-- The mode of proper options can be read. -/
theorem isSome_params_ofDecls_iff (hproper : ∀ o ∈ done, o.Proper) :
    (Options.ofDecls done).params.isSome = true ↔
      "path_params" ∈ done.map OptionDecl.name := by
  rw [← isSome_textOf?_iff hproper (by decide), Options.ofDecls]
  cases hmode : textOf? done "path_params" with
  | none => simp
  | some mode =>
      obtain ⟨o, ho, hname, hvalue⟩ := exists_of_textOf?_eq_some hmode
      rcases hproper o ho with ⟨hblank, -⟩ | ⟨-, text, htext, hmem⟩
      · exact absurd (hname.symm.trans hblank) (by decide)
      · obtain rfl : text = mode := by simpa [htext] using hvalue
        obtain ⟨rule, hrule⟩ := ParamRule.exists_ofMode (hmem hname)
        simp [hrule, Except.toOption]

theorem blank_ofDecls_iff :
    (Options.ofDecls done).blank = true ↔
      "blank" ∈ done.map OptionDecl.name := by
  simp [Options.ofDecls]

namespace OptionDecl

variable {met : Options} {e : DeclError}

/-! ### Options that keep their text -/

/-- Where an option keeps the text that it is given with. Only the text of
`path_params` is not kept as it is. -/
inductive Slot where
  | path
  | lead
  | trail
  | wireName

namespace Slot

/-- The name of the options that are kept there. -/
def optionName : Slot → String
  | path => "path"
  | lead => "prefix"
  | trail => "suffix"
  | wireName => "name"

/-- The text that is kept there among the options met so far. -/
def kept : Slot → Options → Option String
  | path => Options.path
  | lead => Options.lead
  | trail => Options.trail
  | wireName => Options.name

/-- The options met so far with a text kept there. -/
def fill (text : String) : Slot → Options → Options
  | path, met => { met with path := some text }
  | lead, met => { met with lead := some text }
  | trail, met => { met with trail := some text }
  | wireName, met => { met with name := some text }

variable {slot : Slot}

theorem kept_ofDecls :
    slot.kept (Options.ofDecls done) = textOf? done slot.optionName := by
  cases slot <;> rfl

/-- Such an option fills its own slot, and no other one. -/
theorem fill_ofDecls {text : String} (hname : o.name = slot.optionName)
    (htext : o.text? = some text) (hnew : textOf? done slot.optionName = none) :
    slot.fill text (Options.ofDecls done) = Options.ofDecls (done ++ [o]) := by
  cases slot <;> simp only [optionName] at hname hnew <;>
    simp [fill, Options.ofDecls, textOf?_snoc, hname, htext, hnew]

theorem read_eq (hname : o.name = slot.optionName) : o.read met = (do
    let text ← o.text
    o.once (slot.kept met)
    return slot.fill text met) := by
  cases slot <;> simp only [read, hname, optionName] <;> rfl

end Slot

theorem mem_textNames {name : String} :
    name ∈ textNames ↔
      name = "path_params" ∨ ∃ slot : Slot, name = slot.optionName := by
  constructor
  · intro h
    simp only [textNames, List.mem_cons, List.not_mem_nil, or_false] at h
    rcases h with rfl | rfl | rfl | rfl | rfl
    · exact .inr ⟨.path, rfl⟩
    · exact .inr ⟨.lead, rfl⟩
    · exact .inr ⟨.trail, rfl⟩
    · exact .inl rfl
    · exact .inr ⟨.wireName, rfl⟩
  · rintro (rfl | ⟨slot, rfl⟩)
    · decide
    · cases slot <;> decide

theorem read_of_text_eq_error (hname : o.name ∈ textNames)
    (h : o.text = .error e) :
    o.read met = .error e := by
  rcases mem_textNames.mp hname with hn | ⟨slot, hn⟩
  · simp only [read, hn, h, error_bind]
  · rw [slot.read_eq hn, h, error_bind]

theorem text_of_value {text : String} (h : o.value = some (.text text)) :
    o.text = .ok text := by
  rw [OptionDecl.text, h]

theorem once_of_isSome {α : Type} {slot : Option α} (h : slot.isSome = true) :
    o.once slot = .error (.duplicateOption o.name) := by
  rw [once, h, if_pos rfl]

theorem once_of_not_isSome {α : Type} {slot : Option α}
    (h : ¬ slot.isSome = true) :
    o.once slot = .ok () := by
  rw [once, if_neg h]

theorem fails_read (hproper : ∀ o ∈ done, o.Proper) (h : Fault done o e) :
    o.read (Options.ofDecls done) = .error e := by
  cases h with
  | blankAgain hname hagain =>
      have hmet := blank_ofDecls_iff.mpr hagain
      simp only [read, hname, hmet, if_true]
  | blankValue hname hnew hvalue =>
      have hmet := mt blank_ofDecls_iff.mp hnew
      have hsome : o.value.isSome = true := Option.isSome_iff_ne_none.mpr hvalue
      simp only [read, hname, hmet, hsome, if_true]
      rfl
  | noValue hname hvalue =>
      exact read_of_text_eq_error hname (by rw [OptionDecl.text, hvalue])
  | noText hname hvalue =>
      exact read_of_text_eq_error hname (by rw [OptionDecl.text, hvalue])
  | mode hname hvalue hmode =>
      simp only [read, hname, text_of_value hvalue,
        ParamRule.ofMode_of_notMem hmode, ok_bind, error_bind]
  | @again text hname hvalue hmode hagain =>
      -- Each name has a slot of its own, and only that of the option has to be
      -- filled.
      rcases mem_textNames.mp hname with hn | ⟨slot, hn⟩
      · have hslot := (isSome_params_ofDecls_iff hproper).mpr (hn ▸ hagain)
        obtain ⟨rule, hrule⟩ := ParamRule.exists_ofMode (hmode hn)
        simp only [read, hn, text_of_value hvalue, hrule,
          once_of_isSome hslot, ok_bind, error_bind]
      · have hslot := (isSome_textOf?_iff hproper hname).mpr hagain
        rw [hn, ← slot.kept_ofDecls] at hslot
        rw [slot.read_eq hn, text_of_value hvalue, ok_bind,
          once_of_isSome hslot, error_bind]
  | unknown hblank hname =>
      simp only [textNames, List.mem_cons, List.not_mem_nil, or_false, not_or]
        at hname
      obtain ⟨hpath, hlead, htrail, hparams, hown⟩ := hname
      unfold read
      split
      · contradiction
      · contradiction
      · contradiction
      · contradiction
      · contradiction
      · contradiction
      · rfl

/-- A proper option with a new name is added to what has been read. -/
theorem read_ofDecls (hdone : ∀ o ∈ done, o.Proper) (hproper : o.Proper)
    (hnew : o.name ∉ done.map OptionDecl.name) :
    o.read (Options.ofDecls done) = .ok (Options.ofDecls (done ++ [o])) := by
  rcases hproper with ⟨hn, hvalue⟩ | ⟨hname, text, hvalue, hmode⟩
  · have hmet := mt blank_ofDecls_iff.mp (hn ▸ hnew)
    simp only [read, hn, hmet, hvalue]
    simp [Options.ofDecls, textOf?_snoc, hn]
  · have hmet : textOf? done o.name = none :=
      Option.not_isSome_iff_eq_none.mp
        (mt (isSome_textOf?_iff hdone hname).mp hnew)
    have htext : o.text? = some text := by rw [text?, hvalue]
    rcases mem_textNames.mp hname with hn | ⟨slot, hn⟩
    · have hslot := mt (isSome_params_ofDecls_iff hdone).mp (hn ▸ hnew)
      obtain ⟨rule, hrule⟩ := ParamRule.exists_ofMode (hmode hn)
      simp only [read, hn, text_of_value hvalue, hrule,
        once_of_not_isSome hslot, ok_bind]
      rw [hn] at hmet
      simp [Options.ofDecls, textOf?_snoc, hn, htext, hmet, hrule,
        Except.toOption]
      rfl
    · rw [hn] at hmet
      have hslot : ¬ (slot.kept (Options.ofDecls done)).isSome = true := by
        simp [Slot.kept_ofDecls, hmet]
      rw [slot.read_eq hn, text_of_value hvalue, ok_bind,
        once_of_not_isSome hslot, ok_bind, slot.fill_ofDecls hn htext hmet]
      rfl

theorem verdict_read (hdone : ∀ o ∈ done, o.Proper) :
    Verdict (o.read (Options.ofDecls done)) (o.Proper ∧
      o.name ∉ done.map OptionDecl.name)
      (Options.ofDecls (done ++ [o])) (Fault done o) where
  succeeds h := read_ofDecls hdone h.1 h.2
  fails h := fails_read hdone h
  settled := proper_or_fault done o

end OptionDecl

end

/-- Proper options of different names. -/
structure ProperOptions (options : List OptionDecl) : Prop where
  proper : ∀ o ∈ options, o.Proper
  once : (options.map OptionDecl.name).Nodup

theorem pass_read :
    Pass (fun met o => OptionDecl.read o met) Options.ofDecls ProperOptions
    (fun done o => o.Proper ∧ o.name ∉ done.map OptionDecl.name)
      OptionDecl.Fault where
  clean_nil := ⟨List.forall_mem_nil _, List.nodup_nil⟩
  clean_snoc {done o} := by
    constructor
    · rintro ⟨hproper, honce⟩
      obtain ⟨hdone, ho⟩ := List.forall_mem_append.mp hproper
      obtain ⟨hold, hnew⟩ := nodup_map_snoc.mp honce
      exact ⟨⟨hdone, hold⟩, List.forall_mem_singleton.mp ho, hnew⟩
    · rintro ⟨⟨hdone, hold⟩, ho, hnew⟩
      exact ⟨List.forall_mem_append.mpr
        ⟨hdone, List.forall_mem_singleton.mpr ho⟩,
          nodup_map_snoc.mpr ⟨hold, hnew⟩⟩
  verdict_step hclean := OptionDecl.verdict_read hclean.proper

/-! ## Attributes -/

namespace AttributeDecl

/-- The options of an attribute in list form. -/
def options (decl : AttributeDecl) : List OptionDecl :=
  match decl.form with
  | .list options => options
  | _ => []

/-- An attribute in list form whose options can be read. -/
def Readable (decl : AttributeDecl) : Prop :=
  ∃ options, decl.form = .list options ∧ ProperOptions options

/-- What is wrong with an attribute. -/
inductive Fault (decl : AttributeDecl) : DeclError → Prop
  | bare (hform : decl.form = .bare) : Fault decl .bareAttribute
  | assigned (hform : decl.form = .assigned) : Fault decl .assignedAttribute
  | option {options : List OptionDecl} {e : DeclError}
      (hform : decl.form = .list options)
      (hfault : FirstFault OptionDecl.Fault options e) : Fault decl e

theorem Readable.properOptions {decl : AttributeDecl} (h : decl.Readable) :
    ProperOptions decl.options := by
  obtain ⟨options, hform, hproper⟩ := h
  rwa [AttributeDecl.options, hform]

theorem verdict_read (decl : AttributeDecl) :
    Verdict decl.read decl.Readable (Options.ofDecls decl.options)
      decl.Fault := by
  obtain ⟨name, form⟩ := decl
  cases form with
  | list options =>
      refine (pass_read.verdict options).congr ⟨fun h => ⟨options, rfl, h⟩, ?_⟩
        fun e => ⟨.option rfl, ?_⟩
      · rintro ⟨_, ⟨⟩, h⟩
        exact h
      · intro hfault
        cases hfault with
        | bare hform => cases hform
        | assigned hform => cases hform
        | option hform hfault =>
            cases hform
            exact hfault
  | bare => exact ⟨nofun, fun | .bare _ => rfl, .inr ⟨_, .bare rfl⟩⟩
  | assigned => exact ⟨nofun, fun | .assigned _ => rfl, .inr ⟨_, .assigned rfl⟩⟩

end AttributeDecl

end ClusterGate
