import Mathlib.Data.List.Basic
import MicroserviceCommon.System.ConfigReader

/-!
# A well-formed configuration can throw

Only `read_json` is inside of the `try`. A section that is missing and a value that cannot be
converted are exceptions, which nobody catches.

* `parseBase_cases` — what `parseBase` does with each kind of content
* `config_parsing_iff` — it returns, and `false` for the right contents, exactly when the content is
  no JSON, or `system` can be read and a feature is unknown or all other sections can be read
* `empty_object_throws` — the content `{}`
-/

namespace MicroserviceCommon

/-! ## Calls that return -/

/-- The call does not throw. -/
def Returns {ε α : Type*} (x : Except ε α) : Prop := ∃ a, x = .ok a

section Returns

variable {ε α β : Type} {x : Except ε α} {f : α → Except ε β}

theorem returns_ok (a : α) : Returns (.ok a : Except ε α) := ⟨a, rfl⟩

theorem not_returns_error (e : ε) : ¬ Returns (.error e : Except ε α) := by
  rintro ⟨a, h⟩
  cases h

/-- A sequence of calls returns what the second one does. -/
theorem bind_eq_ok {b : β} : (x >>= f) = .ok b ↔ ∃ a, x = .ok a ∧ f a = .ok b := by
  cases x with
  | error e =>
    refine iff_of_false (fun h => by cases h) ?_
    rintro ⟨a, h, _⟩
    cases h
  | ok a =>
    constructor
    · exact fun h => ⟨a, rfl, h⟩
    · rintro ⟨a', ha, h⟩
      cases ha
      exact h

theorem returns_bind : Returns (x >>= f) ↔ ∃ a, x = .ok a ∧ Returns (f a) := by
  unfold Returns
  simp only [bind_eq_ok]
  rw [exists_comm]
  simp only [exists_and_left]

/-- What comes after does not depend on the value. -/
theorem returns_bind_of_const {P : Prop} (h : ∀ a, Returns (f a) ↔ P) :
    Returns (x >>= f) ↔ Returns x ∧ P := by
  rw [returns_bind]
  simp only [h]
  exact exists_and_right

theorem returns_map {g : α → β} : Returns (x.map g) ↔ Returns x := by
  cases x with
  | error e => exact iff_of_false (not_returns_error e) (not_returns_error e)
  | ok a => exact iff_of_true (returns_ok (g a)) (returns_ok a)

theorem eq_error_of_not_returns (h : ¬ Returns x) : ∃ e, x = .error e := by
  cases x with
  | error e => exact ⟨e, rfl⟩
  | ok a => exact absurd (returns_ok a) h

end Returns

/-! ## Parameters -/

/-- A value that is present can be converted. -/
def Parameter.Converts (lib : ConfigLibrary) (keyLocation : Ptree) : Parameter → Prop
  | int key _ _ => ∀ child, keyLocation.find key = some child → (lib.getInt child.data).isSome
  | bool key _ _ => ∀ child, keyLocation.find key = some child → (lib.getBool child.data).isSome
  | string _ _ _ => True

/-- The parameter is not the mask of the features. -/
def Parameter.KeepsFeatures : Parameter → Prop
  | int _ _ set => ∀ c v, (set c v).systemServerFeatures = c.systemServerFeatures
  | bool _ _ set => ∀ c v, (set c v).systemServerFeatures = c.systemServerFeatures
  | string _ _ set => ∀ c v, (set c v).systemServerFeatures = c.systemServerFeatures

section Parameters

variable {lib : ConfigLibrary} {keyLocation : Ptree} {parameters : List Parameter}

theorem returns_setParameterNew {T : Type} {convert : String → Option T} {key : String}
    {defaultVal : T} : Returns (setParameterNew convert keyLocation key defaultVal) ↔
      ∀ child, keyLocation.find key = some child → (convert child.data).isSome := by
  unfold setParameterNew
  cases keyLocation.find key with
  | none => exact iff_of_true (returns_ok _) fun _ h => by cases h
  | some child =>
    simp only [Option.some.injEq, forall_eq']
    cases convert child.data with
    | none => exact iff_of_false (not_returns_error _) Bool.false_ne_true
    | some value => exact iff_of_true (returns_ok _) rfl

theorem returns_read (parsed : ParsedConfig) (p : Parameter) :
    Returns (p.read lib keyLocation parsed) ↔ p.Converts lib keyLocation := by
  cases p with
  | int key defaultVal set => exact returns_map.trans returns_setParameterNew
  | bool key defaultVal set => exact returns_map.trans returns_setParameterNew
  | string key defaultVal set =>
    exact iff_of_true (returns_map.mpr (returns_setParameterNew.mpr fun _ _ => rfl)) trivial

/-- **A section can be read when all of its values can be converted.** -/
theorem returns_readParameters (parsed : ParsedConfig) :
    Returns (readParameters lib keyLocation parameters parsed) ↔
      ∀ p ∈ parameters, p.Converts lib keyLocation := by
  unfold readParameters
  induction parameters generalizing parsed with
  | nil => exact iff_of_true (returns_ok parsed) fun _ h => by cases h
  | cons p parameters ih =>
    rw [List.foldlM_cons, List.forall_mem_cons, returns_bind_of_const ih, returns_read]

theorem read_keepsFeatures {p : Parameter} (hp : p.KeepsFeatures) {parsed parsed' : ParsedConfig}
    (h : p.read lib keyLocation parsed = .ok parsed') :
    parsed'.systemServerFeatures = parsed.systemServerFeatures := by
  have hmap {T : Type} {x : Except PtreeError T} {set : ParsedConfig → T → ParsedConfig}
      (hset : ∀ c v, (set c v).systemServerFeatures = c.systemServerFeatures)
      (hx : x.map (set parsed) = .ok parsed') :
      parsed'.systemServerFeatures = parsed.systemServerFeatures := by
    cases x with
    | error e => cases hx
    | ok value =>
      cases hx
      exact hset parsed value
  cases p with
  | int key defaultVal set => exact hmap hp h
  | bool key defaultVal set => exact hmap hp h
  | string key defaultVal set => exact hmap hp h

theorem readParameters_keepsFeatures (hparameters : ∀ p ∈ parameters, p.KeepsFeatures)
    {parsed parsed' : ParsedConfig}
    (h : readParameters lib keyLocation parameters parsed = .ok parsed') :
    parsed'.systemServerFeatures = parsed.systemServerFeatures := by
  unfold readParameters at h
  induction parameters generalizing parsed with
  | nil =>
    cases h
    rfl
  | cons p parameters ih =>
    rw [List.foldlM_cons, bind_eq_ok] at h
    obtain ⟨next, hread, hrest⟩ := h
    rw [ih (fun q hq => hparameters q (List.mem_cons_of_mem _ hq)) hrest]
    exact read_keepsFeatures (hparameters p List.mem_cons_self) hread

end Parameters

/-! ## Sections -/

/-- The section is there, and its values can be converted. -/
def SectionReadable (lib : ConfigLibrary) (s : Option Ptree × List Parameter) : Prop :=
  ∃ keyLocation, s.1 = some keyLocation ∧ ∀ p ∈ s.2, p.Converts lib keyLocation

/-- `system` and its lines. -/
def systemSection (config : Ptree) : Option Ptree × List Parameter :=
  (config.find "system", systemParameters)

/-- The other sections and their lines. -/
def otherSections (config : Ptree) : List (Option Ptree × List Parameter) :=
  let communication := config.find "communication"
  [(communication, []),
    (communication.bind fun c => c.find "http_server", httpServerParameters),
    (communication.bind fun c => c.find "websocket_server", websocketServerParameters),
    (communication.bind fun c => c.find "amqp_client", amqpClientParameters),
    (communication.bind fun c => c.find "objrepr_service_bus", objreprBusParameters),
    (config.find "objrepr", objreprParameters),
    (config.find "mongo_db", mongoDbParameters)]

section Sections

variable {lib : ConfigLibrary} {config : Ptree}

theorem getChild_eq_ok {path : String} {child : Ptree} :
    getChild config path = .ok child ↔ config.find path = some child := by
  unfold getChild
  cases config.find path with
  | none => exact iff_of_false (fun h => by cases h) fun h => by cases h
  | some found => rw [Except.ok.injEq, Option.some.injEq]

/-- One section in front of the others. -/
theorem returns_section {path : String} {parameters : List Parameter} {parsed : ParsedConfig}
    {rest : ParsedConfig → Except PtreeError ParsedConfig} {P : Prop}
    (h : ∀ parsed, Returns (rest parsed) ↔ P) :
    Returns (getChild config path >>= fun keyLocation =>
      readParameters lib keyLocation parameters parsed >>= rest) ↔
      SectionReadable lib (config.find path, parameters) ∧ P := by
  rw [returns_bind]
  simp only [getChild_eq_ok, returns_bind_of_const h, returns_readParameters]
  unfold SectionReadable
  constructor
  · rintro ⟨keyLocation, hfind, hall, hp⟩
    exact ⟨⟨keyLocation, hfind, hall⟩, hp⟩
  · rintro ⟨⟨keyLocation, hfind, hall⟩, hp⟩
    exact ⟨keyLocation, hfind, hall, hp⟩

/-- The last section. -/
theorem returns_lastSection {path : String} {parameters : List Parameter}
    {parsed : ParsedConfig} :
    Returns (getChild config path >>= fun keyLocation =>
      readParameters lib keyLocation parameters parsed) ↔
      SectionReadable lib (config.find path, parameters) := by
  rw [returns_bind]
  simp only [getChild_eq_ok, returns_readParameters]
  exact Iff.rfl

/-- **The sections behind `system` are read exactly when each of them can be.** -/
theorem returns_parseSections (parsed : ParsedConfig) :
    Returns (parseSections lib config parsed) ↔
      ∀ s ∈ otherSections config, SectionReadable lib s := by
  unfold parseSections otherSections
  simp only [List.forall_mem_cons, List.not_mem_nil, false_imp_iff, implies_true, and_true]
  rw [returns_bind]
  simp only [getChild_eq_ok]
  cases hcommunication : config.find "communication" with
  | none =>
    refine iff_of_false ?_ ?_
    · rintro ⟨c, hc, _⟩
      cases hc
    · rintro ⟨⟨c, hc, _⟩, _⟩
      cases hc
  | some communication =>
    have hfound : SectionReadable lib (some communication, []) :=
      ⟨communication, rfl, fun _ h => by cases h⟩
    simp only [Option.some.injEq, exists_eq_left', Option.bind_some, hfound, true_and]
    exact returns_section fun _ => returns_section fun _ => returns_section fun _ =>
      returns_section fun _ => returns_section fun _ => returns_lastSection

theorem systemParameters_keepFeatures : ∀ p ∈ systemParameters, p.KeepsFeatures := by
  simp [systemParameters, Parameter.KeepsFeatures]

/-- No line of the other sections is for the features. -/
theorem otherSections_keepFeatures :
    ∀ s ∈ otherSections config, ∀ p ∈ s.2, p.KeepsFeatures := by
  simp [otherSections, httpServerParameters, websocketServerParameters, amqpClientParameters,
    objreprBusParameters, objreprParameters, mongoDbParameters, Parameter.KeepsFeatures]

theorem section_keepsFeatures {path : String} {parameters : List Parameter}
    {rest : ParsedConfig → Except PtreeError ParsedConfig}
    (hparameters : ∀ p ∈ parameters, p.KeepsFeatures)
    (hrest : ∀ parsed parsed', rest parsed = .ok parsed' →
      parsed'.systemServerFeatures = parsed.systemServerFeatures)
    (parsed parsed' : ParsedConfig)
    (h : (getChild config path >>= fun keyLocation =>
      readParameters lib keyLocation parameters parsed >>= rest) = .ok parsed') :
    parsed'.systemServerFeatures = parsed.systemServerFeatures := by
  obtain ⟨keyLocation, _, h⟩ := bind_eq_ok.mp h
  obtain ⟨next, hread, h⟩ := bind_eq_ok.mp h
  rw [hrest next parsed' h, readParameters_keepsFeatures hparameters hread]

/-- **The other sections leave the mask as it is.** -/
theorem parseSections_keepsFeatures {parsed parsed' : ParsedConfig}
    (h : parseSections lib config parsed = .ok parsed') :
    parsed'.systemServerFeatures = parsed.systemServerFeatures := by
  have hkeep : ∀ s ∈ otherSections config, ∀ p ∈ s.2, p.KeepsFeatures :=
    otherSections_keepFeatures
  unfold otherSections at hkeep
  simp only [List.forall_mem_cons] at hkeep
  obtain ⟨_, hhttp, hwebsocket, hamqp, hbus, hobjrepr, hmongo, _⟩ := hkeep
  unfold parseSections at h
  obtain ⟨communication, _, h⟩ := bind_eq_ok.mp h
  refine section_keepsFeatures hhttp (section_keepsFeatures hwebsocket (section_keepsFeatures hamqp
    (section_keepsFeatures hbus (section_keepsFeatures hobjrepr fun parsed parsed' h => ?_))))
    parsed parsed' h
  obtain ⟨mongoDB, _, h⟩ := bind_eq_ok.mp h
  exact readParameters_keepsFeatures hmongo h

end Sections

/-! ## Features -/

/-- The features that a configuration lists. -/
def listedFeatures (config : Ptree) : List String :=
  splitFeatures (((config.find "system").bind fun system => system.find "server_features").elim
    "archiving | analyze" Ptree.data)

/-- A feature that the server does not have is listed. -/
def UnknownFeature (config : Ptree) : Prop :=
  ∃ feature ∈ listedFeatures config, serverFeature feature = none

/-- The bits of the features in a list. -/
def featureMask (features : List String) : Int16 :=
  (if "retranslation" ∈ features then 1 else 0) ||| (if "archiving" ∈ features then 2 else 0) |||
    (if "analyze" ∈ features then 4 else 0)

/-- Bits of a mask and one more. -/
theorem or_bits (a b c : Bool) : ∀ i : Fin 3,
    ((if i = 0 ∨ a = true then (1 : Int16) else 0) ||| (if i = 1 ∨ b = true then 2 else 0) |||
      (if i = 2 ∨ c = true then 4 else 0)) =
    ([1, 2, 4] : List Int16).get i ||| ((if a = true then 1 else 0) |||
      (if b = true then 2 else 0) ||| (if c = true then 4 else 0)) := by
  revert a b c
  decide

/-- A list and one more feature. -/
theorem featureMask_cons {feature : String} {bit : Int16} (h : serverFeature feature = some bit)
    (features : List String) :
    featureMask (feature :: features) = bit ||| featureMask features := by
  have hbits := or_bits (decide ("retranslation" ∈ features)) (decide ("archiving" ∈ features))
    (decide ("analyze" ∈ features))
  simp only [decide_eq_true_eq] at hbits
  unfold serverFeature at h
  unfold featureMask
  simp only [List.mem_cons]
  split at h
  · next heq =>
    cases h
    subst heq
    simpa using hbits 0
  · split at h
    · next heq =>
      cases h
      subst heq
      simpa using hbits 1
    · split at h
      · next heq =>
        cases h
        subst heq
        simpa using hbits 2
      · cases h

/-- **Known features set their bits.** -/
theorem setServerFeatures_of_known : ∀ {features : List String},
    (∀ feature ∈ features, serverFeature feature ≠ none) → ∀ mask : Int16,
      setServerFeatures features mask = (true, mask ||| featureMask features)
  | [], _, mask => congrArg (Prod.mk true) Int16.or_zero.symm
  | feature :: features, h, mask => by
    rw [List.forall_mem_cons] at h
    rw [setServerFeatures]
    cases hbit : serverFeature feature with
    | none => exact absurd hbit h.1
    | some bit =>
      simp only
      rw [setServerFeatures_of_known h.2, featureMask_cons hbit, Int16.or_assoc]

theorem setServerFeatures_of_unknown : ∀ {features : List String},
    (∃ feature ∈ features, serverFeature feature = none) → ∀ mask : Int16,
      (setServerFeatures features mask).1 = false
  | [], h, _ => by
    obtain ⟨_, hmem, _⟩ := h
    cases hmem
  | feature :: features, h, mask => by
    rw [setServerFeatures]
    cases hbit : serverFeature feature with
    | none => rfl
    | some bit =>
      obtain ⟨unknown, hmem, hunknown⟩ := h
      rcases List.mem_cons.mp hmem with rfl | hmem
      · rw [hbit] at hunknown
        cases hunknown
      · exact setServerFeatures_of_unknown ⟨unknown, hmem, hunknown⟩ _

/-! ## The whole file -/

section ParseBase

variable (lib : ConfigLibrary) (content : List UInt8) (parameters : SConfigParameters)

/-- `system` is read, and a feature in it is unknown or the other sections are read too. -/
def Readable (config : Ptree) : Prop :=
  SectionReadable lib (systemSection config) ∧
    (UnknownFeature config ∨ ∀ s ∈ otherSections config, SectionReadable lib s)

variable {lib content parameters}

/-- The features are read from `system` when it is there. -/
theorem setParameterNew_features {config system : Ptree} (h : config.find "system" = some system) :
    ∃ serverFeaturesStr,
      setParameterNew some system "server_features" "archiving | analyze" =
        .ok serverFeaturesStr ∧ splitFeatures serverFeaturesStr = listedFeatures config := by
  unfold setParameterNew listedFeatures
  rw [h, Option.bind_some]
  cases system.find "server_features" with
  | none => exact ⟨_, rfl, rfl⟩
  | some child => exact ⟨_, rfl, rfl⟩

/-- `parseBase` once `system` is read. -/
theorem parseBase_eq {config system : Ptree} {parsed : ParsedConfig}
    (hjson : lib.readJson content = some config) (hsystem : config.find "system" = some system)
    (hread : readParameters lib system systemParameters { toSConfigParameters := parameters } =
      .ok parsed) :
    parseBase lib content parameters =
      (let features := setServerFeatures (listedFeatures config) parsed.systemServerFeatures
      if features.1 = false then
        .ok (false, { parsed with systemServerFeatures := features.2 }.toSConfigParameters)
      else
        (parseSections lib config { parsed with systemServerFeatures := features.2 }).map
          fun parsed => (lib.parse content, parsed.toSConfigParameters)) := by
  obtain ⟨serverFeaturesStr, hstring, hlisted⟩ := setParameterNew_features hsystem
  unfold parseBase
  rw [hjson]
  simp only [getChild_eq_ok.mpr hsystem, hread, hstring, hlisted, bind, Except.bind]
  split
  · rfl
  · cases parseSections lib config _ <;> rfl

/-- **The cases of `parseBase`.** It throws when a section cannot be read. -/
theorem parseBase_cases (lib : ConfigLibrary) (content : List UInt8)
    (parameters : SConfigParameters) :
    (lib.readJson content = none ∧ parseBase lib content parameters = .ok (false, parameters)) ∨
    ∃ config, lib.readJson content = some config ∧
      ((¬ Readable lib config ∧ ∃ e, parseBase lib content parameters = .error e) ∨
      (SectionReadable lib (systemSection config) ∧ UnknownFeature config ∧
        ∃ parameters', parseBase lib content parameters = .ok (false, parameters')) ∨
      (SectionReadable lib (systemSection config) ∧ ¬ UnknownFeature config ∧
        (∀ s ∈ otherSections config, SectionReadable lib s) ∧
        ∃ parameters', parseBase lib content parameters = .ok (lib.parse content, parameters') ∧
          parameters'.systemServerFeatures =
            parameters.systemServerFeatures ||| featureMask (listedFeatures config))) := by
  cases hjson : lib.readJson content with
  | none =>
    refine Or.inl ⟨rfl, ?_⟩
    unfold parseBase
    rw [hjson]
  | some config =>
    refine Or.inr ⟨config, rfl, ?_⟩
    by_cases hsystem : SectionReadable lib (systemSection config)
    · obtain ⟨system, hfind, hconverts⟩ := hsystem
      obtain ⟨parsed, hread⟩ := (returns_readParameters { toSConfigParameters := parameters }).mpr
        hconverts
      have hmask := readParameters_keepsFeatures systemParameters_keepFeatures hread
      have heq := parseBase_eq hjson hfind hread
      by_cases hunknown : UnknownFeature config
      · refine Or.inr (Or.inl ⟨⟨system, hfind, hconverts⟩, hunknown, ?_⟩)
        simp only [setServerFeatures_of_unknown hunknown, if_true] at heq
        exact ⟨_, heq⟩
      · have hknown : ∀ feature ∈ listedFeatures config, serverFeature feature ≠ none :=
          fun feature hmem hnone => hunknown ⟨feature, hmem, hnone⟩
        simp only [setServerFeatures_of_known hknown, Bool.true_eq_false, if_false] at heq
        by_cases hothers : ∀ s ∈ otherSections config, SectionReadable lib s
        · refine Or.inr (Or.inr ⟨⟨system, hfind, hconverts⟩, hunknown, hothers, ?_⟩)
          obtain ⟨parsed', hsections⟩ := (returns_parseSections _).mpr hothers
          rw [hsections] at heq
          refine ⟨_, heq, ?_⟩
          rw [parseSections_keepsFeatures hsections, hmask]
        · refine Or.inl ⟨fun h => h.2.elim hunknown hothers, ?_⟩
          obtain ⟨e, herror⟩ := eq_error_of_not_returns fun h =>
            hothers ((returns_parseSections _).mp h)
          rw [herror] at heq
          exact ⟨e, heq⟩
    · refine Or.inl ⟨fun h => hsystem h.1, ?_⟩
      unfold parseBase
      rw [hjson]
      refine eq_error_of_not_returns fun h => hsystem ?_
      obtain ⟨system, hchild, hrest⟩ := returns_bind.mp h
      obtain ⟨parsed, hread, _⟩ := returns_bind.mp hrest
      exact ⟨system, getChild_eq_ok.mp hchild, (returns_readParameters _).mp ⟨parsed, hread⟩⟩

/-! ## When it fails cleanly -/

/-- A reason for which `parseBase` has to return `false`. -/
def Rejected (lib : ConfigLibrary) (content : List UInt8) : Prop :=
  match lib.readJson content with
  | none => True
  | some config =>
    (∃ s ∈ systemSection config :: otherSections config, s.1 = none) ∨
    (∃ s ∈ systemSection config :: otherSections config, ∃ keyLocation,
      s.1 = some keyLocation ∧ ∃ p ∈ s.2, ¬ p.Converts lib keyLocation) ∨
    UnknownFeature config ∨ lib.parse content = false

/-- No exception leaves `parseBase`, and it returns `false` for a reason only. -/
def FailsCleanly (lib : ConfigLibrary) (content : List UInt8) (parameters : SConfigParameters) :
    Prop :=
  ∃ result parameters', parseBase lib content parameters = .ok (result, parameters') ∧
    (result = false ↔ Rejected lib content)

/-- The content is no JSON, or what has to be read can be. -/
def ReadableContent (lib : ConfigLibrary) (content : List UInt8) : Prop :=
  ∀ config, lib.readJson content = some config → Readable lib config

theorem not_rejected_section {s : Option Ptree × List Parameter} (h : SectionReadable lib s) :
    s.1 ≠ none ∧ ¬ ∃ keyLocation, s.1 = some keyLocation ∧
      ∃ p ∈ s.2, ¬ p.Converts lib keyLocation := by
  obtain ⟨keyLocation, hfind, hconverts⟩ := h
  refine ⟨fun hnone => ?_, ?_⟩
  · rw [hfind] at hnone
    cases hnone
  · rintro ⟨other, hother, p, hp, hnot⟩
    rw [hfind, Option.some.injEq] at hother
    exact hnot (hother ▸ hconverts p hp)

/--
**When parsing fails cleanly.**

`parseBase` returns, and `false` exactly for the contents that are to be rejected, exactly when the
content is no JSON, or `system` is there with values that can be converted and either a feature in
it is unknown or all other sections are there with values that can be converted.
-/
theorem config_parsing_iff (lib : ConfigLibrary) (content : List UInt8)
    (parameters : SConfigParameters) :
    FailsCleanly lib content parameters ↔ ReadableContent lib content := by
  rcases parseBase_cases lib content parameters with ⟨hjson, heq⟩ | ⟨config, hjson, hcases⟩
  · refine iff_of_true ⟨false, parameters, heq, iff_of_true rfl ?_⟩ fun config h => ?_
    · unfold Rejected
      rw [hjson]
      trivial
    · rw [hjson] at h
      cases h
  · have hcontent : ReadableContent lib content ↔ Readable lib config := by
      unfold ReadableContent
      simp only [hjson, Option.some.injEq, forall_eq']
    rw [hcontent]
    rcases hcases with ⟨hnot, e, heq⟩ | ⟨hsystem, hunknown, parameters', heq⟩ |
      ⟨hsystem, hknown, hothers, parameters', heq, _⟩
    · refine iff_of_false ?_ hnot
      rintro ⟨result, parameters', h, _⟩
      rw [heq] at h
      cases h
    · refine iff_of_true ⟨false, parameters', heq, iff_of_true rfl ?_⟩ ⟨hsystem, Or.inl hunknown⟩
      unfold Rejected
      rw [hjson]
      exact Or.inr (Or.inr (Or.inl hunknown))
    · refine iff_of_true ⟨lib.parse content, parameters', heq, ?_⟩ ⟨hsystem, Or.inr hothers⟩
      have hall : ∀ s ∈ systemSection config :: otherSections config, SectionReadable lib s :=
        List.forall_mem_cons.mpr ⟨hsystem, hothers⟩
      unfold Rejected
      rw [hjson]
      constructor
      · exact fun h => Or.inr (Or.inr (Or.inr h))
      · rintro (⟨s, hs, hnone⟩ | ⟨s, hs, hnot⟩ | hunknown | hparse)
        · exact absurd hnone (not_rejected_section (hall s hs)).1
        · exact absurd hnot (not_rejected_section (hall s hs)).2
        · exact absurd hunknown hknown
        · exact hparse

/-- A library that knows one JSON text only. -/
def emptyObjectLibrary : ConfigLibrary where
  readJson := fun content => if content = [123, 125] then some (.node "" []) else none
  getInt := fun _ => none
  getBool := fun _ => none
  parse := fun _ => true

/-- `{}` has no section, and `get_child` throws. -/
theorem empty_object_throws :
    ¬ FailsCleanly emptyObjectLibrary [123, 125]
      { systemServerFeatures := 0
        systemRestoreInterruptedSession := false
        communicationAmqpEnable := false
        communicationObjreprServiceBusEnable := false } := by
  rintro ⟨result, parameters', h, _⟩
  cases h

end ParseBase

end MicroserviceCommon
