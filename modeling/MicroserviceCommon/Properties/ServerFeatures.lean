import MicroserviceCommon.Properties.ConfigParsing

/-!
# The mask of the features keeps its old bits

The bits of the listed features are added to a field that nobody has reset. After the construction
it holds anything, after another parse the features of that file.

* `splitFeatures_of_join` — the features of a string, with blanks anywhere
* `server_features_iff` — the mask is that of the listed features exactly when the field had no
  other bit before
* `features_of_earlier_parse` — a field that holds the bit of a feature that is not listed
-/

namespace MicroserviceCommon

/-- **The features of a string are those that were joined**, wherever blanks were put in. -/
theorem splitFeatures_of_join {serverFeaturesStr : String} {features : List String}
    (hne : features ≠ []) (hbar : ∀ feature ∈ features, '|' ∉ feature.toList)
    (hjoin : serverFeaturesStr.toList.filter (· != ' ') =
      ['|'].intercalate (features.map String.toList)) :
    splitFeatures serverFeaturesStr = features := by
  have hsplit : (['|'].intercalate (features.map String.toList)).splitOn '|' =
      features.map String.toList := by
    refine List.splitOn_intercalate '|' ?_ ?_
    · intro l hl
      obtain ⟨feature, hfeature, rfl⟩ := List.mem_map.mp hl
      exact hbar feature hfeature
    · simpa using hne
  unfold splitFeatures
  rw [hjoin, hsplit, List.map_map]
  refine (List.map_congr_left fun feature _ => ?_).trans (List.map_id _)
  exact String.ofList_toList

/-- The mask after a successful parse is that of the listed features, and no parse succeeds with an
unknown one. -/
structure MaskExact (lib : ConfigLibrary) (content : List UInt8) (parameters : SConfigParameters) :
    Prop where
  exact : ∀ config parameters', lib.readJson content = some config →
    parseBase lib content parameters = .ok (true, parameters') →
    parameters'.systemServerFeatures = featureMask (listedFeatures config)
  unknown : ∀ config, lib.readJson content = some config → UnknownFeature config →
    ∃ parameters', parseBase lib content parameters = .ok (false, parameters')

/-- `parseBase` has no reason to return `false`. -/
structure Accepted (lib : ConfigLibrary) (content : List UInt8) (config : Ptree) : Prop where
  system : SectionReadable lib (systemSection config)
  known : ¬ UnknownFeature config
  others : ∀ s ∈ otherSections config, SectionReadable lib s
  parse : lib.parse content = true

/-- The field has no bit but those of the listed features when the parse succeeds. With an unknown
feature the other values of `system` can be converted. -/
structure NoOldBits (lib : ConfigLibrary) (content : List UInt8) (parameters : SConfigParameters) :
    Prop where
  bits : ∀ config, lib.readJson content = some config → Accepted lib content config →
    parameters.systemServerFeatures ||| featureMask (listedFeatures config) =
      featureMask (listedFeatures config)
  system : ∀ config, lib.readJson content = some config → UnknownFeature config →
    SectionReadable lib (systemSection config)

/--
**When the mask is that of the listed features.**

A successful parse leaves exactly their bits, and an unknown feature makes it return `false`,
exactly when the field had no bits of other features before, and no value of `system` throws where a
feature is unknown.
-/
theorem server_features_iff (lib : ConfigLibrary) (content : List UInt8)
    (parameters : SConfigParameters) :
    MaskExact lib content parameters ↔ NoOldBits lib content parameters := by
  rcases parseBase_cases lib content parameters with ⟨hjson, heq⟩ | ⟨config, hjson, hcases⟩
  · refine iff_of_true ⟨fun config _ h => ?_, fun config h => ?_⟩
      ⟨fun config h => ?_, fun config h => ?_⟩
    all_goals
      rw [hjson] at h
      cases h
  · -- the content has one tree only
    have honly : ∀ other, lib.readJson content = some other → other = config := fun other h =>
      (Option.some.inj (hjson.symm.trans h)).symm
    rcases hcases with ⟨hnot, e, heq⟩ | ⟨hsystem, hunknown, parameters', heq⟩ |
      ⟨hsystem, hknown, hothers, parameters', heq, hmask⟩
    · have hthrows : ∀ result, parseBase lib content parameters ≠ .ok result := fun result h => by
        rw [heq] at h
        cases h
      constructor
      · intro h
        refine ⟨fun other hother haccepted => ?_, fun other hother hunknown => ?_⟩
        · rw [honly other hother] at haccepted
          exact absurd ⟨haccepted.system, Or.inr haccepted.others⟩ hnot
        · obtain ⟨parameters', hfalse⟩ := h.unknown other hother hunknown
          exact absurd hfalse (hthrows _)
      · intro h
        refine ⟨fun other parameters' _ htrue => absurd htrue (hthrows _),
          fun other hother hunknown => ?_⟩
        have hsystem := h.system other hother hunknown
        rw [honly other hother] at hsystem hunknown
        exact absurd ⟨hsystem, Or.inl hunknown⟩ hnot
    · refine iff_of_true ⟨fun other parameters₁ _ htrue => ?_, fun _ _ _ => ⟨parameters', heq⟩⟩
        ⟨fun other hother haccepted => ?_, fun other hother _ => honly other hother ▸ hsystem⟩
      · rw [heq] at htrue
        cases htrue
      · exact absurd (honly other hother ▸ hunknown) haccepted.known
    · constructor
      · intro h
        refine ⟨fun other hother haccepted => ?_, fun other hother hunknown => ?_⟩
        · rw [haccepted.parse] at heq
          rw [honly other hother, ← hmask]
          exact h.exact config parameters' hjson heq
        · exact absurd (honly other hother ▸ hunknown) hknown
      · intro h
        refine ⟨fun other parameters₁ hother htrue => ?_, fun other hother hunknown => ?_⟩
        · rw [heq, Except.ok.injEq, Prod.mk.injEq] at htrue
          rw [honly other hother, ← htrue.2, hmask]
          exact h.bits config hjson ⟨hsystem, hknown, hothers, htrue.1⟩
        · exact absurd (honly other hother ▸ hunknown) hknown

/-- A file with all sections, none of them with a value but the features. -/
def onlyAnalyze : Ptree :=
  .node ""
    [("system", .node "" [("server_features", .node "analyze" [])]),
      ("communication", .node ""
        [("http_server", .node "" []), ("websocket_server", .node "" []),
          ("amqp_client", .node "" []), ("objrepr_service_bus", .node "" [])]),
      ("objrepr", .node "" []), ("mongo_db", .node "" [])]

/-- Its text. -/
def onlyAnalyzeContent : List UInt8 :=
  ("\x7b\"system\":\x7b\"server_features\":\"analyze\"\x7d,\"communication\":" ++
    "\x7b\"http_server\":\x7b\x7d,\"websocket_server\":\x7b\x7d,\"amqp_client\":\x7b\x7d," ++
    "\"objrepr_service_bus\":\x7b\x7d\x7d,\"objrepr\":\x7b\x7d,\"mongo_db\":\x7b\x7d\x7d"
    ).toUTF8.toList

def onlyAnalyzeLibrary : ConfigLibrary where
  readJson := fun content => if content = onlyAnalyzeContent then some onlyAnalyze else none
  getInt := fun _ => none
  getBool := fun _ => none
  parse := fun _ => true

/-- The bit of `retranslation` is left from an earlier parse. -/
theorem features_of_earlier_parse :
    ¬ MaskExact onlyAnalyzeLibrary onlyAnalyzeContent
      { systemServerFeatures := 1
        systemRestoreInterruptedSession := false
        communicationAmqpEnable := false
        communicationObjreprServiceBusEnable := false } := by
  intro h
  have hjson : onlyAnalyzeLibrary.readJson onlyAnalyzeContent = some onlyAnalyze := if_pos rfl
  have hparse : ∃ parameters', parseBase onlyAnalyzeLibrary onlyAnalyzeContent
      { systemServerFeatures := 1
        systemRestoreInterruptedSession := false
        communicationAmqpEnable := false
        communicationObjreprServiceBusEnable := false } = .ok (true, parameters') ∧
      parameters'.systemServerFeatures = 5 := by
    unfold parseBase
    rw [hjson]
    exact ⟨_, rfl, rfl⟩
  obtain ⟨parameters', heq, hbits⟩ := hparse
  have hmask := h.exact onlyAnalyze parameters' hjson heq
  rw [hbits] at hmask
  exact absurd hmask (by decide)

end MicroserviceCommon
