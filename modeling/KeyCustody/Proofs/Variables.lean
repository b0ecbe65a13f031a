import KeyCustody.Proofs.Entries

/-!
What the environment tells of the settings when nothing asks for another reading of it. Each of its
variables gives one leaf, and names do not depend on letter case.
-/

set_option autoImplicit false

namespace KeyCustody

namespace Environment

open Value (Writes putAll latest? field?)

-- The text of a variable; a later setting of the same name hides an earlier one.
def text? (environment : Environment) (name : Text) : Option Text :=
  (environment.reverse.find? fun setting => Text.lower setting.1 = Text.lower name).map (·.2)

def usual : Options := ⟨some Options.defaultLeading, false, false, .mark "__", .unlimited, none⟩

def leafNames : List Text := ["level", "json_output"]

def chainVariable : Text := "CBSIGNER_CHAIN"

def levelVariable : Text := "CBSIGNER_LOGGING__LEVEL"

def jsonVariable : Text := "CBSIGNER_LOGGING__JSON_OUTPUT"

-- Of the variables with the leading part there are none but those of the three leaves.
def OnlyLeaves (environment : Environment) : Prop :=
  ∀ setting ∈ environment,
    (Text.lower Options.defaultLeading).isPrefixOf (Text.lower setting.1) = true →
      Text.lower setting.1 ∈ [chainVariable, levelVariable, jsonVariable].map Text.lower

instance (environment : Environment) : Decidable environment.OnlyLeaves :=
  inferInstanceAs (Decidable (∀ setting ∈ environment, _ → _))

/-! ## Visible variables -/

def writes (environment : Environment) : Writes :=
  environment.map fun setting => (Text.lower setting.1, .text setting.2)

theorem visible_usual (environment : Environment) :
    usual.visible environment = putAll [] environment.writes := by
  rw [Options.visible, putAll, writes, List.foldl_map]
  rfl

theorem latest_written (environment : Environment) (name : Text) :
    latest? environment.writes (Text.lower name) = (environment.text? name).map .text := by
  rw [latest?, writes, text?, ← List.map_reverse, List.find?_map, Option.map_map, Option.map_map]
  rfl

theorem field_visible (environment : Environment) (name : Text) :
    field? (usual.visible environment) (Text.lower name) =
      (environment.text? name).map .text := by
  rw [visible_usual, Value.field_put_all, latest_written]
  exact Option.or_none

theorem mem_visible (environment : Environment) (entry : Value × Value)
    (member : entry ∈ usual.visible environment) :
    ∃ setting ∈ environment, entry = (.text (Text.lower setting.1), .text setting.2) := by
  rw [visible_usual] at member
  rcases Value.mem_put_all [] environment.writes entry member with none | ⟨write, told, same⟩
  · cases none
  · obtain ⟨setting, held, rfl⟩ := List.mem_map.mp told
    exact ⟨setting, held, same⟩

/-! ## Names behind a start -/

theorem behind_iff (start name rest : Text) :
    behind? start name = some rest ↔ name = start ++ rest := by
  rw [behind?]
  by_cases starts : start.isPrefixOf name = true
  · obtain ⟨tail, rfl⟩ := List.isPrefixOf_iff_prefix.mp starts
    rw [if_pos starts, List.drop_left, Option.some.injEq]
    exact (List.append_right_inj start).symm
  · rw [if_neg starts]
    constructor
    · intro found
      cases found
    · rintro rfl
      exact absurd (List.isPrefixOf_iff_prefix.mpr (List.prefix_append start rest)) starts

theorem names_behind_here (start tail : Text) (value : Value) (others : Value.Entries) :
    namesBehind start ((.text (start ++ tail), value) :: others) =
      (tail, value) :: namesBehind start others := by
  apply List.filterMap_cons_some
  change (behind? start (start ++ tail)).map _ = _
  rw [(behind_iff start (start ++ tail) tail).mpr rfl]
  rfl

theorem names_behind_elsewhere (start : Text) (key value : Value) (others : Value.Entries)
    (elsewhere : ∀ tail, key ≠ .text (start ++ tail)) :
    namesBehind start ((key, value) :: others) = namesBehind start others := by
  apply List.filterMap_cons_none
  cases key with
  | text name =>
      cases found : behind? start name with
      | none =>
          change (behind? start name).map _ = _
          rw [found]
          rfl
      | some tail =>
          exact absurd (congrArg Value.text ((behind_iff start name tail).mp found))
            (elsewhere tail)
  | _ => rfl

theorem latest_behind (start rest : Text) (seen : Value.Entries) :
    latest? (namesBehind start seen) rest = field? seen (start ++ rest) := by
  induction seen with
  | nil => rfl
  | cons entry others ih =>
      obtain ⟨key, value⟩ := entry
      rw [Value.field_cons, ← ih]
      by_cases here : ∃ tail, key = .text (start ++ tail)
      · obtain ⟨tail, rfl⟩ := here
        rw [names_behind_here, Value.latest_cons]
        simp only [Value.is_text_name, List.append_right_inj]
      · have elsewhere : ∀ tail, key ≠ .text (start ++ tail) := fun tail same => here ⟨tail, same⟩
        have passed : ¬ key.isText (start ++ rest) = true := fun same =>
          elsewhere rest ((Value.is_text_iff _ key).mp same)
        rw [names_behind_elsewhere start key value others elsewhere, if_neg passed, Option.or_none]

theorem mem_names_behind (start : Text) (seen : Value.Entries) (found : Text × Value)
    (member : found ∈ namesBehind start seen) : (.text (start ++ found.1), found.2) ∈ seen := by
  induction seen with
  | nil => cases member
  | cons entry others ih =>
      obtain ⟨key, value⟩ := entry
      by_cases here : ∃ tail, key = .text (start ++ tail)
      · obtain ⟨tail, rfl⟩ := here
        rw [names_behind_here] at member
        rcases List.mem_cons.mp member with rfl | later
        · exact List.mem_cons_self
        · exact List.mem_cons_of_mem _ (ih later)
      · rw [names_behind_elsewhere start key value others fun tail same => here ⟨tail, same⟩]
          at member
        exact List.mem_cons_of_mem _ (ih member)

/-! ## Leaves of the logging section -/

theorem store_text (text name : Text) (entries : Value.Entries) :
    storeUnder (.text text) name [] entries = Value.put entries name (.text text) := by
  rw [storeUnder]
  · intro same
    cases same
  · intro _ same
    cases same

theorem store_all_texts (split : Text → List Text) (found : Writes)
    (whole : ∀ write ∈ found, split write.1 = [write.1])
    (texts : ∀ write ∈ found, ∃ text, write.2 = .text text) :
    storeAll split found = putAll [] found := by
  unfold storeAll
  generalize ([] : Value.Entries) = entries
  induction found generalizing entries with
  | nil => rfl
  | cons write rest ih =>
      obtain ⟨text, told⟩ := texts write List.mem_cons_self
      rw [List.foldl_cons, ih (fun other later => whole other (List.mem_cons_of_mem _ later))
        (fun other later => texts other (List.mem_cons_of_mem _ later))]
      simp only [whole write List.mem_cons_self, told, store_text]
      rw [putAll, putAll, List.foldl_cons, told]

def chainName : Text := Text.lower (Options.defaultLeading ++ "chain")

def sectionName : Text := Text.lower (Options.defaultLeading ++ "logging")

def sectionStart : Text := sectionName ++ "__"

-- The three names that may stand in the environment, seen from the start of the section.
theorem behind_start (name rest : Text)
    (known : name ∈ [chainVariable, levelVariable, jsonVariable].map Text.lower)
    (behind : name = sectionStart ++ rest) : rest ∈ leafNames := by
  have table : ∀ name ∈ [chainVariable, levelVariable, jsonVariable].map Text.lower,
      (behind? sectionStart name).all fun rest => decide (rest ∈ leafNames) := by
    decide +kernel
  have checked := table name known
  rw [(behind_iff sectionStart name rest).mpr behind] at checked
  exact of_decide_eq_true checked

theorem leaf_split (name : Text) (leaf : name ∈ leafNames) :
    Text.split "__" none name = [name] := by
  have table : ∀ name ∈ leafNames, Text.split "__" none name = [name] := by decide +kernel
  exact table name leaf

theorem start_leading (rest : Text) :
    (Text.lower Options.defaultLeading).isPrefixOf (sectionStart ++ rest) = true := by
  have start : sectionStart = Text.lower Options.defaultLeading ++ Text.ofString "logging__" := by
    decide +kernel
  rw [start, List.append_assoc]
  exact List.isPrefixOf_iff_prefix.mpr (List.prefix_append _ _)

def leaves (environment : Environment) : Writes :=
  namesBehind sectionStart (usual.visible environment)

theorem mem_leaves (environment : Environment) (only : environment.OnlyLeaves)
    (leaf : Text × Value) (member : leaf ∈ environment.leaves) :
    leaf.1 ∈ leafNames ∧ ∃ text, leaf.2 = .text text := by
  obtain ⟨setting, held, same⟩ := mem_visible environment _
    (mem_names_behind sectionStart _ leaf member)
  have named : sectionStart ++ leaf.1 = Text.lower setting.1 :=
    Value.text.inj (congrArg Prod.fst same)
  have known := only setting held (named ▸ start_leading leaf.1)
  exact ⟨behind_start _ leaf.1 known named.symm, setting.2, congrArg Prod.snd same⟩

theorem nested_unlimited (options : Options) (mark name : Text) (seen : Value.Entries)
    (marked : options.nesting = .mark mark) (unlimited : options.partLimit = .unlimited) :
    nested options name seen =
      .ok (storeAll (Text.split mark none) (namesBehind (name ++ mark) seen)) := by
  rw [nested, marked, unlimited]
  dsimp only
  cases namesBehind (name ++ mark) seen with
  | nil => rfl
  | cons found rest => rfl

theorem nested_usual (environment : Environment) (only : environment.OnlyLeaves) :
    nested usual sectionName (usual.visible environment) =
      .ok (putAll [] environment.leaves) := by
  have stored := store_all_texts (Text.split "__" none) environment.leaves
    (fun leaf member => leaf_split leaf.1 (mem_leaves environment only leaf member).1)
    (fun leaf member => (mem_leaves environment only leaf member).2)
  rw [nested_unlimited usual "__" sectionName _ rfl rfl]
  exact congrArg Except.ok stored

end Environment

namespace Settings

open Environment

theorem fold_puts (step : Value.Entries → Value × Value → Value.Entries) (entries : Value.Entries)
    (puts : ∀ entry ∈ entries, ∃ name, entry.1 = .text name ∧
      ∀ given, step given entry = Value.put given name entry.2) (start : Value.Entries) :
    entries.foldl step start = Value.putAll start (namesBehind [] entries) := by
  induction entries generalizing start with
  | nil => rfl
  | cons entry rest ih =>
      obtain ⟨key, value⟩ := entry
      obtain ⟨name, same, written⟩ := puts _ List.mem_cons_self
      cases same
      rw [List.foldl_cons, written start,
        ih (fun entry member => puts entry (List.mem_cons_of_mem _ member))]
      have here : namesBehind [] ((.text name, value) :: rest) =
          (name, value) :: namesBehind [] rest :=
        names_behind_here [] name value rest
      rw [here]
      rfl

-- Names of leaves are spelled as their fields are, so nothing is renamed.
theorem align_leaves (entries : Value.Entries)
    (known : ∀ entry ∈ entries, ∃ name ∈ leafNames, entry.1 = .text name) :
    alignNames entries = Value.putAll [] (namesBehind [] entries) := by
  have table : ∀ name ∈ leafNames,
      (if LoggingConfig.default.fields.any fun field => field.1 = Text.lower name
        then Text.lower name else name) = name := by
    decide +kernel
  apply fold_puts
  intro entry member
  obtain ⟨key, value⟩ := entry
  obtain ⟨name, leaf, same⟩ := known _ member
  cases same
  refine ⟨name, rfl, fun given => ?_⟩
  exact congrArg (fun name => Value.put given name value) (table name leaf)

-- What the environment says of the settings: its chain, and the leaves of the logging section if it
-- has any.
structure Told (environment : Environment) (entries : Value.Entries) : Prop where
  distinct : Value.Distinct entries
  chain : Value.field? entries "chain" = (environment.text? chainVariable).map .text
  logging : (Value.field? entries "logging" = none ∧ environment.text? levelVariable = none ∧
      environment.text? jsonVariable = none) ∨
    ∃ leaves, Value.field? entries "logging" = some (.mapping leaves) ∧ Value.Distinct leaves ∧
      Value.field? leaves "level" = (environment.text? levelVariable).map .text ∧
      Value.field? leaves "json_output" = (environment.text? jsonVariable).map .text

theorem leaf_latest (environment : Environment) :
    Value.latest? environment.leaves "level" = (environment.text? levelVariable).map .text ∧
      Value.latest? environment.leaves "json_output" =
        (environment.text? jsonVariable).map .text := by
  have level : sectionStart ++ Text.ofString "level" = Text.lower levelVariable := by
    decide +kernel
  have json : sectionStart ++ Text.ofString "json_output" = Text.lower jsonVariable := by
    decide +kernel
  rw [Environment.leaves, latest_behind, latest_behind, level, json, field_visible, field_visible]
  exact ⟨rfl, rfl⟩

def environmentSource (environment : Environment) : Source :=
  ⟨"EnvSettingsSource", usual, usual.visible environment⟩

theorem section_unnamed (environment : Environment) (only : environment.OnlyLeaves) :
    Value.field? (usual.visible environment) Environment.sectionName = none := by
  have leading : (Text.lower Environment.Options.defaultLeading).isPrefixOf
      Environment.sectionName = true := by
    decide +kernel
  have unknown : Environment.sectionName ∉
      [chainVariable, levelVariable, jsonVariable].map Text.lower := by
    decide +kernel
  rw [Value.field_none_iff]
  intro held
  obtain ⟨entry, member, named⟩ := List.mem_map.mp held
  obtain ⟨setting, given, rfl⟩ := mem_visible environment entry member
  have same : Text.lower setting.1 = Environment.sectionName := Value.text.inj named
  have known := only setting given
  rw [same] at known
  exact unknown (known leading)

def loggingPart (environment : Environment) : Option Value :=
  match Value.putAll [] environment.leaves with
  | [] => none
  | leaves => some (.mapping (alignNames leaves))

theorem environment_logging (environment : Environment) (only : environment.OnlyLeaves) :
    (environmentSource environment).logging Environment.sectionName =
      .ok (loggingPart environment) := by
  rw [Source.logging, environmentSource, loggingPart]
  simp only [section_unnamed environment only, nested_usual environment only]
  cases Value.putAll [] environment.leaves with
  | nil => rfl
  | cons leaf rest => rfl

def entryFor (name : Text) (value : Option Value) : Value.Entries :=
  (value.map fun value => (Value.text name, value)).toList

theorem field_entry_for (name other : Text) (value : Option Value) :
    Value.field? (entryFor name value) other = if name = other then value else none := by
  cases value with
  | none => exact (ite_self _).symm
  | some value =>
      change Value.field? [(.text name, value)] other = _
      rw [Value.field_cons]
      simp only [Value.is_text_name]
      rfl

theorem entries_for_distinct (name other : Text) (value otherValue : Option Value)
    (different : name ≠ other) :
    Value.Distinct (entryFor name value ++ entryFor other otherValue) := by
  cases value <;> cases otherValue <;> simp [Value.Distinct, entryFor, different]

theorem logging_part_told (environment : Environment) (only : environment.OnlyLeaves) :
    (loggingPart environment = none ∧ environment.text? levelVariable = none ∧
      environment.text? jsonVariable = none) ∨
    ∃ leaves, loggingPart environment = some (.mapping leaves) ∧ Value.Distinct leaves ∧
      Value.field? leaves "level" = (environment.text? levelVariable).map .text ∧
      Value.field? leaves "json_output" = (environment.text? jsonVariable).map .text := by
  obtain ⟨level, json⟩ := leaf_latest environment
  have stored (name : Text) : Value.field? (Value.putAll [] environment.leaves) name =
      Value.latest? environment.leaves name :=
    (Value.field_put_all [] environment.leaves name).trans Option.or_none
  have known : ∀ entry ∈ Value.putAll [] environment.leaves,
      ∃ name ∈ leafNames, entry.1 = .text name := by
    intro entry member
    rcases Value.mem_put_all [] environment.leaves entry member with none | ⟨leaf, told, rfl⟩
    · cases none
    · exact ⟨leaf.1, (mem_leaves environment only leaf told).1, rfl⟩
  have aligned (name : Text) : Value.field? (alignNames (Value.putAll [] environment.leaves)) name =
      Value.latest? environment.leaves name := by
    rw [align_leaves _ known, Value.field_put_all, latest_behind, ← stored]
    exact Option.or_none
  have distinct : Value.Distinct (alignNames (Value.putAll [] environment.leaves)) := by
    rw [align_leaves _ known]
    exact Value.put_all_distinct [] _ List.nodup_nil
  rw [loggingPart]
  cases leaves : Value.putAll [] environment.leaves with
  | nil =>
      refine .inl ⟨rfl, ?_, ?_⟩
      · rw [← Option.map_eq_none_iff, ← level, ← stored, leaves]
        rfl
      · rw [← Option.map_eq_none_iff, ← json, ← stored, leaves]
        rfl
  | cons leaf rest =>
      rw [leaves] at aligned distinct
      refine .inr ⟨_, rfl, distinct, ?_, ?_⟩
      · rw [aligned, level]
      · rw [aligned, json]

theorem environment_told (environment : Environment) (only : environment.OnlyLeaves) :
    ∃ entries, (environmentSource environment).entries = .ok entries ∧
      Told environment entries := by
  have chain : Value.field? (usual.visible environment) chainName =
      (environment.text? chainVariable).map .text := by
    have named : chainName = Text.lower chainVariable := by decide +kernel
    rw [named, field_visible]
  refine ⟨entryFor "chain" ((environment.text? chainVariable).map .text) ++
    entryFor "logging" (loggingPart environment), ?_, ?_⟩
  · rw [Source.entries]
    change ((environmentSource environment).logging Environment.sectionName >>= fun logging =>
      Except.ok (entryFor "chain" (Value.field? (usual.visible environment) chainName) ++
        entryFor "logging" logging)) = _
    rw [environment_logging environment only, chain]
    rfl
  · have different : Text.ofString "chain" ≠ Text.ofString "logging" := by decide
    have logging : Value.field? (entryFor "chain" ((environment.text? chainVariable).map .text) ++
        entryFor "logging" (loggingPart environment)) "logging" = loggingPart environment := by
      rw [Value.field_append, field_entry_for, field_entry_for, if_pos rfl, if_neg different,
        Option.or_none]
    refine ⟨entries_for_distinct _ _ _ _ different, ?_, ?_⟩
    · rw [Value.field_append, field_entry_for, field_entry_for, if_pos rfl,
        if_neg (Ne.symm different)]
      rfl
    · rw [logging]
      exact logging_part_told environment only

end Settings

end KeyCustody
