import KeyCustody.Proofs.Layering

/-!
Which documents of a file give settings. One that is empty, or of any kind that counts as nothing,
stands for a mapping without entries; any other that is no mapping is refused, and so is a section
that is none. These two refusals tell the shape of the document, and nothing later gives them.
-/

set_option autoImplicit false

namespace KeyCustody

/-! ## Faults of other kinds -/

def Fault.tellsShape : Fault → Bool
  | .notMapping | .notSection => true
  | _ => false

section

variable {α β : Type}

-- None of the faults that an answer may have tells the shape of a document.
def Shapeless (answer : Except Fault α) : Prop :=
  ∀ fault, answer = .error fault → fault.tellsShape = false

theorem shapeless_ok (value : α) : Shapeless (.ok value) := by
  intro fault failed
  cases failed

theorem shapeless_error (fault : Fault) (other : fault.tellsShape = false) :
    Shapeless (.error fault : Except Fault α) := by
  intro told failed
  cases failed
  exact other

theorem shapeless_bind (answer : Except Fault α) (next : α → Except Fault β)
    (first : Shapeless answer) (later : ∀ value, Shapeless (next value)) :
    Shapeless (answer >>= next) := by
  cases answer with
  | error fault => exact shapeless_error fault (first fault rfl)
  | ok value => exact later value

theorem shapeless_map_m (f : α → Except Fault β) (each : ∀ item, Shapeless (f item))
    (items : List α) : Shapeless (items.mapM f) := by
  induction items with
  | nil => exact shapeless_ok _
  | cons item rest ih =>
      rw [List.mapM_cons]
      refine shapeless_bind _ _ (each item) fun first => ?_
      exact shapeless_bind _ _ ih fun others => shapeless_ok _

theorem shapeless_for_m (f : α → Except Fault PUnit) (each : ∀ item, Shapeless (f item))
    (items : List α) : Shapeless (items.forM f) := by
  induction items with
  | nil => exact shapeless_ok _
  | cons item rest ih =>
      exact shapeless_bind _ _ (each item) fun _ => ih

theorem shapeless_fold_m (f : β → α → Except Fault β)
    (each : ∀ state item, Shapeless (f state item)) (items : List α) (state : β) :
    Shapeless (items.foldlM f state) := by
  induction items generalizing state with
  | nil => exact shapeless_ok _
  | cons item rest ih =>
      rw [List.foldlM_cons]
      exact shapeless_bind _ _ (each state item) ih

theorem shapeless_as_record (model : String) (checked : Checked α) :
    Shapeless (checked.asRecord model) := by
  intro fault failed
  obtain ⟨faults, _, told⟩ := (map_error_error_iff checked _ fault).mp failed
  rw [← told, Checked.recordFault]
  split <;> rfl

end

namespace Environment

namespace Options

theorem read_part_limit_shapeless (entries : Value.Entries) :
    Shapeless (readPartLimit entries) := by
  rw [readPartLimit]
  split
  · exact shapeless_ok _
  · split
    · exact shapeless_ok _
    · split
      case h_4 => exact shapeless_error _ rfl
      all_goals exact shapeless_ok _

theorem read_leading_shapeless (entries : Value.Entries) : Shapeless (readLeading entries) := by
  rw [readLeading]
  split
  case h_9 => exact shapeless_error _ rfl
  all_goals exact shapeless_ok _

theorem read_all_shapeless (entries : Value.Entries) : Shapeless (readAll entries) := by
  refine shapeless_bind _ _ (read_part_limit_shapeless entries) fun partLimit => ?_
  exact shapeless_bind _ _ (read_leading_shapeless entries) fun leading => shapeless_ok _

theorem members_shapeless (value : Value) : Shapeless (members value) := by
  rw [members]
  split
  · exact shapeless_ok _
  · exact shapeless_error _ rfl

theorem paths_shapeless (entries : Value.Entries) (name : Text) :
    Shapeless (paths entries name) := by
  rw [paths]
  split
  · exact shapeless_ok _
  · exact shapeless_ok _
  · refine shapeless_bind _ _ (members_shapeless _) fun found => ?_
    refine shapeless_map_m _ (fun member => ?_) found
    split
    · exact shapeless_ok _
    · exact shapeless_error _ rfl

theorem arguments_shapeless (entries : Value.Entries) : Shapeless (arguments entries) := by
  rw [arguments]
  split
  · exact shapeless_ok _
  · exact shapeless_ok _
  · exact shapeless_ok _
  · exact shapeless_ok _
  · split
    · exact shapeless_ok _
    · exact shapeless_error _ rfl

theorem check_sources_shapeless (pair : Value) : Shapeless (checkSources pair) := by
  rw [checkSources]
  split
  · exact shapeless_error _ rfl
  · split
    · refine shapeless_bind _ _ (members_shapeless _) fun found => ?_
      split
      · exact shapeless_error _ rfl
      · exact shapeless_ok _
    · exact shapeless_ok _
  · exact shapeless_error _ rfl

end Options

theorem nested_shapeless (options : Options) (name : Text) (seen : Value.Entries) :
    Shapeless (nested options name seen) := by
  rw [nested]
  split
  · exact shapeless_ok _
  · dsimp only
    split
    case h_2 => exact shapeless_error _ rfl
    all_goals exact shapeless_ok _
  · split
    · exact shapeless_ok _
    · exact shapeless_error _ rfl
    · exact shapeless_error _ rfl

end Environment

namespace Arguments

theorem text_of_shapeless (value : Value) : Shapeless (textOf value) := by
  unfold textOf
  split
  · exact shapeless_ok _
  · split
    · exact shapeless_ok _
    · exact shapeless_error _ rfl

theorem entries_shapeless (rules : Rules) (values : List Value) :
    Shapeless (entries rules values) := by
  have wrong (objection : Text) :
      (if rules.exits then Fault.leave 2 else .arguments objection).tellsShape = false := by
    split <;> rfl
  refine shapeless_bind _ _ (shapeless_map_m _ text_of_shapeless values) fun texts => ?_
  dsimp only
  split
  · exact shapeless_error _ rfl
  · exact shapeless_error _ (wrong _)
  · split
    · exact shapeless_error _ (wrong _)
    · exact shapeless_ok _

end Arguments

namespace Settings

theorem place_shapeless (around : Surroundings) (path : Text) : Shapeless (around.place path) := by
  rw [Surroundings.place]
  split
  · exact shapeless_ok _
  · exact shapeless_ok _
  · exact shapeless_error _ rfl

theorem source_logging_shapeless (source : Source) (name : Text) :
    Shapeless (source.logging name) := by
  rw [Source.logging]
  split
  · split
    · exact shapeless_error _ rfl
    · exact shapeless_error _ rfl
    · exact shapeless_error _ rfl
    · exact shapeless_ok _
    · exact shapeless_bind _ _ (Environment.nested_shapeless _ _ _) fun _ => shapeless_ok _
    · exact shapeless_ok _
  · exact shapeless_ok _
  · refine shapeless_bind _ _ (Environment.nested_shapeless _ _ _) fun leaves => ?_
    split <;> exact shapeless_ok _

theorem source_entries_shapeless (source : Source) : Shapeless source.entries := by
  rw [Source.entries]
  split
  · exact shapeless_error _ rfl
  · exact shapeless_bind _ _ (source_logging_shapeless source _) fun _ => shapeless_ok _

theorem file_variables_shapeless (given : Value.Entries) (around : Surroundings) :
    Shapeless (fileVariables given around) := by
  refine shapeless_bind _ _ (Environment.Options.paths_shapeless given _) fun paths => ?_
  refine shapeless_fold_m _ (fun known path => ?_) paths []
  refine shapeless_bind _ _ (place_shapeless around path) fun place => ?_
  split <;> exact shapeless_ok _

theorem check_secrets_shapeless (given : Value.Entries) (around : Surroundings) :
    Shapeless (checkSecrets given around) := by
  refine shapeless_bind _ _ (Environment.Options.paths_shapeless given _) fun paths => ?_
  refine shapeless_bind _ _ (shapeless_map_m _ (place_shapeless around) paths) fun places => ?_
  refine shapeless_for_m _ (fun place => ?_) places
  split
  · exact shapeless_error _ rfl
  · exact shapeless_error _ rfl
  · exact shapeless_ok _

theorem merged_shapeless (given : Value.Entries) (around : Surroundings) :
    Shapeless (merged given around) := by
  refine shapeless_bind _ _ (Environment.Options.read_all_shapeless given) fun options => ?_
  refine shapeless_bind _ _ (file_variables_shapeless given around) fun known => ?_
  refine shapeless_bind _ _ (Environment.Options.arguments_shapeless given) fun values => ?_
  refine shapeless_bind _ _ (Arguments.entries_shapeless _ values) fun arguments => ?_
  refine shapeless_bind _ _ (source_entries_shapeless _) fun first => ?_
  refine shapeless_bind _ _ (source_entries_shapeless _) fun second => ?_
  refine shapeless_bind _ _ (source_entries_shapeless _) fun last => ?_
  exact shapeless_bind _ _ (check_secrets_shapeless given around) fun _ => shapeless_ok _

theorem make_shapeless (given : Value.Entries) (around : Surroundings) :
    Shapeless (make given around) := by
  have checked (entries : Value.Entries) : Shapeless ((check entries).asRecord modelName) :=
    shapeless_as_record modelName (check entries)
  rw [make]
  split
  · exact shapeless_error .fieldNames rfl
  · by_cases owned : (Value.field? given ownName).isSome = true
    · simp only [if_pos owned]
      exact shapeless_error (.option (.givenTwice ownName)) rfl
    · simp only [if_neg owned]
      split
      · exact shapeless_bind _ _ (merged_shapeless given around) checked
      · exact shapeless_bind _ _ (Environment.Options.check_sources_shapeless _) fun _ => checked []

/-! ## Documents -/

-- What counts as nothing although it is neither null nor a mapping.
inductive Trivial : Value → Prop
  | falsehood : Trivial (.bool false)
  | zero : Trivial (.int 0)
  | fraction (x : Float) (zero : (x == 0) = true) : Trivial (.float x)
  | text : Trivial (.text [])
  | bytes : Trivial (.bytes [])
  | buffer : Trivial (.buffer [])
  | list : Trivial (.list [])
  | tuple : Trivial (.tuple [])
  | set : Trivial (.set [])
  | object (o : Object) (void : o.isVoid = true) : Trivial (.object o)

theorem void_iff (value : Value) :
    value.isVoid = true ↔ value = .null ∨ value = .mapping [] ∨ Trivial value := by
  constructor
  · intro void
    cases value with
    | null => exact .inl rfl
    | bool b =>
        cases b with
        | true => cases void
        | false => exact .inr (.inr .falsehood)
    | int n =>
        cases of_decide_eq_true void
        exact .inr (.inr .zero)
    | float x => exact .inr (.inr (.fraction x void))
    | text s =>
        cases List.isEmpty_iff.mp void
        exact .inr (.inr .text)
    | bytes b =>
        cases List.isEmpty_iff.mp void
        exact .inr (.inr .bytes)
    | buffer b =>
        cases List.isEmpty_iff.mp void
        exact .inr (.inr .buffer)
    | list items =>
        cases List.isEmpty_iff.mp void
        exact .inr (.inr .list)
    | tuple items =>
        cases List.isEmpty_iff.mp void
        exact .inr (.inr .tuple)
    | set members =>
        cases List.isEmpty_iff.mp void
        exact .inr (.inr .set)
    | mapping entries =>
        cases List.isEmpty_iff.mp void
        exact .inr (.inl rfl)
    | time t => cases void
    | delegation d => cases void
    | object o => exact .inr (.inr (.object o void))
  · rintro (rfl | rfl | trivial)
    · rfl
    · rfl
    · cases trivial with
      | fraction x zero => exact zero
      | object o void => exact void
      | _ => rfl

theorem entries_of_void (document : Value) (void : document.isVoid = true) :
    entriesOf document = .ok [] := by
  rw [entriesOf, if_pos void]
  rfl

theorem entries_of_other (document : Value) (filled : document.isVoid = false)
    (other : ∀ entries, document ≠ .mapping entries) :
    entriesOf document = .error .notMapping := by
  cases document with
  | mapping entries => exact absurd rfl (other entries)
  | _ => rw [entriesOf, if_neg (filled ▸ Bool.false_ne_true)]

theorem entries_of_mapping (entries : Value.Entries) :
    entriesOf (.mapping entries) =
      match Value.field? entries sectionName with
      | none => .ok entries
      | some (.mapping inner) => .ok inner
      | some _ => .error .notSection := by
  cases entries with
  | nil => rfl
  | cons entry rest => rfl

theorem entries_of_misnamed (entries : Value.Entries) (value : Value)
    (found : Value.field? entries sectionName = some value)
    (other : ∀ inner, value ≠ .mapping inner) :
    entriesOf (.mapping entries) = .error .notSection := by
  rw [entries_of_mapping, found]
  cases value with
  | mapping inner => exact absurd rfl (other inner)
  | _ => rfl

theorem entries_not_mapping_iff (document : Value) :
    entriesOf document = .error .notMapping ↔
      document ≠ .null ∧ (∀ entries, document ≠ .mapping entries) ∧ ¬ Trivial document := by
  constructor
  · intro failed
    have filled : ¬ document.isVoid = true := by
      intro void
      rw [entries_of_void document void] at failed
      cases failed
    refine ⟨?_, ?_, ?_⟩
    · rintro rfl
      exact filled rfl
    · rintro entries rfl
      rw [entries_of_mapping] at failed
      split at failed <;> cases failed
    · intro trivial
      exact filled ((void_iff document).mpr (.inr (.inr trivial)))
  · rintro ⟨told, other, nontrivial⟩
    have filled : document.isVoid = false := by
      rw [Bool.eq_false_iff]
      intro void
      rcases (void_iff document).mp void with null | empty | trivial
      · exact told null
      · exact other [] empty
      · exact nontrivial trivial
    exact entries_of_other document filled other

theorem entries_not_section_iff (document : Value) :
    entriesOf document = .error .notSection ↔
      ∃ entries value, document = .mapping entries ∧
        Value.field? entries sectionName = some value ∧ ∀ inner, value ≠ .mapping inner := by
  constructor
  · intro failed
    by_cases void : document.isVoid = true
    · rw [entries_of_void document void] at failed
      cases failed
    · by_cases mapped : ∃ entries, document = .mapping entries
      · obtain ⟨entries, rfl⟩ := mapped
        rw [entries_of_mapping] at failed
        cases found : Value.field? entries sectionName with
        | none =>
            rw [found] at failed
            cases failed
        | some value =>
            refine ⟨entries, value, rfl, found, ?_⟩
            rintro inner rfl
            rw [found] at failed
            cases failed
      · have other := not_exists.mp mapped
        rw [entries_of_other document (Bool.eq_false_iff.mpr void) other] at failed
        cases failed
  · rintro ⟨entries, value, rfl, found, other⟩
    exact entries_of_misnamed entries value found other

/-! ## Files -/

-- What stands in the file at a place; only one of the files that are known holds anything.
def Surroundings.content (around : Surroundings) (place : Place) : Bytes :=
  if place = .document then around.document.getD [] else []

-- A path that leads to a file, and the document that is read there.
def Readable (path : Text) (around : Surroundings) (document : Value) : Prop :=
  ∃ place, around.place path = .ok (some place) ∧ place.isFolder = false ∧
    readFile (around.content place) = .ok document

theorem load_document (path : Text) (around : Surroundings) (document : Value)
    (readable : Readable path around document) :
    load path around = (entriesOf document >>= fun entries => make entries around) := by
  obtain ⟨place, found, file, read⟩ := readable
  have loaded : load path around = ofContent (around.content place) around := by
    rw [load, found]
    change (if place.isFolder = true then _ else ofContent (around.content place) around) = _
    rw [file]
    rfl
  rw [loaded, ofContent, read]
  rfl

theorem load_entries (path : Text) (around : Surroundings) (document : Value)
    (readable : Readable path around document) (entries : Value.Entries)
    (held : entriesOf document = .ok entries) : load path around = make entries around := by
  rw [load_document path around document readable, held]
  rfl

theorem load_refused (path : Text) (around : Surroundings) (document : Value)
    (readable : Readable path around document) (fault : Fault)
    (refused : entriesOf document = .error fault) : load path around = .error fault := by
  rw [load_document path around document readable, refused]
  rfl

-- The shape of a document is told from its entries or not at all.
theorem load_shape_iff (path : Text) (around : Surroundings) (document : Value)
    (readable : Readable path around document) (fault : Fault) (shape : fault.tellsShape = true) :
    load path around = .error fault ↔ entriesOf document = .error fault := by
  constructor
  · intro failed
    cases told : entriesOf document with
    | error other =>
        rw [load_refused path around document readable other told] at failed
        cases failed
        rfl
    | ok entries =>
        rw [load_entries path around document readable entries told] at failed
        rw [make_shapeless entries around fault failed] at shape
        cases shape
  · exact load_refused path around document readable fault

-- What becomes of a document: two refusals, and settings from the entries that it stands for.
structure Judged (path : Text) (around : Surroundings) (document : Value) : Prop where
  notMapping : load path around = .error .notMapping ↔
    document ≠ .null ∧ (∀ entries, document ≠ .mapping entries) ∧ ¬ Trivial document
  notSection : load path around = .error .notSection ↔
    ∃ entries value, document = .mapping entries ∧
      Value.field? entries sectionName = some value ∧ ∀ inner, value ≠ .mapping inner
  named : ∀ entries inner, document = .mapping entries →
    Value.field? entries sectionName = some (.mapping inner) →
      load path around = make inner around
  whole : ∀ entries, document = .mapping entries →
    Value.field? entries sectionName = none → load path around = make entries around
  nothing : document = .null ∨ Trivial document → load path around = make [] around

theorem documents_judged (path : Text) (around : Surroundings) (document : Value)
    (readable : Readable path around document) :
    Judged path around document ∧
      Fault.notMapping.message? = some "config file must contain a top-level mapping" ∧
      Fault.notSection.message? = some "cbsigner config section must be a mapping" := by
  refine ⟨?_, rfl, rfl⟩
  constructor
  case notMapping =>
    rw [load_shape_iff path around document readable .notMapping rfl]
    exact entries_not_mapping_iff document
  case notSection =>
    rw [load_shape_iff path around document readable .notSection rfl]
    exact entries_not_section_iff document
  case named =>
    rintro entries inner rfl found
    apply load_entries path around _ readable
    rw [entries_of_mapping, found]
  case whole =>
    rintro entries rfl absent
    apply load_entries path around _ readable
    rw [entries_of_mapping, absent]
  case nothing =>
    intro nothing
    have void : document.isVoid = true :=
      (void_iff document).mpr (nothing.imp_right Or.inr)
    exact load_entries path around document readable [] (entries_of_void document void)

-- A file whose section is a text.
def misnamedFile : Bytes := [0x63, 0x62, 0x73, 0x69, 0x67, 0x6e, 0x65, 0x72, 0x3a, 0x20, 0x79]

theorem misnamed_section_refused :
    load defaultPath ⟨[], some misnamedFile⟩ = .error .notSection ∧
      load defaultPath ⟨[], some misnamedFile⟩ ≠ .error .notMapping := by
  have read : readFile misnamedFile = .ok (.fields [("cbsigner", .text "y")]) :=
    answer_alike _ _ (by decide +kernel)
  have readable : Readable defaultPath ⟨[], some misnamedFile⟩
      (.fields [("cbsigner", .text "y")]) :=
    ⟨.document, ok_of_to_option _ _ (by decide +kernel), rfl, read⟩
  obtain ⟨judged, _⟩ := documents_judged defaultPath _ _ readable
  refine ⟨judged.notSection.mpr ⟨_, .text "y", rfl, rfl, nofun⟩, fun refused => ?_⟩
  exact (judged.notMapping.mp refused).2.1 _ rfl

/-! ## A list that is not refused -/

def emptyListFile : Bytes := [0x5b, 0x5d]

theorem unset_defaults (around : Surroundings) (bare : around.environment = []) :
    make [] around = .ok ⟨.mainnet, .default⟩ := by
  have only : around.environment.OnlyLeaves := by
    rw [bare]
    exact List.forall_mem_nil _
  have given := make_layers emptySection List.nodup_nil around only
  rw [bare] at given
  exact given

-- An empty list is no mapping, and gives what an empty file gives.
theorem empty_list_taken :
    readFile emptyListFile = .ok (.list []) ∧
      load defaultPath ⟨[], some emptyListFile⟩ = .ok ⟨.mainnet, .default⟩ := by
  have read : readFile emptyListFile = .ok (.list []) := answer_alike _ _ (by decide +kernel)
  have readable : Readable defaultPath ⟨[], some emptyListFile⟩ (.list []) :=
    ⟨.document, ok_of_to_option _ _ (by decide +kernel), rfl, read⟩
  refine ⟨read, ?_⟩
  rw [load_entries defaultPath _ _ readable [] (entries_of_void _ rfl)]
  exact unset_defaults _ rfl

end Settings

end KeyCustody
