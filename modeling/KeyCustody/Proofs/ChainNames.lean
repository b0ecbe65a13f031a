import KeyCustody.Chain.Choice
import KeyCustody.Proofs.Layering
import KeyCustody.Proofs.Recorded
import KeyCustody.Proofs.Representation

/-!
The name of a chain may be given by itself, among the entries of settings, in a file, or in the
environment. Whichever way it comes, it names the same chain or none, and a session that is opened
with the settings is one that is opened with that chain and signs under its domain.
-/

set_option autoImplicit false

namespace KeyCustody

/-! ## Names -/

namespace Chain

theorem read_name (chain : Chain) : read? (Text.ofString chain.name) = some chain := by
  cases chain <;> decide +kernel

theorem named_iff (text : Text) (chain : Chain) :
    ofName? text = some chain ↔ text = Text.ofString chain.name := by
  constructor
  · intro found
    have named := List.find?_some found
    exact (of_decide_eq_true named).symm
  · rintro rfl
    cases chain <;> decide +kernel

theorem of_text_ok_iff (text : Text) (chain : Chain) :
    ofText text = .ok chain ↔ Text.lower (Text.strip text) = Text.ofString chain.name := by
  rw [← named_iff, ← read?, ofText, ofValue]
  cases read? text with
  | none => simp
  | some other => simp

theorem of_text_refused (text : Text) (unread : read? text = none) :
    ofText text = .error (.unknownChain (.text text)) := by
  rw [ofText, ofValue, unread]

theorem of_text_read (text : Text) (chain : Chain) (read : read? text = some chain) :
    ofText text = .ok chain := by
  rw [ofText, ofValue, read]

end Chain

/-! ## Environments -/

namespace Environment

-- There are no variables with the leading part.
def Bare (environment : Environment) : Prop :=
  ∀ setting ∈ environment,
    ¬ (Text.lower Options.defaultLeading).isPrefixOf (Text.lower setting.1) = true

-- Of the variables with the leading part there is none but that of the chain.
def ChainOnly (environment : Environment) : Prop :=
  ∀ setting ∈ environment,
    (Text.lower Options.defaultLeading).isPrefixOf (Text.lower setting.1) = true →
      Text.lower setting.1 = Text.lower chainVariable

instance (environment : Environment) : Decidable environment.ChainOnly :=
  inferInstanceAs (Decidable (∀ setting ∈ environment, _ → _))

theorem bare_chain_only (environment : Environment) (bare : environment.Bare) :
    environment.ChainOnly :=
  fun setting member leading => absurd leading (bare setting member)

theorem chain_only_leaves (environment : Environment) (only : environment.ChainOnly) :
    environment.OnlyLeaves := by
  intro setting member leading
  rw [only setting member leading]
  exact List.mem_map_of_mem List.mem_cons_self

theorem text_none (environment : Environment) (name : Text)
    (absent : ∀ setting ∈ environment, Text.lower setting.1 ≠ Text.lower name) :
    environment.text? name = none := by
  rw [text?, Option.map_eq_none_iff, List.find?_eq_none]
  intro setting member same
  exact absent setting (List.mem_reverse.mp member) (of_decide_eq_true same)

theorem bare_text (environment : Environment) (bare : environment.Bare) (name : Text)
    (leading : (Text.lower Options.defaultLeading).isPrefixOf (Text.lower name) = true) :
    environment.text? name = none := by
  apply text_none
  intro setting member same
  exact bare setting member (same ▸ leading)

theorem chain_only_text (environment : Environment) (only : environment.ChainOnly) (name : Text)
    (leading : (Text.lower Options.defaultLeading).isPrefixOf (Text.lower name) = true)
    (other : Text.lower name ≠ Text.lower chainVariable) : environment.text? name = none := by
  apply text_none
  intro setting member same
  exact other (same ▸ only setting member (same ▸ leading))

end Environment

/-! ## Settings -/

namespace Settings

open Environment (chainVariable levelVariable jsonVariable)

def chainSection (value : Value) : Section where
  fields := [("chain", value)]
  plain := by
    intro field member
    rw [List.mem_singleton.mp member]
    exact (by decide : (Text.ofString "chain").head? ≠ some (.char '_'))
  nested := by
    intro field member named
    rw [List.mem_singleton.mp member] at named
    exact absurd named (by decide : Text.ofString "chain" ≠ Text.ofString "logging")

-- A section that tells of the chain or of nothing.
inductive Slim : Section → Prop
  | empty : Slim emptySection
  | chain (value : Value) : Slim (chainSection value)

theorem slim_distinct (given : Section) (slim : Slim given) : Value.Distinct given.entries := by
  cases slim with
  | empty => exact List.nodup_nil
  | chain value => exact List.nodup_singleton _

theorem slim_logging (given : Section) (slim : Slim given) (name : Text) :
    given.loggingLeaf? name = none := by
  cases slim <;> rfl

-- What a text has to say of the chain is all that is chosen.
def named (text : Text) : Leaves := ⟨some (.text text), none, none⟩

theorem leaves_unnamed (environment : Environment) (only : environment.ChainOnly) :
    environment.text? levelVariable = none ∧ environment.text? jsonVariable = none :=
  ⟨environment.chain_only_text only levelVariable (by decide +kernel) (by decide +kernel),
    environment.chain_only_text only jsonVariable (by decide +kernel) (by decide +kernel)⟩

theorem chosen_from_section (environment : Environment) (bare : environment.Bare) (text : Text) :
    chosen environment (chainSection (.text text)) = named text := by
  obtain ⟨level, json⟩ := leaves_unnamed environment (environment.bare_chain_only bare)
  have chain := environment.bare_text bare chainVariable (by decide +kernel)
  rw [chosen, chain, level, json]
  rfl

theorem chosen_from_variable (environment : Environment) (only : environment.ChainOnly)
    (given : Section) (slim : Slim given) (text : Text)
    (told : environment.text? chainVariable = some text) :
    chosen environment given = named text := by
  obtain ⟨level, json⟩ := leaves_unnamed environment only
  rw [chosen, told, level, json, slim_logging given slim, slim_logging given slim]
  rfl

theorem named_chain (text : Text) (chain : Chain) (read : Chain.read? text = some chain) :
    (named text).check.asRecord modelName = .ok ⟨chain, .default⟩ := by
  rw [as_record_ok_iff, leaves_check_ok_iff]
  refine ⟨?_, rfl, rfl⟩
  change chainField (.text text) = .ok chain
  rw [chainField, read]

theorem unnamed_chain (text : Text) (unread : Chain.read? text = none) :
    (named text).check.asRecord modelName =
      .error (.invalid modelName [⟨["chain"], .chainName text⟩]) := by
  have field : chainField (.text text) = Checked.fail (.chainName text) := by
    rw [chainField, unread]
  have checked : (named text).check = .error [⟨["chain"], .chainName text⟩] := by
    change (Checked.both (Checked.under "chain" (chainField (.text text))) _).map _ = _
    rw [field]
    rfl
  have whole : (unknownChainText (.text text)).any (·.isHalf) = false :=
    (Text.whole_iff _).mp ⟨Value.literal (.text text) ++ " is not a valid Chain".toList, by
      rw [Text.ofChars, List.map_append]
      rfl⟩
  rw [checked, Checked.asRecord]
  change Except.error (Checked.recordFault modelName [⟨["chain"], .chainName text⟩]) = _
  rw [Checked.recordFault]
  simp [FieldCause.objection?, whole]

/-! ## Routes -/

-- The ways of naming a chain to settings, with what the settings come to. A file may hold the name,
-- and a variable of the environment stands over whatever else is said of the chain.
inductive Route (text : Text) : Except Fault Settings → Prop
  | given (around : Surroundings) (bare : around.environment.Bare) :
      Route text (make [(.text "chain", .text text)] around)
  | file (path : Text) (around : Surroundings)
      (configured : Configured path around (chainSection (.text text)))
      (bare : around.environment.Bare) : Route text (load path around)
  | setting (around : Surroundings) (given : Section) (slim : Slim given)
      (only : around.environment.ChainOnly)
      (told : around.environment.text? chainVariable = some text) :
      Route text (make given.entries around)
  | settingOverFile (path : Text) (around : Surroundings) (given : Section) (slim : Slim given)
      (configured : Configured path around given) (only : around.environment.ChainOnly)
      (told : around.environment.text? chainVariable = some text) : Route text (load path around)

theorem route_named (text : Text) (answer : Except Fault Settings) (route : Route text answer) :
    answer = (named text).check.asRecord modelName := by
  cases route with
  | given around bare =>
      have only := around.environment.chain_only_leaves (around.environment.bare_chain_only bare)
      rw [← chosen_from_section around.environment bare text]
      exact make_layers _ (slim_distinct _ (.chain _)) around only
  | file path around configured bare =>
      rw [← chosen_from_section around.environment bare text]
      exact load_layers path around (chainSection (.text text)) configured
  | setting around given slim only told =>
      rw [← chosen_from_variable around.environment only given slim text told]
      exact make_layers given (slim_distinct given slim) around
        (around.environment.chain_only_leaves only)
  | settingOverFile path around given slim configured only told =>
      rw [← chosen_from_variable around.environment only given slim text told]
      exact load_layers path around given configured

-- The settings have the chain that the text names by itself, or are refused as it is.
structure Agrees (text : Text) (answer : Except Fault Settings) : Prop where
  chain : ∀ chain, Chain.ofText text = .ok chain → answer = .ok ⟨chain, .default⟩
  refused : ∀ fault, Chain.ofText text = .error fault →
    answer = .error (.invalid modelName [⟨["chain"], .chainName text⟩])

theorem route_agrees (text : Text) (answer : Except Fault Settings) (route : Route text answer) :
    Agrees text answer := by
  rw [route_named text answer route]
  cases read : Chain.read? text with
  | none =>
      have refused := Chain.of_text_refused text read
      refine ⟨fun chain found => ?_, fun fault _ => unnamed_chain text read⟩
      rw [refused] at found
      cases found
  | some chain =>
      have found := Chain.of_text_read text chain read
      refine ⟨fun other same => ?_, fun fault failed => ?_⟩
      · rw [found] at same
        cases same
        exact named_chain text chain read
      · rw [found] at failed
        cases failed

end Settings

/-! ## Signatures -/

-- What is signed on a chain is signed under the domain of its genesis fork.
def SignedUnder (S : Scheme) (chain : Chain) (secret : Int) (message : Message)
    (signature : Bytes) : Prop :=
  ∃ domain root node,
    computeDomain builderDomainType chain.forkVersion noValidatorsRoot = .ok domain ∧
      message.treeRoot = .ok root ∧ signingRoot root domain = .ok node ∧
      S.sign secret node = some signature

theorem message_signed_under (S : Scheme) (chain : Chain) (secret : Int) (message : Message)
    (signature : Bytes) (signed : S.signMessage chain secret message = .ok signature) :
    SignedUnder S chain secret message signature := by
  obtain ⟨node, found, answered⟩ := (sign_message_iff chain secret message signature).mp signed
  obtain ⟨root, rooted, joined⟩ := (bind_ok_iff _ _ _).mp found
  obtain ⟨domain, told, joined⟩ := (bind_ok_iff _ _ _).mp joined
  exact ⟨domain, root, node, told, rooted, joined, answered⟩

theorem Registry.signature_under (S : Scheme) (registry : Registry) (scope : Scope) (role : Role)
    (pubkey : Value) (message : Message) (signature : Bytes)
    (answered : (registry.sign S scope role pubkey message).answer = .ok signature) :
    ∃ key signer secret, toPubkey pubkey = .ok key ∧ registry.signer? role key = some signer ∧
      signer.backend = .plain secret ∧
      SignedUnder S registry.chain secret message signature := by
  obtain ⟨key, signer, read, found, signed⟩ :=
    sign_answers S registry scope role pubkey message signature answered
  rw [Signer.sign] at signed
  cases held : signer.backend with
  | foreign value =>
      rw [held] at signed
      cases signed
  | plain secret =>
      rw [held] at signed
      exact ⟨key, signer, secret, read, found, held,
        message_signed_under S registry.chain secret message signature signed⟩

namespace Settings

-- A session that is opened with settings is one of their chain.
structure SignsOn (S : Scheme) (settings : Settings) (chain : Chain) : Prop where
  runs : ∀ steps,
    (Session.ofSettings settings).run S steps = (Session.start chain).run S steps
  signs : ∀ registry, Registry.Reachable S settings.chain registry →
    ∀ scope role pubkey message signature,
      (registry.sign S scope role pubkey message).answer = .ok signature →
        ∃ key signer secret, toPubkey pubkey = .ok key ∧
          registry.signer? role key = some signer ∧ signer.backend = .plain secret ∧
          SignedUnder S chain secret message signature

theorem settings_sign_on (S : Scheme) (settings : Settings) :
    SignsOn S settings settings.chain where
  runs steps := by rw [Session.ofSettings]
  signs registry reached scope role pubkey message signature answered := by
    rw [← Registry.reachable_chain settings.chain registry reached]
    exact registry.signature_under S scope role pubkey message signature answered

theorem chain_routes_agree (S : Scheme) (text : Text) :
    (∀ chain, Chain.ofText text = .ok chain ↔
      Text.lower (Text.strip text) = Text.ofString chain.name) ∧
    ((∀ chain : Chain, Text.lower (Text.strip text) ≠ Text.ofString chain.name) →
      Chain.ofText text = .error (.unknownChain (.text text))) ∧
    (∀ chain, Chain.ofText (Text.ofString chain.name) = .ok chain) ∧
    ∀ answer, Route text answer → Agrees text answer ∧
      ∀ settings, answer = .ok settings →
        ∃ chain, Chain.ofText text = .ok chain ∧ SignsOn S settings chain := by
  refine ⟨Chain.of_text_ok_iff text, fun unnamed => ?_, fun chain => ?_, fun answer route => ?_⟩
  · cases read : Chain.read? text with
    | none => exact Chain.of_text_refused text read
    | some chain =>
        exact absurd ((Chain.of_text_ok_iff text chain).mp (Chain.of_text_read text chain read))
          (unnamed chain)
  · exact Chain.of_text_read _ chain (Chain.read_name chain)
  · have agrees := route_agrees text answer route
    refine ⟨agrees, fun settings made => ?_⟩
    cases found : Chain.ofText text with
    | error fault =>
        rw [agrees.refused fault found] at made
        cases made
    | ok chain =>
        rw [agrees.chain chain found] at made
        cases made
        exact ⟨chain, rfl, settings_sign_on S _⟩

-- A wide blank in front, and the sign for kelvin, which has the lower case of a letter.
def kelvinName : Text := [.char '\u2003', .char 'H', .char 'o', .char 'l', .char 'e', .char 's',
  .char '\u212a', .char 'Y', .char '\n']

def kelvinSurroundings : Surroundings := ⟨[("HOME", "text"), ("cbsigner_Chain", kelvinName)], none⟩

theorem kelvin_names_holesky :
    make (chainSection (.bool true)).entries kelvinSurroundings = .ok ⟨.holesky, .default⟩ ∧
      SignsOn Recorded.scheme ⟨.holesky, .default⟩ .holesky := by
  obtain ⟨named, _, _, routes⟩ := chain_routes_agree Recorded.scheme kelvinName
  have found : Chain.ofText kelvinName = .ok .holesky := (named .holesky).mpr (by decide +kernel)
  have route : Route kelvinName (make (chainSection (.bool true)).entries kelvinSurroundings) :=
    .setting kelvinSurroundings _ (.chain (.bool true)) (by decide +kernel) (by decide +kernel)
  obtain ⟨agrees, signs⟩ := routes _ route
  have made := agrees.chain .holesky found
  obtain ⟨chain, told, signsOn⟩ := signs _ made
  rw [found] at told
  cases told
  exact ⟨made, signsOn⟩

end Settings

end KeyCustody
