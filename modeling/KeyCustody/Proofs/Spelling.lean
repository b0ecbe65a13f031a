import KeyCustody.Proofs.Hex
import KeyCustody.Proofs.NormalForm
import Mathlib.Data.List.Forall2

/-!
The spelling of a public key never matters: sessions whose keys are spelled in other ways are the
same step by step, and every key that they store or tell is in its normal form.
-/

set_option autoImplicit false

namespace KeyCustody

/-! ## Delegations -/

def Value.Matching (related : Value → Value → Prop) (entries others : Value.Entries) : Prop :=
  List.Forall₂ (fun entry other => entry.1 = other.1 ∧ related entry.2 other.2) entries others

theorem find_matching (related : Value → Value → Prop) (entries others : Value.Entries)
    (matching : Value.Matching related entries others) (name : Text) :
    Option.Rel related ((entries.find? fun entry => entry.1.isText name).map (·.2))
      ((others.find? fun entry => entry.1.isText name).map (·.2)) := by
  induction matching with
  | nil => exact .none
  | @cons entry other _ _ head _ ih =>
      obtain ⟨names, values⟩ := head
      by_cases here : other.1.isText name
      · simp only [List.find?_cons, names, here, Option.map_some]
        exact .some values
      · simp only [List.find?_cons, names, here]
        exact ih

theorem field_matching (related : Value → Value → Prop) (entries others : Value.Entries)
    (matching : Value.Matching related entries others) (name : Text) :
    Option.Rel related (Value.field? entries name) (Value.field? others name) :=
  find_matching related entries.reverse others.reverse (List.forall₂_reverse_iff.mpr matching) name

theorem required_matching {α : Type} (related : Value → Value → Prop) (read : Value → Checked α)
    (reads : ∀ value other, related value other → read value = read other)
    (entries others : Value.Entries) (matching : Value.Matching related entries others)
    (name : Text) : required entries name read = required others name read := by
  have fields := field_matching related entries others matching name
  rw [required, required]
  cases found : Value.field? entries name with
  | none =>
      rw [found] at fields
      cases otherFound : Value.field? others name with
      | none => rfl
      | some other =>
          rw [otherFound] at fields
          cases fields
  | some value =>
      rw [found] at fields
      cases otherFound : Value.field? others name with
      | none =>
          rw [otherFound] at fields
          cases fields
      | some other =>
          rw [otherFound] at fields
          cases fields with
          | some values => exact congrArg (Checked.under name) (reads value other values)

theorem pubkey_field_respelled (value other : Value) (same : toPubkey value = toPubkey other) :
    bytesField pubkeyLength value = bytesField pubkeyLength other := by
  rw [toPubkey, toPubkey] at same
  rw [bytesField, bytesField]
  cases read : fixedBytes pubkeyLength value with
  | ok key =>
      rw [read] at same
      rw [(map_error_ok_iff _ _ key).mp same.symm]
  | error cause =>
      rw [read] at same
      obtain ⟨otherCause, otherRead, causes⟩ := (map_error_error_iff _ _ _).mp same.symm
      cases causes
      rw [otherRead]

-- The same value, or a mapping in which some keys are spelled in other ways.
inductive Delegation.Respelled : Value → Value → Prop
  | same (value : Value) : Respelled value value
  | fields (entries others : Value.Entries)
      (matching : Value.Matching (fun value other => toPubkey value = toPubkey other) entries
        others) : Respelled (.mapping entries) (.mapping others)

inductive SignedDelegation.Respelled : Value → Value → Prop
  | same (value : Value) : Respelled value value
  | fields (entries others : Value.Entries)
      (matching : Value.Matching Delegation.Respelled entries others) :
      Respelled (.mapping entries) (.mapping others)

theorem delegation_respelled (origin : Origin) (value other : Value)
    (respelled : Delegation.Respelled value other) :
    Delegation.check origin value = Delegation.check origin other := by
  cases respelled with
  | same => rfl
  | fields entries others matching =>
      have reads := required_matching _ _ pubkey_field_respelled entries others matching
      rw [Delegation.check, Delegation.check, reads, reads]

theorem bytes_field_respelled (length : Nat) (value other : Value)
    (respelled : Delegation.Respelled value other) :
    bytesField length value = bytesField length other := by
  cases respelled with
  | same => rfl
  | fields => rfl

theorem signed_delegation_respelled (value other : Value)
    (respelled : SignedDelegation.Respelled value other) :
    SignedDelegation.ofValue value = SignedDelegation.ofValue other := by
  cases respelled with
  | same => rfl
  | fields entries others matching =>
      have messages := required_matching _ _ (delegation_respelled .value) entries others matching
      have signatures := required_matching _ _ (bytes_field_respelled signatureLength) entries
        others matching
      rw [SignedDelegation.ofValue, SignedDelegation.ofValue, SignedDelegation.check,
        SignedDelegation.check, messages, signatures]

/-! ## Sessions -/

inductive Request.Respelled : Request → Request → Prop
  | createProxy (entropy : Bytes) (delegator other : Value)
      (same : toPubkey delegator = toPubkey other) :
      Respelled (.createProxy entropy delegator) (.createProxy entropy other)
  | sign (role : Role) (pubkey other : Value) (message : Message)
      (same : toPubkey pubkey = toPubkey other) :
      Respelled (.sign role pubkey message) (.sign role other message)

inductive Command.Respelled : Command → Command → Prop
  | same (command : Command) : Respelled command command
  | addProxy (delegation other : Value) (source : KeySource)
      (respelled : SignedDelegation.Respelled delegation other) :
      Respelled (.addProxy delegation source) (.addProxy other source)
  | request (request other : Request) (respelled : request.Respelled other) :
      Respelled (.request request) (.request other)
  | gather (requests others : List Request)
      (respelled : List.Forall₂ Request.Respelled requests others) :
      Respelled (.gather requests) (.gather others)
  | hasConsensus (pubkey other : Value) (same : toPubkey pubkey = toPubkey other) :
      Respelled (.hasConsensus pubkey) (.hasConsensus other)
  | hasProxy (pubkey other : Value) (same : toPubkey pubkey = toPubkey other) :
      Respelled (.hasProxy pubkey) (.hasProxy other)
  | getDelegation (pubkey other : Value) (same : toPubkey pubkey = toPubkey other) :
      Respelled (.getDelegation pubkey) (.getDelegation other)

def Session.Step.Respelled (step other : Session.Step) : Prop :=
  step.time = other.time ∧ step.command.Respelled other.command

namespace Session

variable (S : Scheme)

theorem serve_respelled (session : Session) (request other : Request)
    (respelled : request.Respelled other) : session.serve S request = session.serve S other := by
  cases respelled with
  | createProxy entropy delegator other same =>
      rw [serve, serve, Registry.createProxy, Registry.createProxy, same]
  | sign role pubkey other message same =>
      rw [serve, serve, Registry.sign, Registry.sign, same]

theorem serve_all_respelled (session : Session) (requests others : List Request)
    (respelled : List.Forall₂ Request.Respelled requests others) :
    session.serveAll S requests = session.serveAll S others := by
  induction respelled generalizing session with
  | nil => rfl
  | cons head _ ih => simp only [serveAll, serve_respelled S session _ _ head, ih]

theorem perform_respelled (session : Session) (command other : Command)
    (respelled : command.Respelled other) :
    session.perform S command = session.perform S other := by
  cases respelled with
  | same => rfl
  | addProxy delegation other source respelled =>
      rw [perform, perform, addProxy, addProxy,
        signed_delegation_respelled delegation other respelled]
  | request request other respelled => exact serve_respelled S session request other respelled
  | gather requests others respelled =>
      rw [perform, perform, serve_all_respelled S session requests others respelled]
  | hasConsensus pubkey other same =>
      rw [perform, perform, Registry.hasConsensus, Registry.hasConsensus, same]
  | hasProxy pubkey other same =>
      rw [perform, perform, Registry.hasProxy, Registry.hasProxy, same]
  | getDelegation pubkey other same =>
      rw [perform, perform, Registry.getDelegation, Registry.getDelegation, same]

theorem run_respelled (session : Session) (steps others : List Step)
    (respelled : List.Forall₂ Step.Respelled steps others) :
    session.run S steps = session.run S others := by
  induction respelled generalizing session with
  | nil => rfl
  | @cons step other _ _ head _ ih =>
      obtain ⟨times, commands⟩ := head
      have advanced : session.advance S step = session.advance S other := by
        rw [advance, advance, times]
        exact perform_respelled S _ _ _ commands
      simp only [run, advanced, ih]

theorem spelling_never_matters (keyed : S.Keyed) (signing : S.Signing) (chain : Chain)
    (steps others : List Step) (respelled : List.Forall₂ Step.Respelled steps others) :
    ((start chain).run S steps).2 = ((start chain).run S others).2 ∧
      (∀ count, ((start chain).run S (steps.take count)).1 =
        ((start chain).run S (others.take count)).1) ∧
      (∀ count key, key ∈ ((start chain).run S (steps.take count)).1.registry.consensus.keys ∨
        key ∈ ((start chain).run S (steps.take count)).1.registry.proxies.keys → Normal key) ∧
      ((∀ step ∈ steps, step.command.Genuine) →
        ∀ response ∈ ((start chain).run S steps).2, NamesNormal response) ∧
      ∀ key value, key.length = pubkeyLength → Spelling key value → toPubkey value = .ok key := by
  have consistent := Registry.empty_consistent (S := S) chain
  refine ⟨?_, fun count => ?_, fun count key held => ?_, fun genuine => ?_, spelling_read⟩
  · rw [run_respelled S (start chain) steps others respelled]
  · rw [run_respelled S (start chain) _ _ (List.forall₂_take count respelled)]
  · have reached := run_consistent (start chain) consistent (steps.take count)
    rcases held with consensus | proxy
    · exact Registry.consensus_keys_normal keyed _ reached key consensus
    · exact Registry.proxy_keys_normal keyed _ reached key proxy
  · have undelegated : (start chain).registry.Delegated := fun _ _ member => by cases member
    exact run_normal keyed signing (start chain) consistent undelegated steps genuine

-- A key as capital digits behind a marker, with a blank in front of each pair.
def spread (key : Bytes) : Value :=
  .text (Text.ofChars
    ('0' :: 'X' :: key.flatMap fun byte => ' ' :: (Hex.pair byte).map Char.toUpper))

-- A proxy is minted, registered once more with the delegation spelled out, and asked for.
def asking (holder proxy : Value) : List Step :=
  [⟨none, .addConsensus (.secret (Bytes.bigEndian 32 Recorded.holderSecret))⟩,
    ⟨none, .request (.createProxy Recorded.entropy holder)⟩,
    ⟨none, .addProxy
      (.fields [("message", .fields [("delegator", holder), ("proxy", proxy)]),
        ("signature", .bytes Recorded.signature)])
      (.secret (Bytes.bigEndian 32 Recorded.proxySecret))⟩,
    ⟨none, .request (.sign .consensus proxy (.root [])) ⟩, ⟨none, .getDelegation proxy⟩]

theorem asking_respelled (holder proxy otherHolder otherProxy : Value)
    (holders : toPubkey holder = toPubkey otherHolder)
    (proxies : toPubkey proxy = toPubkey otherProxy) :
    List.Forall₂ Step.Respelled (asking holder proxy) (asking otherHolder otherProxy) := by
  have message : Delegation.Respelled (.fields [("delegator", holder), ("proxy", proxy)])
      (.fields [("delegator", otherHolder), ("proxy", otherProxy)]) :=
    .fields _ _ (.cons ⟨rfl, holders⟩ (.cons ⟨rfl, proxies⟩ .nil))
  refine .cons ⟨rfl, .same _⟩ (.cons ⟨rfl, .request _ _ (.createProxy _ _ _ holders)⟩
    (.cons ⟨rfl, .addProxy _ _ _ (.fields _ _ (.cons ⟨rfl, message⟩ (.cons ⟨rfl, .same _⟩ .nil)))⟩
      (.cons ⟨rfl, .request _ _ (.sign _ _ _ _ proxies)⟩
        (.cons ⟨rfl, .getDelegation _ _ proxies⟩ .nil))))

theorem asking_genuine (holder proxy : Value) :
    ∀ step ∈ asking holder proxy, step.command.Genuine := by
  intro step member
  simp only [asking, List.mem_cons, List.not_mem_nil, or_false] at member
  rcases member with rfl | rfl | rfl | rfl | rfl
  · trivial
  · trivial
  · intro d told
    cases told
  · trivial
  · trivial

theorem recorded_spelling_never_matters :
    ((start .mainnet).run Recorded.scheme
        (asking (.bytes Recorded.holderKey) (.buffer Recorded.proxyKey))).2 =
      ((start .mainnet).run Recorded.scheme
        (asking (spread Recorded.holderKey) (spread Recorded.proxyKey))).2 ∧
    ((start .mainnet).run Recorded.scheme (asking (spread Recorded.holderKey)
        (spread Recorded.proxyKey))).1.registry.proxies.keys = [Recorded.proxyKey] ∧
    ∀ response ∈ ((start .mainnet).run Recorded.scheme (asking (spread Recorded.holderKey)
        (spread Recorded.proxyKey))).2, NamesNormal response := by
  have read (key : Bytes) (told : (toPubkey (spread key)).toOption = some key) :
      toPubkey (.bytes key) = toPubkey (spread key) := by
    have spelled := ok_of_to_option _ _ told
    rw [spelled]
    exact to_pubkey_idempotent (spread key) key spelled
  have respelled := asking_respelled (.bytes Recorded.holderKey) (.buffer Recorded.proxyKey)
    (spread Recorded.holderKey) (spread Recorded.proxyKey) (read _ (by decide +kernel))
    (read _ (by decide +kernel))
  obtain ⟨same, _⟩ := spelling_never_matters Recorded.scheme Recorded.keyed Recorded.signing
    .mainnet _ _ respelled
  refine ⟨same, by decide +kernel, ?_⟩
  exact same ▸ (spelling_never_matters Recorded.scheme Recorded.keyed Recorded.signing .mainnet _ _
    respelled).2.2.2.1 (asking_genuine _ _)

end Session

end KeyCustody
