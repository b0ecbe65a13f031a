import KeyCustody.Chain.Choice
import KeyCustody.Config.File
import KeyCustody.Record.Attribute
import KeyCustody.Session
import KeyCustody.Signature.Bls
import KeyCustody.Proofs.Ledger
import KeyCustody.Proofs.Merkle
import KeyCustody.Proofs.SigningRoot
import KeyCustody.Proofs.Pubkey
import KeyCustody.Proofs.Signer
import KeyCustody.Proofs.Requests
import KeyCustody.Proofs.Run
import KeyCustody.Proofs.Recorded
import KeyCustody.Proofs.Representation
import KeyCustody.Proofs.Signatures
import KeyCustody.Proofs.Refusals
import KeyCustody.Proofs.Delegations
import KeyCustody.Proofs.History
import KeyCustody.Proofs.Binding
import KeyCustody.Proofs.Separation
import KeyCustody.Proofs.View
import KeyCustody.Proofs.Secrecy
import KeyCustody.Proofs.Hex
import KeyCustody.Proofs.Spelling
import KeyCustody.Proofs.NormalForm
import KeyCustody.Proofs.Batch
import KeyCustody.Proofs.Json
import KeyCustody.Proofs.Reload
import KeyCustody.Proofs.Entries
import KeyCustody.Proofs.Variables
import KeyCustody.Proofs.Layering
import KeyCustody.Proofs.Audit
import KeyCustody.Proofs.Commands
import KeyCustody.Proofs.Scopes
import KeyCustody.Proofs.Blocks
import KeyCustody.Proofs.Nesting
import KeyCustody.Proofs.Handlers
import KeyCustody.Proofs.Delivery
import KeyCustody.Proofs.Tree
import KeyCustody.Proofs.ByteVector
import KeyCustody.Proofs.HexForms
import KeyCustody.Proofs.KeyFields
import KeyCustody.Proofs.LogLines
import KeyCustody.Proofs.SecretKeys
import KeyCustody.Proofs.ChainNames
import KeyCustody.Proofs.Documents
import KeyCustody.Proofs.Silence
import KeyCustody.Proofs.Dictionary
