import NetworkPolicy.Access
import NetworkPolicy.Payload.Conversion
import NetworkPolicy.Proofs.Addresses
import NetworkPolicy.Proofs.Allotment
import NetworkPolicy.Proofs.Atomicity
import NetworkPolicy.Proofs.Conversions
import NetworkPolicy.Proofs.Demands
import NetworkPolicy.Proofs.Documents
import NetworkPolicy.Proofs.Entering
import NetworkPolicy.Proofs.Entries
import NetworkPolicy.Proofs.Growth
import NetworkPolicy.Proofs.Handles
import NetworkPolicy.Proofs.Independence
import NetworkPolicy.Proofs.Indifference
import NetworkPolicy.Proofs.Instalments
import NetworkPolicy.Proofs.Interruptions
import NetworkPolicy.Proofs.Json.Faithful
import NetworkPolicy.Proofs.Ledger
import NetworkPolicy.Proofs.Listing
import NetworkPolicy.Proofs.Numbers
import NetworkPolicy.Proofs.Opening
import NetworkPolicy.Proofs.Payloads
import NetworkPolicy.Proofs.Precedence
import NetworkPolicy.Proofs.Provenance
import NetworkPolicy.Proofs.Ranges
import NetworkPolicy.Proofs.Reduction
import NetworkPolicy.Proofs.Relisting
import NetworkPolicy.Proofs.Reopening
import NetworkPolicy.Proofs.Repetition
import NetworkPolicy.Proofs.Requests
import NetworkPolicy.Proofs.Restoration
import NetworkPolicy.Proofs.Scarcity
import NetworkPolicy.Proofs.Selections
import NetworkPolicy.Proofs.Striking
import NetworkPolicy.Proofs.Tags
import NetworkPolicy.Proofs.Uninterrupted
import NetworkPolicy.Proofs.Upgrades
import NetworkPolicy.Settings.Connection
import NetworkPolicy.Store.Batch
import NetworkPolicy.Store.Listing
import NetworkPolicy.Store.Opening
import NetworkPolicy.Store.Tags
import NetworkPolicy.Proofs.Inquiries
import NetworkPolicy.Proofs.Membership
import NetworkPolicy.Proofs.Json.Wellformed
import NetworkPolicy.Proofs.Json.Lenient
import NetworkPolicy.Proofs.Leniency
import NetworkPolicy.Proofs.Causes
import NetworkPolicy.Proofs.TagTexts
import NetworkPolicy.Proofs.Placeholders
