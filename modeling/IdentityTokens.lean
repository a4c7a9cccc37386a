import IdentityTokens.Client.Configuration
import IdentityTokens.Client.Minting
import IdentityTokens.Client.Revocation
import IdentityTokens.Keys.Callers
import IdentityTokens.Proofs.Base64.RoundTrip
import IdentityTokens.Proofs.Token.Segments
import IdentityTokens.Proofs.Verification.Acceptance
import IdentityTokens.Client.Session
import IdentityTokens.Keys.Session
import IdentityTokens.Proofs.Keys.Grant
import IdentityTokens.Proofs.Keys.Cache
import IdentityTokens.Proofs.Keys.Machine
import IdentityTokens.Proofs.Verification.Rotation
import IdentityTokens.Proofs.Keys.Sharing
import IdentityTokens.Proofs.Json.Text
import IdentityTokens.Proofs.Json.Number
import IdentityTokens.Proofs.Json.Sequence
import IdentityTokens.Proofs.Json.Skipping
import IdentityTokens.Proofs.Json.RoundTrip
import IdentityTokens.Proofs.Json.Records
import IdentityTokens.Proofs.Token.Documents
import IdentityTokens.Proofs.Minting.Production
import IdentityTokens.Proofs.Minting.Separation
import IdentityTokens.Client.Operation
import IdentityTokens.Proofs.Verification.Revocation
import IdentityTokens.Proofs.Number.Numeral
import IdentityTokens.Proofs.Verification.Traffic
import IdentityTokens.Proofs.Verification.Revoking
import IdentityTokens.Proofs.Minting.SigningService
import IdentityTokens.Proofs.Minting.Delegation
import IdentityTokens.Client.Signing
import IdentityTokens.Proofs.Minting.Identity
import IdentityTokens.Proofs.Base64.Canonical
import IdentityTokens.Proofs.Json.Entries
import IdentityTokens.Proofs.Json.Kinds
import IdentityTokens.Proofs.Json.Members
import IdentityTokens.Proofs.Json.Roles
import IdentityTokens.Proofs.Token.Payload
import IdentityTokens.Proofs.Token.Nesting
import IdentityTokens.Proofs.Verification.HeaderForms
import IdentityTokens.Proofs.Verification.Precedence
import IdentityTokens.Proofs.Verification.Issued
import IdentityTokens.Proofs.Json.Verbatim
import IdentityTokens.Proofs.Users.Accounts
import IdentityTokens.Proofs.Users.Lookup
import IdentityTokens.Proofs.Http.CacheControl
import IdentityTokens.Proofs.Keys.Collection
import IdentityTokens.Proofs.Client.Configuration
import IdentityTokens.Proofs.Token.Joining
import IdentityTokens.Proofs.Minting.Refusal
