import Avatar.Actor
import Avatar.Address
import Avatar.Address.Global
import Avatar.Address.Written
import Avatar.Authority
import Avatar.Cache
import Avatar.Cache.Location
import Avatar.Cache.Run
import Avatar.CommandLine
import Avatar.Daemon
import Avatar.Did
import Avatar.Did.Document
import Avatar.Failure
import Avatar.Handle
import Avatar.Image
import Avatar.Instant
import Avatar.Json
import Avatar.Json.Binary64
import Avatar.Json.Encoding
import Avatar.Json.Parser
import Avatar.Json.Printer
import Avatar.Locator
import Avatar.Main
import Avatar.MaxAge
import Avatar.MediaType
import Avatar.MediaType.Layout
import Avatar.MediaType.Parameter
import Avatar.Network
import Avatar.Placeholder
import Avatar.Proofs.Authentication
import Avatar.Proofs.Colors
import Avatar.Proofs.Course
import Avatar.Proofs.DataServers
import Avatar.Proofs.Directives
import Avatar.Proofs.DomainNames
import Avatar.Proofs.Escapes
import Avatar.Proofs.Expiry
import Avatar.Proofs.Handles
import Avatar.Proofs.Headers
import Avatar.Proofs.Identities
import Avatar.Proofs.Inertness
import Avatar.Proofs.Influence
import Avatar.Proofs.Limits
import Avatar.Proofs.Mapped
import Avatar.Proofs.Matching
import Avatar.Proofs.Pictures
import Avatar.Proofs.Placeholders
import Avatar.Proofs.ProfileRecords
import Avatar.Proofs.Provenance
import Avatar.Proofs.Removal
import Avatar.Proofs.Requests
import Avatar.Proofs.Rows
import Avatar.Proofs.Runs
import Avatar.Proofs.Screening
import Avatar.Proofs.Searches
import Avatar.Proofs.Signatures
import Avatar.Proofs.SignedPaths
import Avatar.Proofs.Sources
import Avatar.Proofs.Spellings
import Avatar.Proofs.Stability
import Avatar.Proofs.Sweeps
import Avatar.Proofs.Timing
import Avatar.Proofs.Transitions
import Avatar.Proofs.TxtRecords
import Avatar.Proofs.Urls
import Avatar.Proofs.Validation
import Avatar.Race
import Avatar.Response
import Avatar.Service
import Avatar.Service.Cors
import Avatar.Service.Run
import Avatar.Sha256
import Avatar.Signer
import Avatar.Target
import Avatar.Text
import Avatar.Text.Blank
import Avatar.Text.CaseTable
import Avatar.Text.Charset
import Avatar.Text.ControlSequence
import Avatar.Text.Digit
import Avatar.Text.Hex
import Avatar.Text.Integer
import Avatar.Text.Lowercase
import Avatar.Text.Parts
import Avatar.Text.Pattern
import Avatar.Text.Percent
import Avatar.Text.PrintableTable
import Avatar.Text.Punycode
import Avatar.Text.Quoted
import Avatar.Text.Utf16
import Avatar.Text.Utf8
