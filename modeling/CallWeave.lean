import CallWeave.Generator.Describe
import CallWeave.Main
import CallWeave.Proofs.Build.Records
import CallWeave.Session.Basic
import CallWeave.Proofs.Build.Turns
import CallWeave.Proofs.Build.Alignment
import CallWeave.Proofs.Sharing.Family
import CallWeave.Proofs.Sharing.Frame
import CallWeave.Proofs.Sharing.Locality
import CallWeave.Proofs.Sharing.Nested
import CallWeave.Proofs.Sharing.Value
import CallWeave.Proofs.Sharing.Copy
import CallWeave.Proofs.Sharing.Sessions
import CallWeave.Proofs.Codec.Words
import CallWeave.Proofs.Codec.Layout
import CallWeave.Proofs.Codec.Reading
import CallWeave.Proofs.Codec.Clipboards
import CallWeave.Proofs.Codec.Slots
import CallWeave.Proofs.Codec.Wire
import CallWeave.Proofs.Codec.Canonical
import CallWeave.Proofs.Plan.Levels
import CallWeave.Proofs.Plan.Turns
import CallWeave.Proofs.Build.Stops
import CallWeave.Proofs.Plan.Refusal
import CallWeave.Proofs.Plan.References
import CallWeave.Proofs.Codec.Arguments
import CallWeave.Proofs.Plan.Calldata
import CallWeave.Proofs.Sharing.Agreement
import CallWeave.Proofs.Plan.Outbound
import CallWeave.Proofs.Plan.Repetition
import CallWeave.Proofs.Plan.Success
import CallWeave.Proofs.Plan.Matching
import CallWeave.Proofs.Plan.Submission
import CallWeave.Proofs.Plan.Results
import CallWeave.Proofs.Plan.Retagging
import CallWeave.Proofs.Plan.Backward
import CallWeave.Proofs.Plan.Renaming
import CallWeave.Proofs.Sharing.History
import CallWeave.Proofs.Amount.Rounding
import CallWeave.Proofs.Codec.EntryPoints
import CallWeave.Proofs.Build.Omission
import CallWeave.Proofs.Plan.Encodable
import CallWeave.Proofs.Plan.Funds
import CallWeave.Proofs.Transport.Attempts
import CallWeave.Proofs.Transport.Quotes
import CallWeave.Proofs.Transport.Inquiries
import CallWeave.Proofs.Transport.Sequence
import CallWeave.Proofs.Plan.LocalSteps
import CallWeave.Proofs.Plan.Amounts
import CallWeave.Proofs.Plan.Fields
import CallWeave.Proofs.Build.Tolerance
import CallWeave.Proofs.Build.WalkOrder
import CallWeave.Proofs.Build.Failure
import CallWeave.Proofs.Build.Visits
import CallWeave.Proofs.Codec.Numerals
import CallWeave.Proofs.Codec.InstructionLists
import CallWeave.Proofs.Codec.Stored
import CallWeave.Proofs.Json.Scanning
import CallWeave.Proofs.Json.RoundTrip
import CallWeave.Proofs.Json.Values
import CallWeave.Proofs.Run.Entries
import CallWeave.Proofs.Build.Groups
import CallWeave.Proofs.Plan.Acceptance
import CallWeave.Proofs.Codec.Octets
import CallWeave.Proofs.Yaml.Trees
import CallWeave.Proofs.Plan.Documents
import CallWeave.Proofs.Json.Pretty
import CallWeave.Proofs.Files.Writing
import CallWeave.Proofs.Config.Saving
import CallWeave.Proofs.Url.Authority
import CallWeave.Proofs.Config.Endpoint
import CallWeave.Proofs.Codec.Packing
import CallWeave.Proofs.Transport.QuotedWord
import CallWeave.Proofs.Json.Records
import CallWeave.Proofs.Transport.Endpoint
import CallWeave.Proofs.Json.Sizes
import CallWeave.Proofs.CommandLine.Clipboards
