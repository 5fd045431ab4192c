import DeepLink.Main
import DeepLink.Proofs.Address.Layout
import DeepLink.Proofs.Config.Acceptance
import DeepLink.Proofs.Config.Agreement
import DeepLink.Proofs.Config.Replacement
import DeepLink.Proofs.Config.Reporting
import DeepLink.Proofs.Dictionary
import DeepLink.Proofs.Dispatch.Decision
import DeepLink.Proofs.Dispatch.Presentation
import DeepLink.Proofs.Pattern.Compilation
import DeepLink.Proofs.Pattern.Grammar
import DeepLink.Proofs.Pattern.Integers
import DeepLink.Proofs.Pattern.Marks
import DeepLink.Proofs.Pattern.Matching
import DeepLink.Proofs.Pattern.NormalForm
import DeepLink.Proofs.Pattern.Slugs
import DeepLink.Proofs.Pattern.Writing
import DeepLink.Proofs.Query.Meaning
import DeepLink.Proofs.Query.Parameters
import DeepLink.Proofs.Query.Writing
import DeepLink.Proofs.Registry.History
import DeepLink.Proofs.Registry.Order
import DeepLink.Proofs.Registry.Reachable
import DeepLink.Proofs.Resolution.Addition
import DeepLink.Proofs.Resolution.Correctness
import DeepLink.Proofs.Resolution.Extraction
import DeepLink.Proofs.Resolution.Fragment
import DeepLink.Proofs.Resolution.Order
import DeepLink.Proofs.Resolution.Query
import DeepLink.Proofs.Resolution.RoundTrip
import DeepLink.Proofs.Resolution.Slug
import DeepLink.Proofs.Resolution.Verbatim
import DeepLink.Proofs.Segment.Classes
import DeepLink.Proofs.Session.Accounting
import DeepLink.Proofs.Session.Counting
import DeepLink.Proofs.Session.Current
import DeepLink.Proofs.Session.Failure
import DeepLink.Proofs.Session.Repetition
import DeepLink.Proofs.Text.Cutting
import DeepLink.Proofs.Text.Spelling
import DeepLink.Proofs.Url.Shape
import DeepLink.Proofs.Watch.Balance
import DeepLink.Proofs.Watch.Forwarding
import DeepLink.Proofs.Watch.Interleaving
import DeepLink.Proofs.Watch.Memory
