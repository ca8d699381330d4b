import Stencil.Main
import Stencil.Message.Stored
import Stencil.Proofs.Resolver.Expansion
import Stencil.Proofs.Resolver.Returns
import Stencil.Proofs.Template.Occurrences
import Stencil.Proofs.Time.WallClock
import Stencil.Session
import Stencil.Store.Session
import Stencil.Proofs.Resolver.Shadowing
import Stencil.Proofs.Template.Depth
import Stencil.Proofs.Resolver.Nesting
import Stencil.Proofs.Resolver.Concatenation
import Stencil.Proofs.Resolver.Succession
import Stencil.Proofs.Resolver.Usage
import Stencil.Proofs.Resolver.Count
import Stencil.Proofs.Resolver.PassLimit
import Stencil.Proofs.Resolver.Reachability
import Stencil.Proofs.Template.Tokens
import Stencil.Proofs.Resolver.SingleBuiltin
import Stencil.Proofs.Resolver.Missing
import Stencil.Proofs.Json.Strings
import Stencil.Proofs.Text.Numerals
import Stencil.Proofs.Json.Documents
import Stencil.Proofs.Json.RoundTrip
import Stencil.Proofs.Store.Walk
import Stencil.Proofs.Store.Durability
import Stencil.Proofs.CommandLine
import Stencil.Proofs.Builtin.RandomNumber
import Stencil.Proofs.Resolver.Visits
import Stencil.Proofs.Session.Requests
import Stencil.Proofs.Time.Limits
import Stencil.Proofs.Time.Calendar
import Stencil.Proofs.Time.MonthArithmetic
import Stencil.Proofs.Time.ConstantOffset
import Stencil.Proofs.Time.FixedLengths
import Stencil.Proofs.Time.Filling
import Stencil.Proofs.Text.Keywords
import Stencil.Proofs.Modifier.NumberTokens
import Stencil.Proofs.Modifier.Classes
import Stencil.Proofs.Builtin.EffectiveModifiers
import Stencil.Proofs.Time.ZeroOffset
import Stencil.Proofs.Time.Renderings
import Stencil.Proofs.Template.Splitting
import Stencil.Proofs.Resolver.Chains
import Stencil.Proofs.Resolver.Referable
import Stencil.Proofs.Message.Hints
import Stencil.Proofs.Store.Loading
import Stencil.Proofs.Json.KnownFields
import Stencil.Proofs.CommandLine.Assignments
import Stencil.Proofs.Builtin.RandomIdentifier
import Stencil.Proofs.Builtin.Inert
