import ScopedImports.InMemory.Finder
import ScopedImports.InMemory.Host
import ScopedImports.InMemory.Loader
import ScopedImports.Session.Describe
import ScopedImports.Session.Request
import ScopedImports.Settings.Codec
import ScopedImports.Settings.FromText
import ScopedImports.Settings.FromValue
import ScopedImports.Proofs.Memo.Chronicle
import ScopedImports.Proofs.Lookup.Walk
import ScopedImports.Proofs.Lookup.Snapshot
import ScopedImports.Proofs.Resolution.BareBatch
import ScopedImports.Proofs.Session.Steps
import ScopedImports.Proofs.Session.Turns
import ScopedImports.Proofs.Session.Resolvers
import ScopedImports.Proofs.Session.FirstSuccess
import ScopedImports.Proofs.Resolution.Replay
import ScopedImports.Proofs.Session.Isolation
import ScopedImports.Proofs.Path.Ancestry
import ScopedImports.Proofs.Session.Transparency
import ScopedImports.Proofs.Lookup.Reentry
import ScopedImports.Proofs.Resolution.Reentry
import ScopedImports.Proofs.Resolution.Numbering
import ScopedImports.Proofs.Session.Events
import ScopedImports.Proofs.Session.Twins
import ScopedImports.Proofs.Session.Refused
import ScopedImports.Proofs.Session.Accounting
import ScopedImports.Proofs.Resolution.Ranks
import ScopedImports.Proofs.Resolution.Singly
import ScopedImports.Proofs.Lookup.Neighbours
import ScopedImports.Proofs.Lookup.Trace
import ScopedImports.Proofs.Session.Neighbours
import ScopedImports.Proofs.Path.Components
import ScopedImports.Proofs.Resolution.Demand
import ScopedImports.Proofs.Session.Strict
import ScopedImports.Proofs.Path.Enumeration
import ScopedImports.Proofs.Path.Names
import ScopedImports.Proofs.Path.Spelling
import ScopedImports.Proofs.Session.DefaultScope
import ScopedImports.Proofs.Path.Folding
import ScopedImports.Proofs.Lookup.Enclosure
import ScopedImports.Proofs.Json.Derivation
import ScopedImports.Proofs.Text.Lowering
import ScopedImports.Proofs.Json.Lexeme
import ScopedImports.Proofs.Json.Phrase
import ScopedImports.Proofs.Json.Numeral
import ScopedImports.Proofs.Json.Spelling
import ScopedImports.Proofs.Settings.Described
import ScopedImports.Proofs.Settings.Visited
import ScopedImports.Proofs.Settings.Documented
import ScopedImports.Proofs.Settings.Followed
import ScopedImports.Proofs.Settings.Reference
import ScopedImports.Proofs.Settings.Decoding
import ScopedImports.Proofs.Text.Utf8
import ScopedImports.Proofs.Settings.RoundTrip
