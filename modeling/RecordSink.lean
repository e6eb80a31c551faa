import RecordSink.Main
import RecordSink.Proofs.Config.Verdicts
import RecordSink.Proofs.Database.Abandoned
import RecordSink.Proofs.Database.Commits
import RecordSink.Proofs.Database.Injections
import RecordSink.Proofs.Database.Keys
import RecordSink.Proofs.Database.Refusals
import RecordSink.Proofs.Database.Transactions
import RecordSink.Proofs.Database.Verbs
import RecordSink.Proofs.Database.Writers
import RecordSink.Proofs.Json.RoundTrip
import RecordSink.Proofs.Retention.Effects
import RecordSink.Proofs.Retention.Timelines
import RecordSink.Proofs.Service.Forwarding
import RecordSink.Proofs.Service.Reloads
import RecordSink.Proofs.Service.Rereading
import RecordSink.Proofs.Sql.Derivations
import RecordSink.Proofs.Sql.Grammar
import RecordSink.Proofs.Sql.Lexemes
import RecordSink.Proofs.Store.Admissions
import RecordSink.Proofs.Store.Budgets
import RecordSink.Proofs.Store.Chronicles
import RecordSink.Proofs.Store.Connections
import RecordSink.Proofs.Store.Deliveries
import RecordSink.Proofs.Store.Fading
import RecordSink.Proofs.Store.Folding
import RecordSink.Proofs.Store.Lifecycles
import RecordSink.Proofs.Store.Preconditions
import RecordSink.Proofs.Store.Reshaping
import RecordSink.Proofs.Store.Resumptions
import RecordSink.Proofs.Store.Statements
import RecordSink.Session
