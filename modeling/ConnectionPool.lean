import ConnectionPool.Proofs.Attributes.Mapping
import ConnectionPool.Proofs.Cache.Printing
import ConnectionPool.Proofs.Chain.Nesting
import ConnectionPool.Proofs.Client.Transparent
import ConnectionPool.Proofs.Closing.Deciding
import ConnectionPool.Proofs.Closing.Disposal
import ConnectionPool.Proofs.Closing.Release
import ConnectionPool.Proofs.Closing.Shutdown
import ConnectionPool.Proofs.Closing.Stores
import ConnectionPool.Proofs.Custody.Lifecycle
import ConnectionPool.Proofs.Custody.Lines
import ConnectionPool.Proofs.Custody.Logbook
import ConnectionPool.Proofs.Pool.Starting
import ConnectionPool.Proofs.Properties.Policies
import ConnectionPool.Proofs.Session.Accounts
import ConnectionPool.Proofs.Session.Admission
import ConnectionPool.Proofs.Session.Exclusive
import ConnectionPool.Proofs.Session.Hits
import ConnectionPool.Proofs.Session.Isolation
import ConnectionPool.Proofs.Session.Offering
import ConnectionPool.Proofs.Session.Preparing
import ConnectionPool.Proofs.Session.Recency
import ConnectionPool.Proofs.Session.Stacked
import ConnectionPool.Proofs.Session.Staying
import ConnectionPool.Proofs.Session.Supplying
import ConnectionPool.Proofs.Session.Sweeping
import ConnectionPool.Proofs.Session.Tallies
import ConnectionPool.Session.Run
