import Paros.Checkpoint.Agreement
import Paros.Replica.Fencing
import Paros.Replica.Read
import Paros.Durability.Compaction
import Paros.Fleet.History
import Paros.Tenant.History
import Paros.Election.Agreement
import Paros.Store.NodeCrash
import Paros.Durability.Word
import Paros.Membership.Addressees
import Paros.Proposer.Paging
import Paros.Universe.Leftovers
import Paros.Replica.Confluence
import Paros.Decree.Agreement
import Paros.Matchmaker.Registry
import Paros.Balance.Flight
import Paros.Registry.Moves
import Paros.Coordinator.Changes
import Paros.Membership.Serde
import Paros.Store.Scrub
import Paros.Writer
