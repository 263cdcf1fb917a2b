import Flouze.Sync.Exact
import Flouze.Sync.Clone
import Flouze.Report
import Flouze.Repository.Settled
import Flouze.Repository.SledRefinement
import Flouze.Repository.Leftovers
import Flouze.Repository.Termination
import Flouze.Repository.Conservation
import Flouze.Sync.Order
import Flouze.Sync.Recovery
import Flouze.Sync.CloneFaults
import Flouze.Sync.Convergence
import Flouze.Sync.Progress
import Flouze.Interchange
import Flouze.Isolation
import Flouze.Ledger
import Flouze.Mobile.Forks
import Flouze.Mobile.Retries
import Flouze.Mobile.History
import Flouze.Mobile.Saves
import Flouze.Mobile.Reopening
import Flouze.Cli
import Flouze.Commands.Safety
import Flouze.Commands.Labels
import Flouze.Commands.Listing
import Flouze.Proxy.Lifetimes
import Flouze.Bindings.Refinement
import Flouze.Mobile.LeftAlone
import Flouze.Mobile.Configs
