import RowStore.Client.Url
import RowStore.Database.Crew
import RowStore.Endpoint
import RowStore.Proofs.Catalog.Declaration
import RowStore.Proofs.Catalog.Deletion
import RowStore.Proofs.Crew.Accounts
import RowStore.Proofs.Database.Absence
import RowStore.Proofs.Database.Chronicle
import RowStore.Proofs.Database.Creation
import RowStore.Proofs.Database.Erasure
import RowStore.Proofs.Database.Separation
import RowStore.Proofs.Endpoint.Facade
import RowStore.Proofs.Journal.Emission
import RowStore.Proofs.Metrics.Registration
import RowStore.Proofs.Settings
import RowStore.Proofs.Statement.Command
import RowStore.Proofs.Trace.Nest
import RowStore.Proofs.Workers.Alone
import RowStore.Proofs.Workers.Linearization
import RowStore.Proofs.Workers.Views
import RowStore.Trace.Provider
