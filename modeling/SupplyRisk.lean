import SupplyRisk.Command.Json
import SupplyRisk.Json.Rebuild
import SupplyRisk.Main
import SupplyRisk.Proofs.Alert.Dispatch
import SupplyRisk.Proofs.Alert.Interleaving
import SupplyRisk.Proofs.Alert.Lifecycle
import SupplyRisk.Proofs.Command.Session
import SupplyRisk.Proofs.Config.Delay
import SupplyRisk.Proofs.Engine.Accounting
import SupplyRisk.Proofs.Engine.AppendOnly
import SupplyRisk.Proofs.Engine.Attempts
import SupplyRisk.Proofs.Engine.Debts
import SupplyRisk.Proofs.Engine.Derived
import SupplyRisk.Proofs.Engine.EventOnce
import SupplyRisk.Proofs.Engine.Integrity
import SupplyRisk.Proofs.Engine.LinkedOnce
import SupplyRisk.Proofs.Engine.Listener
import SupplyRisk.Proofs.Engine.Masking
import SupplyRisk.Proofs.Engine.Order
import SupplyRisk.Proofs.Engine.Repetition
import SupplyRisk.Proofs.Engine.Severity
import SupplyRisk.Proofs.Engine.Tracking
import SupplyRisk.Proofs.Exchange.LastRow
import SupplyRisk.Proofs.Exchange.Reimport
import SupplyRisk.Proofs.Exchange.Rejection
import SupplyRisk.Proofs.Failure
import SupplyRisk.Proofs.Scoring.Window
import SupplyRisk.Proofs.Store.OneSuggestion
import SupplyRisk.Proofs.Store.Writers
import SupplyRisk.Proofs.Suggestion.Generation
import SupplyRisk.Store.Scenario
