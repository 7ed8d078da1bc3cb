import Atlas.Android.CommandWorker
import Atlas.Client.CommandExecute
import Atlas.Client.Dispatch
import Atlas.Client.FeedbackWindow
import Atlas.Client.KeepaliveBudget
import Atlas.Client.PacketStatistics
import Atlas.Client.Reconnect
import Atlas.Client.ThresholdAlert
import Atlas.Cloud.CommandStates
import Atlas.Cloud.MatchingAck
import Atlas.Cloud.Monitors
import Atlas.Cloud.RetryNotifications
import Atlas.Cloud.StaleSave
import Atlas.Commands.BatchMemory
import Atlas.Devices.Alerts
import Atlas.Devices.CloudSync
import Atlas.Devices.FirewallView
import Atlas.Devices.RegistrationTime
import Atlas.Firewall.Agreement
import Atlas.Firewall.Pairing
import Atlas.Firewall.Window
import Atlas.Gateway.AckRetry
import Atlas.Gateway.Base64
import Atlas.Gateway.CoapClient
import Atlas.Gateway.DoneFront
import Atlas.Gateway.Ownership
import Atlas.Gateway.StopAndWait
import Atlas.Gateway.Storing
import Atlas.Joint.Retransmission
import Atlas.Mirror.Commands
import Atlas.Owner.Approval
import Atlas.Reputation.Asking
import Atlas.Reputation.FeatureSet
import Atlas.Reputation.FieldLengths
import Atlas.Reputation.Monotone
import Atlas.Reputation.PacketsFeedback
import Atlas.Reputation.Stored
