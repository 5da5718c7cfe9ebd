import RemoteCall.Client.Observation
import RemoteCall.Client.Schedule
import RemoteCall.Event
import RemoteCall.Fragment.Split
import RemoteCall.MessagePack.Packable
import RemoteCall.PlainChannel
import RemoteCall.Proofs.Call.Reading
import RemoteCall.Proofs.Client.Backoff
import RemoteCall.Proofs.Client.Disposal
import RemoteCall.Proofs.Client.Ending
import RemoteCall.Proofs.Client.Handshaking
import RemoteCall.Proofs.Client.Leftovers
import RemoteCall.Proofs.Client.Numbering
import RemoteCall.Proofs.Client.Reconnecting
import RemoteCall.Proofs.Client.Stranding
import RemoteCall.Proofs.Client.Usage
import RemoteCall.Proofs.Client.Waking
import RemoteCall.Proofs.Fragment.Bounds
import RemoteCall.Proofs.Fragment.Renewal
import RemoteCall.Proofs.Fragment.RoundTrip
import RemoteCall.Proofs.MessagePack.Payload
import RemoteCall.Proofs.Pool.Classes
import RemoteCall.Proofs.Reply.Dispatch
import RemoteCall.Proofs.Reply.Splitting
import RemoteCall.Proofs.Settings.Validity
import RemoteCall.Proofs.Transmission.Progress
import RemoteCall.Proofs.Transmission.Wire
import RemoteCall.Proofs.Transport.Connecting
import RemoteCall.Settings.Reader
