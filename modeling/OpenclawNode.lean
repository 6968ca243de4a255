import OpenclawNode.Sidecar.Authenticity
import OpenclawNode.Sidecar.HandshakeAgreement
import OpenclawNode.Sidecar.ConfigurationSteps
import OpenclawNode.Sidecar.ConfigurationAgreement
import OpenclawNode.Sidecar.FailClosed
import OpenclawNode.Sidecar.Preflight
import OpenclawNode.Sidecar.StatusBudget
import OpenclawNode.Sidecar.Retirement
import OpenclawNode.Sidecar.SingleActivation
import OpenclawNode.Sidecar.FrameStream
import OpenclawNode.Sidecar.NativeWork
import OpenclawNode.Sidecar.ConfigurationCompleteness
import OpenclawNode.Sidecar.ChannelRuns
import OpenclawNode.Sidecar.HandshakeOutcome
import OpenclawNode.Sidecar.StrictDecoding
import OpenclawNode.Sidecar.MessagePortability
import OpenclawNode.Sidecar.MessageValues
import OpenclawNode.Sidecar.MessageCodec
import OpenclawNode.Sidecar.HandshakeCodec
import OpenclawNode.Gateway.EventDelivery
import OpenclawNode.Gateway.FrameOrder
import OpenclawNode.Gateway.FrameWrites
import OpenclawNode.Gateway.RequestCorrelation
import OpenclawNode.Node.ActiveInvocations
import OpenclawNode.Node.LifecycleTrace
import OpenclawNode.Base.Chunks
import OpenclawNode.Base.JsonPrint
import OpenclawNode.Base.JsonRoundTrip
import OpenclawNode.Base.JsonSize
import OpenclawNode.Base.Decode
import OpenclawNode.Node.InvocationEvents
import OpenclawNode.Node.WireContract
import OpenclawNode.Node.Duplex
import OpenclawNode.Node.Evaluation
import OpenclawNode.Node.HandlerGates
import OpenclawNode.Node.RuntimeLoop
import OpenclawNode.Node.RuntimeAccounting
import OpenclawNode.Node.RuntimeTeardown
import OpenclawNode.Node.RuntimeAttempts
import OpenclawNode.Node.Dispatch
import OpenclawNode.Node.ReconnectRuns
import OpenclawNode.Node.InputBoundaries
import OpenclawNode.Node.InputWakeup
import OpenclawNode.Node.ProgressOrder
import OpenclawNode.Node.ProgressSequence
import OpenclawNode.Node.SignedPayload
import OpenclawNode.Node.SigningAgreement
import OpenclawNode.Node.NodeClient
import OpenclawNode.Node.ProgressChunks
import OpenclawNode.Node.ControlScope
import OpenclawNode.Node.SessionScopes
import OpenclawNode.Gateway.FrameDecoding
import OpenclawNode.Node.Deliverable
import OpenclawNode.Node.DeadlineBudget
import OpenclawNode.Node.OverflowDiagnosis
import OpenclawNode.Node.HostProcess
import OpenclawNode.Node.ResultContract
import OpenclawNode.Legacy.Reconnect
import OpenclawNode.Legacy.Evaluation
import OpenclawNode.Base.Addresses
import OpenclawNode.Base.Hex
import OpenclawNode.Node.GatewayEndpoint
import OpenclawNode.Node.RefusedEndpoint
import OpenclawNode.Node.TlsPin
import OpenclawNode.Legacy.SessionAccounting
