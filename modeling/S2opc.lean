import S2opc.AddressSpace.WriteValue
import S2opc.Subscription.SequenceNumbers
import S2opc.Subscription.Republish
import S2opc.Subscription.SessionRun
import S2opc.SecureChannel.Negotiation
import S2opc.SecureChannel.Outcomes
import S2opc.PubSub.Survival
import S2opc.PubSub.Authentication
import S2opc.PubSub.Protection
import S2opc.FileTransfer.Handles
import S2opc.Pki.Consistency
import S2opc.Authorization.Decision
import S2opc.Buffer.Bounds
import S2opc.Encoder.BlockCopy
import S2opc.Encodeable.Script
import S2opc.Encodeable.BodyLength
import S2opc.BuiltinTypes.SetLaws
import S2opc.Dict.FreeBucket
import S2opc.Dict.ForEach
import S2opc.Subscription.QueueOrder
import S2opc.Subscription.Deadband
import S2opc.Subscription.ItemIds
import S2opc.SecureChannel.Connections
import S2opc.PubSub.TargetValues
import S2opc.PubSub.OwnBytes
import S2opc.Session.AutoClose
import S2opc.AddressSpace.FreshNodeId
import S2opc.Pki.Rejected
import S2opc.Alarms.ConditionRefresh
import S2opc.BuiltinTypes.RangeParser
import S2opc.Subscription.Resources
import S2opc.DateTime.Xsd
