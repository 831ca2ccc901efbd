import VirtualPhone.Runtime.Trace
import VirtualPhone.Runtime.Upkeep
import VirtualPhone.Runtime.Dict
import VirtualPhone.Runtime.Unicode
import VirtualPhone.Runtime.BitPack
import VirtualPhone.Runtime.CaseFold
import VirtualPhone.Runtime.Text
import VirtualPhone.Runtime.Base64
import VirtualPhone.Runtime.Framing
import VirtualPhone.Runtime.Params
import VirtualPhone.Gsm7
import VirtualPhone.SmsPdu
import VirtualPhone.SmsRoundTrip
import VirtualPhone.SmsLengths
import VirtualPhone.UserDataHeader
import VirtualPhone.SmsReassembly
import VirtualPhone.MultipartSms
import VirtualPhone.Runtime.Py
import VirtualPhone.Isdp
import VirtualPhone.Euicc
import VirtualPhone.Catalogue
import VirtualPhone.EuiccStore
import VirtualPhone.EuiccMemory
import VirtualPhone.SaveFailure
import VirtualPhone.ExplicitTransfer
import VirtualPhone.VolteSwap
import VirtualPhone.Json
import VirtualPhone.JsonSize
import VirtualPhone.JsonCompact
import VirtualPhone.DaemonRequests
import VirtualPhone.UntypedDaemon
import VirtualPhone.DaemonConnection
import VirtualPhone.SimIo
import VirtualPhone.ApduCodec
import VirtualPhone.DigitCodecs
import VirtualPhone.SimAuthentication
import VirtualPhone.RtpPorts
import VirtualPhone.PayloadType
import VirtualPhone.RadioPower
import VirtualPhone.Milenage
import VirtualPhone.Ts35206
import VirtualPhone.Identities
import VirtualPhone.JitterAccount
import VirtualPhone.JitterOrder
import VirtualPhone.JitterRuns
import VirtualPhone.Rtp
import VirtualPhone.DtmfEvent
import VirtualPhone.RtpSession
import VirtualPhone.DtmfDelivery
import VirtualPhone.RtpDiscipline
import VirtualPhone.DtmfEmission
import VirtualPhone.RtpHold
import VirtualPhone.Rtcp
import VirtualPhone.MediaFormats
import VirtualPhone.RtpWellFormed
import VirtualPhone.Loopback
import VirtualPhone.RtcpReports
import VirtualPhone.SdpRoundTrip
import VirtualPhone.Scp03
import VirtualPhone.Scp03Padding
import VirtualPhone.Scp03Responses
import VirtualPhone.IcvReuse
import VirtualPhone.AkaVector
import VirtualPhone.AuthHelper
import VirtualPhone.Registration
import VirtualPhone.ImsRegister
import VirtualPhone.AkaSequence
import VirtualPhone.DigestAgreement
import VirtualPhone.ApduHandler
import VirtualPhone.ApduFrame
import VirtualPhone.AkaReplay
import VirtualPhone.SqnFreshness
import VirtualPhone.AuthenticateForms
import VirtualPhone.ElementaryFiles
import VirtualPhone.Runtime.PyValue
import VirtualPhone.UntypedStore
import VirtualPhone.UntypedHandler
import VirtualPhone.UntypedFiles
import VirtualPhone.Daemon
import VirtualPhone.JitterBuffer
import VirtualPhone.SipMessage
import VirtualPhone.SmsTransport
import VirtualPhone.SmsDelivery
import VirtualPhone.SipClient
import VirtualPhone.SipMatching
import VirtualPhone.SipTransport
import VirtualPhone.RilShim
import VirtualPhone.RilCorrelation
import VirtualPhone.RilAtMostOnce
import VirtualPhone.ShimJson
import VirtualPhone.Parcel
import VirtualPhone.ShimRequests
import VirtualPhone.ShimScan
import VirtualPhone.ShimWrites
import VirtualPhone.ShimReplies
import VirtualPhone.StringTransport
import VirtualPhone.CurrentCalls
import VirtualPhone.Runtime.JsonSyntax
import VirtualPhone.ShimLookup
import VirtualPhone.ParcelBuffer
import VirtualPhone.Runtime.Coroutine
import VirtualPhone.Runtime.Contract
import VirtualPhone.Sdp
import VirtualPhone.RadioHal
import VirtualPhone.VolteCall
import VirtualPhone.SdpOffer
import VirtualPhone.VolteManager
import VirtualPhone.Ussd
import VirtualPhone.CallForwarding
import VirtualPhone.VolteRequests
import VirtualPhone.VolteNetwork
import VirtualPhone.VolteChanges
import VirtualPhone.VolteMethods
import VirtualPhone.VolteAnswer
import VirtualPhone.VolteInvite
import VirtualPhone.VolteRingback
import VirtualPhone.DialogTags
import VirtualPhone.CodecAgreement
import VirtualPhone.VolteDialogs
import VirtualPhone.ViaHeaders
import VirtualPhone.SipFraming
import VirtualPhone.EapPacket
import VirtualPhone.EapAka
import VirtualPhone.VolteTransfers
import VirtualPhone.LateCancel
import VirtualPhone.CallCounter
import VirtualPhone.CounterUpkeep
import VirtualPhone.VolteReferral
import VirtualPhone.VolteForwarding
import VirtualPhone.VolteBinding
import VirtualPhone.DialedCall
import VirtualPhone.VolteOrphans
import VirtualPhone.VolteHold
import VirtualPhone.HoldRuns
import VirtualPhone.RspReports
import VirtualPhone.SmsRuns
