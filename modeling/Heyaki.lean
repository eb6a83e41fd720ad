import Heyaki.Proofs.SendCredit
import Heyaki.Proofs.MessageDelivery
import Heyaki.Proofs.RpcCache
import Heyaki.Proofs.RpcRetry
import Heyaki.Proofs.RequestFrames
import Heyaki.Proofs.PeerSessionClosed
import Heyaki.Proofs.TrustDirection
import Heyaki.Proofs.ReplayCache
import Heyaki.Proofs.Gateway
import Heyaki.Proofs.SessionRestart
import Heyaki.Proofs.EventAgreement
import Heyaki.Proofs.SendOrder
import Heyaki.Proofs.PairingAdmission
import Heyaki.Proofs.PairingBackoff
import Heyaki.Proofs.LeaseLimits
import Heyaki.Proofs.EnrollmentHistory
import Heyaki.Proofs.FileQuota
import Heyaki.Proofs.FileSender
import Heyaki.Proofs.OnlineRegistry
import Heyaki.Proofs.HalfClose
import Heyaki.Proofs.RateRecovery
import Heyaki.Proofs.SocksRelay
import Heyaki.Proofs.FrameRetention
import Heyaki.Proofs.SendFairness
import Heyaki.Proofs.ShellInput
import Heyaki.Proofs.SignalingRate
import Heyaki.Proofs.WindowsArguments
import Heyaki.Proofs.FileStaging
