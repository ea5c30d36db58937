import KetPhone.Rtp
import KetPhone.Building
import KetPhone.Describing
import KetPhone.UserAgent.Stopping
import KetPhone.UserAgent.Keeping
import KetPhone.UserAgent.Ringing
import KetPhone.UserAgent.Consent
import KetPhone.UserAgent.Acknowledging
import KetPhone.UserAgent.Registrar
import KetPhone.UserAgent.InFlight
import KetPhone.UserAgent.Concluding
import KetPhone.UserAgent.Withdrawing
import KetPhone.UserAgent.Spinning
import KetPhone.UserAgent.Retrying
import KetPhone.UserAgent.Finishing
import KetPhone.UserAgent.Matching
import KetPhone.Carrying
import KetPhone.Secure
import KetPhone.Polling
import KetPhone.SpscRing
import KetPhone.ReceiveStatistics
import KetPhone.Playout
import KetPhone.Settling
import KetPhone.MediaSession
import KetPhone.Keystream
import KetPhone.Addressing
import KetPhone.Challenging
import KetPhone.UserAgent.Refreshing
import KetPhone.UserAgent.Refusing
import KetPhone.UserAgent.Losing
import KetPhone.UserAgent.Reoffering
import KetPhone.UserAgent.Unrelated
import KetPhone.Shrinking
import KetPhone.SentStream
import KetPhone.Rfc1321
import KetPhone.Pem
import KetPhone.Commands
import KetPhone.FrameClock
