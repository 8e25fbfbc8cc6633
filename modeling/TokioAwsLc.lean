import TokioAwsLc.Lib.Trace
import TokioAwsLc.Lib.BigEndian
import TokioAwsLc.Lib.Framing
import TokioAwsLc.Lib.Attempt
import TokioAwsLc.Lib.Overwrite
import TokioAwsLc.Lib.Amortize
import TokioAwsLc.Lib.Ownership
import TokioAwsLc.Lib.Guard
import TokioAwsLc.Io.Error
import TokioAwsLc.Io.Libssl
import TokioAwsLc.Io.Reactor
import TokioAwsLc.Ktls.Ancillary
import TokioAwsLc.Ktls.RecordReader
import TokioAwsLc.Ktls.Contract
import TokioAwsLc.Ktls.RecordQueue
import TokioAwsLc.Ktls.Grammar
import TokioAwsLc.Ktls.Sticky
import TokioAwsLc.Ktls.Schedules
import TokioAwsLc.Ktls.Derive
import TokioAwsLc.Ktls.Install
import TokioAwsLc.Ktls.Agreement
import TokioAwsLc.Stream.World
import TokioAwsLc.Stream.Poll
import TokioAwsLc.Io.Wakeup
import TokioAwsLc.Stream.Protocol
import TokioAwsLc.Stream.Refinement
import TokioAwsLc.Stream.Turns
import TokioAwsLc.Stream.ExactlyOnce
import TokioAwsLc.Stream.CloseOrder
import TokioAwsLc.Stream.Wakeups
import TokioAwsLc.Stream.FailureLatch
import TokioAwsLc.Stream.ReadProgress
import TokioAwsLc.Stream.DataPath
import TokioAwsLc.Stream.KtlsPath
import TokioAwsLc.Stream.Account
import TokioAwsLc.Stream.Effort
import TokioAwsLc.Config.Alpn
import TokioAwsLc.Config.Context
import TokioAwsLc.Config.AlpnSelect
import TokioAwsLc.Config.Certificates
import TokioAwsLc.Config.CipherSuite
import TokioAwsLc.Config.Builder
import TokioAwsLc.Config.Allowlist
import TokioAwsLc.Config.Endpoints
import TokioAwsLc.Handshake.Driver
import TokioAwsLc.Handshake.Connect
import TokioAwsLc.Handshake.Session
import TokioAwsLc.System.Wire
import TokioAwsLc.System.Receive
import TokioAwsLc.System.Duplex
import TokioAwsLc.System.Alpn
import TokioAwsLc.System.Https
import TokioAwsLc.Memory.Ffi
import TokioAwsLc.Memory.Loaders
import TokioAwsLc.Memory.Builders
import TokioAwsLc.Memory.Sessions
import TokioAwsLc.Memory.Lifetimes
