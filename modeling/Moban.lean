import Moban.Runs
import Moban.Slices
import Moban.Words
import Moban.OrderedSets
import Moban.Tables
import Moban.Buffer
import Moban.BufferQueue
import Moban.TimerQueue
import Moban.TimerPlaces
import Moban.TimerHistory
import Moban.TimerInvariant
import Moban.TimerDispatch
import Moban.TimerRuns
import Moban.TimerAlarm
import Moban.TimerCancel
import Moban.EventLoop
import Moban.LoopOrder
import Moban.LoopWakeup
import Moban.TimerThreads
import Moban.TimerRace
import Moban.Channel
import Moban.PollerChannels
import Moban.TcpConnection
import Moban.TcpRegistration
import Moban.TcpStream
import Moban.TcpLifecycle
import Moban.TcpLifetime
import Moban.TcpTeardown
import Moban.TcpThreads
import Moban.TcpRace
import Moban.TcpHalfClose
import Moban.TcpSendOrder
import Moban.LoopQuit
import Moban.ThreadPool
import Moban.ThreadPoolDrain
import Moban.FileSystem
import Moban.AtomicFile
import Moban.SharedFile
import Moban.AtomicReplace
import Moban.AtomicCrash
import Moban.AtomicIdentity
import Moban.CondVar
import Moban.CircularWindow
import Moban.BoundedBlockingQueue
import Moban.BoundedWakeups
import Moban.BlockingQueue
import Moban.Fallible
import Moban.ConfigValue
import Moban.ConfigJson
import Moban.Config
import Moban.ConfigLoad
import Moban.ConfigPath
import Moban.ConfigInteger
import Moban.ConnectionNames
import Moban.EventLoopThread
import Moban.TcpServer
import Moban.Connector
import Moban.ConnectorAttempts
import Moban.ConnectorSockets
import Moban.ConnectorRetry
import Moban.TimerIds
import Moban.TcpWriteComplete
import Moban.FtpConnection
import Moban.FtpSession
import Moban.FtpSteps
import Moban.FtpReplies
import Moban.FtpRetrieve
import Moban.FtpInvariant
import Moban.FtpServers
import Moban.FtpPump
import Moban.FtpHidden
import Moban.FtpRejected
import Moban.FtpListener
import Moban.Histories
import Moban.FtpCalls
import Moban.FtpStale
import Moban.Ledger
import Moban.FtpHandles
import Moban.Delimiters
import Moban.FtpFraming
import Moban.Paths
import Moban.FtpAccess
import Moban.DiskPool
import Moban.PollerInterest
import Moban.ByteOrder
import Moban.BufferCodec
import Moban.Numerals
import Moban.StringNumbers
import Moban.Binary64
import Moban.FloatLiterals
import Moban.StringDouble
import Moban.Loops
import Moban.Occurrences
import Moban.StringPieces
import Moban.TimestampText
import Moban.Descriptors
import Moban.FileContents
