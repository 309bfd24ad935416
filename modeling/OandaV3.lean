import OandaV3.AtomicStorage
import OandaV3.Blackout
import OandaV3.BotSessions
import OandaV3.BotSnapshots
import OandaV3.CalendarRefresh
import OandaV3.CalendarStatus
import OandaV3.CandlePolicy
import OandaV3.CandleProvider
import OandaV3.ChartOverlays
import OandaV3.CloseEvidence
import OandaV3.CommissionShares
import OandaV3.ConcurrentSync
import OandaV3.Confluence
import OandaV3.Conservation
import OandaV3.Correlation
import OandaV3.Drawdown
import OandaV3.ExcursionTracker
import OandaV3.FailedRead
import OandaV3.HistoryClient
import OandaV3.HistoryPages
import OandaV3.HtfBias
import OandaV3.HtfBiasMirror
import OandaV3.IndicatorAlertEngine
import OandaV3.InstrumentNames
import OandaV3.JsonRoundTrip
import OandaV3.LatestQueues
import OandaV3.MacroContext
import OandaV3.MaeMfe
import OandaV3.ManagedJob
import OandaV3.MarketHistory
import OandaV3.MarketHours
import OandaV3.McpSanitizer
import OandaV3.Mirrors
import OandaV3.Numerals
import OandaV3.PollerMirror
import OandaV3.PollerRace
import OandaV3.PriceAlertEngine
import OandaV3.PriceAlerts
import OandaV3.PriceStream
import OandaV3.ProtectiveOrders
import OandaV3.RefCounts
import OandaV3.Retries
import OandaV3.RuntimeLock
import OandaV3.Scan
import OandaV3.Sessions
import OandaV3.Signals
import OandaV3.SmcAdapter
import OandaV3.StaleReads
import OandaV3.StaysClosed
import OandaV3.TimeAlertEngine
import OandaV3.TradePlan
import OandaV3.TradeStats
import OandaV3.TransactionOrder
import OandaV3.Turns
import OandaV3.TwoClosers
import OandaV3.Vwap
import OandaV3.Watermark
import OandaV3.WriterOrder
import OandaV3.ZoneSummary
