import ChartBoard.Chart.Json
import ChartBoard.Demo.Signals
import ChartBoard.Main
import ChartBoard.Proofs.Board.Slots
import ChartBoard.Proofs.Chart.Acceptance
import ChartBoard.Server.Host
import ChartBoard.Settings.Arguments
import ChartBoard.Settings.Load
import ChartBoard.Settings.PortPrompt
import ChartBoard.Settings.SavedState
import ChartBoard.Proofs.Session.Turns
import ChartBoard.Proofs.Session.Likeness
import ChartBoard.Proofs.SharedBoard.Basic
import ChartBoard.Proofs.SharedBoard.Display
import ChartBoard.Proofs.SharedBoard.Isolation
import ChartBoard.Proofs.SharedBoard.Refusals
import ChartBoard.Proofs.Text.OneLine
import ChartBoard.Proofs.Protocol.OneLineRefusals
import ChartBoard.Proofs.Session.OneLineReplies
import ChartBoard.Proofs.Text.LossyLines
import ChartBoard.Proofs.Text.Pieces
import ChartBoard.Proofs.Server.Framing
import ChartBoard.Proofs.Server.Replies
import ChartBoard.Proofs.Board.Surroundings
import ChartBoard.Proofs.SharedBoard.Holders
import ChartBoard.Proofs.Session.History
import ChartBoard.Proofs.SharedBoard.History
import ChartBoard.Proofs.Number.DecimalValue
import ChartBoard.Proofs.Number.ReadBack
import ChartBoard.Proofs.Text.Cutting
import ChartBoard.Proofs.Calendar.TimestampText
import ChartBoard.Proofs.Protocol.WrittenLines
import ChartBoard.Proofs.Client.Calls
import ChartBoard.Proofs.Client.MeantLines
import ChartBoard.Proofs.Protocol.ReplyLines
import ChartBoard.Proofs.Server.Conversation
import ChartBoard.Proofs.Server.Readings
import ChartBoard.Proofs.Client.Exchanges
import ChartBoard.Proofs.Client.CallAnswers
import ChartBoard.Proofs.Client.Lockstep
import ChartBoard.Proofs.Text.Tokens
import ChartBoard.Proofs.Number.DecimalText
import ChartBoard.Proofs.Number.Overflow
import ChartBoard.Proofs.Protocol.LineForms
import ChartBoard.Proofs.Calendar.TimestampGrammar
import ChartBoard.Proofs.Protocol.DataGrammar
import ChartBoard.Proofs.Protocol.Grammar
import ChartBoard.Proofs.SharedBoard.Acceptance
import ChartBoard.Proofs.Board.Unlogged
import ChartBoard.Proofs.Session.Unlogged
import ChartBoard.Proofs.Session.Frames
import ChartBoard.Proofs.SharedBoard.StatusLines
import ChartBoard.Proofs.Chart.Calls
import ChartBoard.Proofs.SharedBoard.Reset
import ChartBoard.Proofs.Board.Reports
import ChartBoard.Proofs.Session.Reports
import ChartBoard.Proofs.SharedBoard.Reports
import ChartBoard.Proofs.Board.Ownership
import ChartBoard.Proofs.Chart.FiniteNumbers
import ChartBoard.Proofs.SharedBoard.ChartSteps
import ChartBoard.Proofs.SharedBoard.FiniteNumbers
import ChartBoard.Proofs.Chart.AddedPlots
import ChartBoard.Proofs.Session.PlotSettings
import ChartBoard.Proofs.Client.PlotArrival
import ChartBoard.Proofs.Client.Conduct
import ChartBoard.Proofs.Client.Attendance
import ChartBoard.Proofs.Client.DataOrder
import ChartBoard.Proofs.Client.TextArguments
import ChartBoard.Proofs.Client.CutReplies
import ChartBoard.Proofs.Board.StatusLog
import ChartBoard.Proofs.Session.BoardCalls
import ChartBoard.Proofs.SharedBoard.StatusLog
import ChartBoard.Proofs.Session.GridLines
import ChartBoard.Proofs.SharedBoard.GridFits
import ChartBoard.Proofs.Number.Order
import ChartBoard.Proofs.Chart.TraceWrites
import ChartBoard.Proofs.Chart.TimeCharts
import ChartBoard.Proofs.Settings.SavedLines
import ChartBoard.Proofs.Settings.SavedState
import ChartBoard.Proofs.Settings.Groups
import ChartBoard.Proofs.Settings.LoadedNumbers
import ChartBoard.Proofs.Settings.PortAnswers
import ChartBoard.Proofs.Chart.CursorCharts
import ChartBoard.Proofs.Chart.Replay
import ChartBoard.Proofs.Chart.Snapshots
import ChartBoard.Proofs.Chart.Storage
import ChartBoard.Proofs.Board.Misfits
import ChartBoard.Proofs.Chart.PlotEdits
import ChartBoard.Proofs.Chart.AttributeTexts
import ChartBoard.Proofs.Calendar.Moments
import ChartBoard.Proofs.SharedBoard.PointLines
import ChartBoard.Proofs.Chart.TimeOrder
import ChartBoard.Proofs.Server.ServedLimits
import ChartBoard.Proofs.Demo.Drive
