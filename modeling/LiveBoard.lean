import LiveBoard.Feed.Script
import LiveBoard.Main
import LiveBoard.Mqtt.Isolation
import LiveBoard.Viewer.Cancellation
import LiveBoard.Proofs.Screen.Terminal
import LiveBoard.Proofs.Screen.Obedience
import LiveBoard.Proofs.Screen.PenAgreement
import LiveBoard.Proofs.Screen.Pairing
import LiveBoard.Proofs.Screen.RowDrawing
import LiveBoard.Proofs.Screen.FrameDrawing
import LiveBoard.Proofs.Screen.Writing
import LiveBoard.Proofs.Screen.FrameSequence
import LiveBoard.Proofs.Board.Painting
import LiveBoard.Proofs.Display.VisibleFrame
import LiveBoard.Proofs.Display.Staging
import LiveBoard.Proofs.Feed.ListenerActions
import LiveBoard.Proofs.Viewer.CoordinatorActions
import LiveBoard.Proofs.Viewer.Interplay
import LiveBoard.Proofs.Viewer.Delivery
import LiveBoard.Proofs.Viewer.BoundedTail
import LiveBoard.Proofs.Feed.ListenerHistory
import LiveBoard.Proofs.Feed.Listening
import LiveBoard.Proofs.Feed.ReconnectAccounting
import LiveBoard.Proofs.Feed.Exchanges
import LiveBoard.Proofs.Feed.CallProtocol
import LiveBoard.Proofs.Viewer.ListenerAccount
import LiveBoard.Proofs.Viewer.CoordinatorTransitions
import LiveBoard.Proofs.Viewer.ReportedOutcome
import LiveBoard.Proofs.Viewer.TimelyReturn
import LiveBoard.Proofs.Feed.ListenerTransitions
import LiveBoard.Proofs.Mqtt.Notes
import LiveBoard.Proofs.Mqtt.Subscriptions
import LiveBoard.Proofs.Display.RendererCalls
import LiveBoard.Proofs.Display.WorkingOutlet
import LiveBoard.Proofs.Display.Coalescing
import LiveBoard.Proofs.Display.LostFrames
import LiveBoard.Proofs.Viewer.RepaintSpacing
import LiveBoard.Proofs.Mqtt.Inquiries
import LiveBoard.Proofs.Mqtt.SessionDiscipline
import LiveBoard.Proofs.Board.LastKnownGood
import LiveBoard.Proofs.Viewer.Padding
import LiveBoard.Proofs.Screen.CursorCommands
import LiveBoard.Proofs.Display.HiddenCursor
import LiveBoard.Proofs.Viewer.GivingBack
import LiveBoard.Proofs.Viewer.AfterStopping
import LiveBoard.Proofs.Json.Tokens
import LiveBoard.Proofs.Json.Grammar
import LiveBoard.Proofs.Json.Integers
import LiveBoard.Proofs.Json.Spacing
import LiveBoard.Proofs.Numeric.Magnitudes
import LiveBoard.Proofs.Numeric.TextBounds
import LiveBoard.Proofs.Json.NumberRange
import LiveBoard.Proofs.Screen.Ink
import LiveBoard.Proofs.Board.WireFormat
import LiveBoard.Proofs.Board.Encoding
import LiveBoard.Proofs.Board.Position
import LiveBoard.Proofs.Broker.AddressForms
import LiveBoard.Proofs.Screen.UnknownTerminal
import LiveBoard.Proofs.Text.Utf8
import LiveBoard.Proofs.Screen.OutputGrammar
import LiveBoard.Proofs.Json.Numerals
import LiveBoard.Proofs.Json.Paths
import LiveBoard.Proofs.Numeric.Underflow
import LiveBoard.Proofs.Json.Zeros
import LiveBoard.Proofs.Board.Squares
import LiveBoard.Proofs.Numeric.Rounding
import LiveBoard.Proofs.Numeric.ShortDecimals
import LiveBoard.Proofs.Json.CanonicalNumerals
import LiveBoard.Proofs.Json.ShownNumerals
import LiveBoard.Proofs.Board.Timestamps
import LiveBoard.Proofs.Screen.Overwriting
import LiveBoard.Proofs.Board.Separation
import LiveBoard.Proofs.Broker.AddressGrammar
import LiveBoard.Proofs.Json.LongestTexts
import LiveBoard.Proofs.Board.TitleRow
import LiveBoard.Proofs.Display.Throttling
import LiveBoard.Proofs.Viewer.SlotWaits
import LiveBoard.Proofs.Broker.Backoff
import LiveBoard.Proofs.Screen.ColumnNumbers
import LiveBoard.Proofs.Viewer.TokenFamilies
import LiveBoard.Proofs.Screen.WrittenTexts
import LiveBoard.Proofs.Screen.OutputItems
import LiveBoard.Proofs.Screen.MinimalDifference
import LiveBoard.Proofs.Viewer.OneLife
import LiveBoard.Proofs.Feed.BackoffWaits
import LiveBoard.Proofs.Screen.StoredCells
