import MarketBoard.Board
import MarketBoard.Canvas
import MarketBoard.Command
import MarketBoard.Decimal.Basic
import MarketBoard.Decimal.Rounding
import MarketBoard.Decimal.Text
import MarketBoard.DepthClient
import MarketBoard.DepthError
import MarketBoard.Duration
import MarketBoard.Endpoint
import MarketBoard.Feed
import MarketBoard.Feed.Address
import MarketBoard.Instrument.Basic
import MarketBoard.Instrument.Key
import MarketBoard.LogFile
import MarketBoard.Main
import MarketBoard.Message
import MarketBoard.Notice
import MarketBoard.Screen.Grid
import MarketBoard.Screen.Line
import MarketBoard.Screen.Style
import MarketBoard.Screen.Terminal
import MarketBoard.Session.Basic
import MarketBoard.Session.Schedule
import MarketBoard.Settings.Arguments
import MarketBoard.Settings.Basic
import MarketBoard.Store
import MarketBoard.Table.Column
import MarketBoard.Table.DepthBox
import MarketBoard.Table.Row
import MarketBoard.Table.Window
import MarketBoard.Text.Blank
import MarketBoard.Text.Cluster
import MarketBoard.Text.Cluster.Property
import MarketBoard.Text.Ranges
import MarketBoard.Text.Width
import MarketBoard.Text.Width.Property
import MarketBoard.View
import MarketBoard.Wire.BigEndian
import MarketBoard.Wire.Error
import MarketBoard.Wire.Frame
import MarketBoard.Wire.Payload
import MarketBoard.Wire.Reader
import MarketBoard.Wire.Writer
import MarketBoard.Proofs.Store.LookUp
import MarketBoard.Proofs.Store.Rows
import MarketBoard.Proofs.Store.Market
import MarketBoard.Proofs.Instrument.Order
import MarketBoard.Proofs.Store.Sorting
import MarketBoard.Proofs.Screen.Refresh
import MarketBoard.Proofs.Screen.Writing
import MarketBoard.Proofs.Screen.Working
import MarketBoard.Proofs.Screen.Calls
import MarketBoard.Proofs.Screen.Leftover
import MarketBoard.Proofs.Canvas.Drawing
import MarketBoard.Proofs.Canvas.Failures
import MarketBoard.Proofs.Board.View
import MarketBoard.Proofs.Board.Redraw
import MarketBoard.Proofs.Board.Market
import MarketBoard.Proofs.Board.Lifecycle
import MarketBoard.Proofs.Board.Policies
import MarketBoard.Proofs.Board.Outside
import MarketBoard.Proofs.Board.Stopping
import MarketBoard.Proofs.Board.Failures
import MarketBoard.Proofs.Board.Recovery
import MarketBoard.Proofs.Feed.Receiver
import MarketBoard.Proofs.Session.InOrder
import MarketBoard.Proofs.Session.Ending
import MarketBoard.Proofs.Session.Requests
import MarketBoard.Proofs.Session.Deliveries
import MarketBoard.Proofs.Session.Keys
import MarketBoard.Proofs.Wire.Reading
import MarketBoard.Proofs.Wire.Payload
import MarketBoard.Proofs.Wire.Framing
import MarketBoard.Proofs.Depth.Exchange
import MarketBoard.Proofs.Depth.Accepted
import MarketBoard.Proofs.Session.Exchange
import MarketBoard.Proofs.Board.Cursor
import MarketBoard.Proofs.Depth.Capacity
import MarketBoard.Proofs.Feed.Account
import MarketBoard.Proofs.Table.InSight
import MarketBoard.Proofs.Decimal.Numeral
import MarketBoard.Proofs.Table.Columns
import MarketBoard.Proofs.Table.Looks
import MarketBoard.Proofs.Table.Numbers
import MarketBoard.Proofs.Board.Looks
import MarketBoard.Proofs.Table.BoxPlace
import MarketBoard.Proofs.Depth.BoxHeight
import MarketBoard.Proofs.Table.BoxLevels
import MarketBoard.Proofs.Table.Ticker
import MarketBoard.Proofs.Table.Bars
import MarketBoard.Proofs.Wire.Cuts
import MarketBoard.Proofs.Decimal.Units
import MarketBoard.Proofs.Instrument.Label
