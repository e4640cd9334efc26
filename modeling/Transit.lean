import Transit.Client.ClientNet
import Transit.Client.Menu
import Transit.Client.ResultViewer
import Transit.Client.Screen
import Transit.Common.CsvArrays
import Transit.Common.CsvParser
import Transit.Common.Double
import Transit.Common.Graph
import Transit.Common.GraphArrays
import Transit.Common.Libc
import Transit.Common.LinkedList
import Transit.Common.Protocol
import Transit.Common.StoreMemory
import Transit.Common.StringUtils
import Transit.Common.Types
import Transit.Framework.Arrays
import Transit.Framework.Folds
import Transit.Framework.Heap
import Transit.Framework.Lines
import Transit.Framework.Linked
import Transit.Framework.Lockstep
import Transit.Framework.Packing
import Transit.Framework.Preferences
import Transit.Framework.Queue
import Transit.Framework.Seen
import Transit.Framework.SettleOrder
import Transit.Framework.ShortestPath
import Transit.Framework.Split
import Transit.Framework.Tables
import Transit.Framework.Utf8
import Transit.Framework.Window
import Transit.Proof.AliasNumbers
import Transit.Proof.Buffers
import Transit.Proof.BusKeys
import Transit.Proof.BusReply
import Transit.Proof.ClientRequests
import Transit.Proof.Clients
import Transit.Proof.CsvArrays
import Transit.Proof.CsvLines
import Transit.Proof.CsvRoundTrip
import Transit.Proof.CsvSheets
import Transit.Proof.DecimalNumbers
import Transit.Proof.DeleteNumbers
import Transit.Proof.EdgeOrder
import Transit.Proof.Exchange
import Transit.Proof.FavoriteTargets
import Transit.Proof.Favorites
import Transit.Proof.FileLines
import Transit.Proof.FileSafety
import Transit.Proof.FileUpdates
import Transit.Proof.Framing
import Transit.Proof.GeneratedRoutes
import Transit.Proof.GraphArrays
import Transit.Proof.GraphBuild
import Transit.Proof.GraphCalls
import Transit.Proof.GraphInvariant
import Transit.Proof.ItemRows
import Transit.Proof.Itineraries
import Transit.Proof.LabelTexts
import Transit.Proof.LineStore
import Transit.Proof.ListReplies
import Transit.Proof.ListSearches
import Transit.Proof.ListText
import Transit.Proof.LoadSuccess
import Transit.Proof.LoadedRecords
import Transit.Proof.LoadedStore
import Transit.Proof.LoadedText
import Transit.Proof.LoaderMemory
import Transit.Proof.LogRecords
import Transit.Proof.NetworkMerge
import Transit.Proof.Numbers
import Transit.Proof.OperationQueries
import Transit.Proof.PairRequests
import Transit.Proof.PathLength
import Transit.Proof.PathSearch
import Transit.Proof.PathSums
import Transit.Proof.PlaceNames
import Transit.Proof.RecentHistory
import Transit.Proof.RecordViews
import Transit.Proof.Records
import Transit.Proof.Remembered
import Transit.Proof.RequestLines
import Transit.Proof.ResponseCodes
import Transit.Proof.RouteLabels
import Transit.Proof.RouteViews
import Transit.Proof.SearchItems
import Transit.Proof.SearchViews
import Transit.Proof.Searching
import Transit.Proof.SharedLines
import Transit.Proof.SharedState
import Transit.Proof.Standalone
import Transit.Proof.StationLinks
import Transit.Proof.StopLists
import Transit.Proof.StopRoutes
import Transit.Proof.StoreBlocks
import Transit.Proof.StoreLife
import Transit.Proof.StoredLines
import Transit.Proof.TextLines
import Transit.Proof.TransferCounts
import Transit.Proof.TransferDecode
import Transit.Proof.TransferReply
import Transit.Proof.TravelTimes
import Transit.Proof.Trimming
import Transit.Proof.TripPlanner
import Transit.Proof.UserState
import Transit.Proof.Utf8Cells
import Transit.Proof.Utf8Labels
import Transit.Proof.Utf8Replies
import Transit.Proof.Utf8Store
import Transit.Server.ClientHandler
import Transit.Server.DataLoader
import Transit.Server.FacilityService
import Transit.Server.Log
import Transit.Server.OperationService
import Transit.Server.Router
import Transit.Server.SearchService
import Transit.Server.Server
import Transit.Server.TransferService
import Transit.Server.UserStateService
import Transit.Tools.BusRoutes
import Transit.Tools.CsvWriter
