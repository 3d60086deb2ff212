import NetworkingGame.Library.Transition
import NetworkingGame.Library.Mailbox
import NetworkingGame.Library.Paired
import NetworkingGame.Library.Fairness
import NetworkingGame.GameScene
import NetworkingGame.Server
import NetworkingGame.ServerSession
import NetworkingGame.SessionSafety
import NetworkingGame.SceneSteps
import NetworkingGame.System
import NetworkingGame.Pair
import NetworkingGame.Duel
import NetworkingGame.TurnToken
import NetworkingGame.Stage
import NetworkingGame.TurnSafety
import NetworkingGame.Endgame
import NetworkingGame.Channel
import NetworkingGame.Handover
import NetworkingGame.SnapshotWhole
import NetworkingGame.TeamHandover
import NetworkingGame.OutcomeHandover
import NetworkingGame.Resync
import NetworkingGame.WireFormat
import NetworkingGame.Payload
import NetworkingGame.Selection
import NetworkingGame.Range
import NetworkingGame.SceneManager
import NetworkingGame.Clients
import NetworkingGame.Placement
import NetworkingGame.ActionPoints
import NetworkingGame.DuelRules
import NetworkingGame.Casualties
import NetworkingGame.Occupancy
import NetworkingGame.Damage
import NetworkingGame.Mirror
import NetworkingGame.TextEntry
import NetworkingGame.ServerAddress
import NetworkingGame.EnetServer
import NetworkingGame.EnetOwnership
import NetworkingGame.EnetRuns
import NetworkingGame.NetSystem
import NetworkingGame.NetRefinement
import NetworkingGame.LobbyRules
import NetworkingGame.Table
import NetworkingGame.OneGame
import NetworkingGame.ThreadedGame
import NetworkingGame.HonestPayload
import NetworkingGame.Quiescence
import NetworkingGame.Delivery
import NetworkingGame.Silence
import NetworkingGame.Resumption
import NetworkingGame.Takeover
