import Playfield.Http.Server
import Playfield.Proofs.Lobby.Replay
import Playfield.Proofs.Lobby.TickLog
import Playfield.Proofs.Simulation.Drift
import Playfield.Proofs.Simulation.TileBlocking
import Playfield.Script
import Playfield.Settings
import Playfield.Proofs.Session.Tickets
import Playfield.Proofs.Session.Interleaving
import Playfield.Proofs.Session.StrictTurn
import Playfield.Proofs.Session.Accounts
import Playfield.Proofs.Lobby.Refusal
import Playfield.Proofs.Http.Rejection
import Playfield.Proofs.Session.LastWins
import Playfield.Proofs.Simulation.Removals
import Playfield.Proofs.Simulation.Agreement
import Playfield.Proofs.Simulation.Phases
import Playfield.Proofs.World.Reuse
import Playfield.Proofs.Lobby.Credentials
import Playfield.Proofs.Http.Privilege
import Playfield.Proofs.Lobby.Privacy
import Playfield.Proofs.Lobby.Isolation
import Playfield.Proofs.Lobby.Seeds
import Playfield.Proofs.Session.ToolCalls
import Playfield.Proofs.Lobby.Listing
import Playfield.Proofs.World.Typing
import Playfield.Proofs.Simulation.Assembly
import Playfield.Proofs.Document
import Playfield.Proofs.Body.Restoration
import Playfield.Proofs.Body.Stop
import Playfield.Proofs.Body.Obstacles
import Playfield.Proofs.Body.Couple
import Playfield.Proofs.Body.Ghosts
import Playfield.Proofs.Body.CellRange
import Playfield.Proofs.Simulation.Confinement
import Playfield.Proofs.World.Inheritance
import Playfield.Proofs.Rule.Tasks
import Playfield.Proofs.Rule.Matching
import Playfield.Proofs.Rule.Edges
import Playfield.Proofs.Simulation.Clock
import Playfield.Proofs.Animation
import Playfield.Proofs.Picture.Drawers
import Playfield.Proofs.Picture.View
import Playfield.Proofs.Http.AdminToken
import Playfield.Proofs.Attachment.Preorder
import Playfield.Proofs.World.Search
