import Interaction.Unicode.Intervals
import Interaction.Unicode.Letter
import Interaction.Width.Table
import Interaction.Width.Ahead
import Interaction.Width.Text
import Interaction.Diagram.Basic
import Interaction.Unicode.Utf8
import Interaction.Source.Place
import Interaction.Source.SyntaxError
import Interaction.Source.Rule
import Interaction.Source.Trivia
import Interaction.Source.Token
import Interaction.Source.Item
import Interaction.Source.Element
import Interaction.Unicode.Blank
import Interaction.Number.Binary64
import Interaction.Number.Decimal
import Interaction.Json.Basic
import Interaction.Json.Scan
import Interaction.Json.Record
import Interaction.Diagram.Json
import Interaction.Width.Body
import Interaction.Graph.Anchor
import Interaction.Graph.Label
import Interaction.Graph.Placement
import Interaction.Graph.Basic
import Interaction.Graph.Plan
import Interaction.Graph.OfDiagram
import Interaction.Graph.Edit
import Interaction.Graph.Json
import Interaction.Arrangement.Basic
import Interaction.Arrangement.Json
import Interaction.Compile
import Interaction.Session
import Interaction.CommandLine.Options
import Interaction.CommandLine.Host
import Interaction.CommandLine.Desk
import Interaction.CommandLine.Run
import Interaction.Main
import Interaction.Proofs.Departures
import Interaction.Proofs.Allocation
import Interaction.Proofs.EdgeIds
import Interaction.Proofs.Restore
import Interaction.Proofs.Proper
import Interaction.Proofs.Padding
import Interaction.Proofs.ReadBack
import Interaction.Proofs.Insertion
import Interaction.Proofs.Agreement
import Interaction.Proofs.Flat
import Interaction.Proofs.Braces
import Interaction.Proofs.Concatenation
import Interaction.Proofs.Order
import Interaction.Proofs.Refusal
import Interaction.Proofs.Integers
import Interaction.Proofs.JsonText
import Interaction.Proofs.NumberText
import Interaction.Proofs.ArrangementText
import Interaction.Proofs.Pins
import Interaction.Proofs.Overlay
import Interaction.Proofs.Value
import Interaction.Proofs.Row
import Interaction.Proofs.Paths
import Interaction.Proofs.Effects
import Interaction.Proofs.KeptAnchors
import Interaction.Proofs.Namesakes
import Interaction.Proofs.Places
import Interaction.Proofs.Faults
import Interaction.Proofs.TriviaUnits
import Interaction.Proofs.Labels
import Interaction.Proofs.CutShort
import Interaction.Proofs.Strays
import Interaction.Proofs.LastBrace
import Interaction.Proofs.Histories
import Interaction.Proofs.Leaves
import Interaction.Proofs.Rounds
import Interaction.Proofs.Seats
import Interaction.Proofs.Sessions
