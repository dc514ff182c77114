import Downlevel.Act
import Downlevel.Compile.Attempt
import Downlevel.Compile.Compiler
import Downlevel.Compile.Failure
import Downlevel.Decimal.Digits
import Downlevel.Decimal.Notation
import Downlevel.Decimal.Shortest
import Downlevel.Engine.Basic
import Downlevel.Engine.World
import Downlevel.Json.Fault
import Downlevel.Json.Read.Basic
import Downlevel.Json.Read.Number
import Downlevel.Json.Read.Text
import Downlevel.Json.Read.Value
import Downlevel.Json.Value
import Downlevel.Json.Write
import Downlevel.Legacy.Engines
import Downlevel.Legacy.Host
import Downlevel.Legacy.Library
import Downlevel.Log
import Downlevel.Maps.Desk
import Downlevel.Maps.Shift
import Downlevel.Mode
import Downlevel.Pool.Basic
import Downlevel.Pool.Filling
import Downlevel.Proofs.Compile.Course
import Downlevel.Proofs.Events
import Downlevel.Proofs.Maps.Service
import Downlevel.Proofs.Transform.Course
import Downlevel.Session.Basic
import Downlevel.Session.Step
import Downlevel.Table
import Downlevel.Text.Bytes
import Downlevel.Text.Lines
import Downlevel.Text.Position
import Downlevel.Text.Quoted
import Downlevel.Transform.Perform
import Downlevel.Transform.Request
import Downlevel.Transform.Start
import Downlevel.Proofs.Compile.Calls
import Downlevel.Proofs.Compile.MapFailure
import Downlevel.Proofs.Compile.MapInHand
import Downlevel.Proofs.Compile.StaleMap
import Downlevel.Proofs.Compile.Record
import Downlevel.Proofs.Compile.MapOrigin
import Downlevel.Proofs.Pool.Failure
import Downlevel.Proofs.Legacy.Faults
import Downlevel.Proofs.Legacy.Compile
import Downlevel.Proofs.Legacy.FailingLoader
import Downlevel.Proofs.Legacy.Wrapping
import Downlevel.Proofs.Legacy.Modes
import Downlevel.Proofs.Session.BuildOnce
import Downlevel.Proofs.Session.Retirement
import Downlevel.Proofs.Session.Following
import Downlevel.Proofs.Session.SharedOnce
import Downlevel.Proofs.Pool.Readiness
import Downlevel.Proofs.Session.Exchange
import Downlevel.Proofs.Compile.SideBySide
import Downlevel.Proofs.Legacy.Independence
import Downlevel.Proofs.Session.Private
import Downlevel.Proofs.Session.Errands
import Downlevel.Proofs.Session.Isolation
import Downlevel.Proofs.Json.Reading
import Downlevel.Proofs.Json.Numbers
import Downlevel.Proofs.Json.RoundTrip
import Downlevel.Proofs.Maps.Shifting
import Downlevel.Proofs.Text.Locations
import Downlevel.Proofs.Transform.Answers
import Downlevel.Proofs.Transform.Chaining
import Downlevel.Proofs.Mode
import Downlevel.Proofs.Text.ByteOrder
import Downlevel.Proofs.Json.Objects
import Downlevel.Proofs.Maps.Requests
