import Orbit.Main
import Orbit.Proofs.Engine
import Orbit.Proofs.Picture.Netpbm
import Orbit.Proofs.Program.Concatenation
import Orbit.Proofs.Routine.Capacity
import Orbit.Proofs.Routine.Containment
import Orbit.Proofs.Routine.Lifecycle
import Orbit.Proofs.Routine.Listing
import Orbit.Proofs.Routine.Recovery
import Orbit.Proofs.Runner.Session
import Orbit.Proofs.Picture.Shade
import Orbit.Proofs.Picture.Sink
import Orbit.Proofs.Conjugation
import Orbit.Proofs.Program.Dataflow
import Orbit.Proofs.Routine.Rearrangement
import Orbit.Proofs.Runner.Options
import Orbit.Proofs.Renderer.Options
import Orbit.Proofs.Binary64.Nearest
import Orbit.Proofs.Binary64.Value
import Orbit.Proofs.Binary64.Arithmetic
import Orbit.Proofs.Viewport
import Orbit.Proofs.Text.Fields
import Orbit.Proofs.Decimal.Reading
import Orbit.Proofs.Renderer.Configuration
import Orbit.Proofs.Decimal.Rounding
import Orbit.Proofs.Decimal.Shortest
import Orbit.Proofs.Runner.Dump
import Orbit.Proofs.Binary64.Words
import Orbit.Proofs.Decimal.RoundTrip
import Orbit.Proofs.Runner.Assignment
import Orbit.Proofs.Files.Tree
import Orbit.Proofs.Renderer.Process
