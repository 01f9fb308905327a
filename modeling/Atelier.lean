import Atelier.Editor.Basic
import Atelier.Semantics.Edit
import Atelier.Catalog.Debounce
import Atelier.CommandLine.Memory
import Atelier.Main
import Atelier.Proofs.Editor.LastPoint
import Atelier.Proofs.Editor.Mirror
import Atelier.Proofs.Editor.Redraw
import Atelier.Proofs.Editor.Drag
import Atelier.Proofs.Editor.Click
import Atelier.Proofs.Language.Session
import Atelier.Proofs.Language.Separation
import Atelier.Proofs.Language.Text
import Atelier.Proofs.Catalog.Debounce
import Atelier.Proofs.Catalog.Selection
import Atelier.Proofs.CommandLine.Listing
import Atelier.Proofs.Snapshot.Lossless
import Atelier.Proofs.Snapshot.Resave
import Atelier.Proofs.Snapshot.Xml
import Atelier.Proofs.Snapshot.Colors
import Atelier.Proofs.Semantics.View
import Atelier.Proofs.Semantics.Strict
import Atelier.Proofs.Drawing.Hit
import Atelier.Proofs.Drawing.Layers
import Atelier.Proofs.Editor.NormalForm
import Atelier.Proofs.Editor.Removal
import Atelier.Proofs.Semantics.Commute
import Atelier.Proofs.Semantics.Prepare
import Atelier.Proofs.Semantics.Types
import Atelier.Proofs.Shape.Resize
import Atelier.Proofs.Drawing.Refusal
import Atelier.Proofs.Editor.Topmost
import Atelier.Proofs.Drawing.Figure
import Atelier.Proofs.Language.Acceptance
import Atelier.Proofs.Language.Rules
import Atelier.Proofs.Snapshot.Loading
import Atelier.Proofs.CommandLine.Backend
import Atelier.Proofs.CommandLine.Conversion
import Atelier.Proofs.Shape.Handles
import Atelier.Proofs.Shape.Turning
