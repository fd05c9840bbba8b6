import Vdom.Template.Outline
import Vdom.Template.CategoryExchange
import Vdom.Source.Exchange
import Vdom.Shape.Exchange
import Vdom.Config.Storage
import Vdom.Compile
import Vdom.Node.Equality
import Vdom.Node.Scene
import Vdom.Proofs.Buffer
import Vdom.Proofs.Frame
import Vdom.Proofs.Visits
import Vdom.Proofs.Layout
import Vdom.Proofs.Neutral.Scan
import Vdom.Proofs.Neutral
import Vdom.Proofs.Registry
import Vdom.Proofs.Demands
import Vdom.Proofs.Literal
import Vdom.Proofs.Term
import Vdom.Proofs.Term.Reader
import Vdom.Proofs.Term.Standing
import Vdom.Proofs.Mappings.Spaced
import Vdom.Proofs.Mappings
import Vdom.Proofs.Rounding
import Vdom.Proofs.Cells
import Vdom.Proofs.Cloning
import Vdom.Proofs.Dictionary
import Vdom.Proofs.Patching
import Vdom.Proofs.Mounting
import Vdom.Proofs.Shapes
import Vdom.Proofs.Steps
import Vdom.Proofs.Settings
import Vdom.Proofs.Stripped
import Vdom.Proofs.Reported
import Vdom.Proofs.Bindings
import Vdom.Proofs.Histories
import Vdom.Proofs.Json.Grammar
import Vdom.Proofs.Json.Scanning
import Vdom.Proofs.Json.Skipped
import Vdom.Proofs.Json.Reading
import Vdom.Proofs.Json.Writing
import Vdom.Proofs.Json.Strings
import Vdom.Proofs.Exchange
import Vdom.Proofs.Schema
import Vdom.Proofs.Guards
import Vdom.Proofs.Blocks
import Vdom.Proofs.Minting
import Vdom.Proofs.Decimal.Interval
import Vdom.Proofs.Decimal.Shortest
import Vdom.Proofs.Decimal.Numeral
import Vdom.Proofs.Decimal.Text
import Vdom.Proofs.Decimal.Canonical
import Vdom.Proofs.Receiving
import Vdom.Proofs.Wrapping
import Vdom.Proofs.Arguments
import Vdom.Proofs.Parts
import Vdom.Proofs.Spelling
import Vdom.Proofs.Emission
import Vdom.Proofs.Likeness
