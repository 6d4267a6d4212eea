import Caption.Bytes
import Caption.Canvas
import Caption.Catalogue.Basic
import Caption.Catalogue.Design
import Caption.Catalogue.Match
import Caption.Color
import Caption.CommandLine.Basic
import Caption.CommandLine.Parser
import Caption.CommandLine.Run
import Caption.Decimal.Shortest
import Caption.Draw.Area
import Caption.Draw.Contour
import Caption.Draw.Coverage
import Caption.Draw.Hairline
import Caption.Draw.Ink
import Caption.Draw.Picture
import Caption.Draw.Rasterizer
import Caption.Draw.Stroke
import Caption.Error
import Caption.FileTree
import Caption.Font.Basic
import Caption.Font.GlyphCache
import Caption.Font.Provider
import Caption.Font.Resolver
import Caption.Font.Typeface
import Caption.Geometry
import Caption.Host.Basic
import Caption.Host.Surface
import Caption.Json.Error
import Caption.Json.Number
import Caption.Json.Quoted
import Caption.Json.Record
import Caption.Json.Scan
import Caption.Layout.Arrangement
import Caption.Layout.Basic
import Caption.Layout.Line
import Caption.Layout.Placement
import Caption.Log
import Caption.Main
import Caption.Memo
import Caption.OpenType.CharacterMap
import Caption.OpenType.Directory
import Caption.OpenType.Face
import Caption.OpenType.Glyph
import Caption.OpenType.Metrics
import Caption.OpenType.Names
import Caption.OpenType.Outline
import Caption.Path
import Caption.Pixels
import Caption.Png.Basic
import Caption.Png.Checksum
import Caption.Png.Save
import Caption.Png.Stored
import Caption.Proofs.Bytes.Piece
import Caption.Proofs.Canvas.Rounding
import Caption.Proofs.Canvas.Size
import Caption.Proofs.Catalogue.Reuse
import Caption.Proofs.CommandLine.Render
import Caption.Proofs.Draw.Backdrop
import Caption.Proofs.Draw.Clipped
import Caption.Proofs.Draw.Failure
import Caption.Proofs.Draw.Finished
import Caption.Proofs.Draw.Kept
import Caption.Proofs.Draw.LineEnds
import Caption.Proofs.Draw.Switches
import Caption.Proofs.Draw.Unsigned
import Caption.Proofs.Draw.Whole
import Caption.Proofs.FileTree.Written
import Caption.Proofs.Font.Chain
import Caption.Proofs.Font.Steady
import Caption.Proofs.Host.Calls
import Caption.Proofs.Host.Delivery
import Caption.Proofs.Host.History
import Caption.Proofs.Host.Record
import Caption.Proofs.Host.Replay
import Caption.Proofs.Host.Sharing
import Caption.Proofs.Host.Sizes
import Caption.Proofs.Json.CutOff
import Caption.Proofs.Json.Exact
import Caption.Proofs.Json.Number
import Caption.Proofs.Json.Object
import Caption.Proofs.Json.Quoted
import Caption.Proofs.Json.Value
import Caption.Proofs.Json.Written
import Caption.Proofs.Layout.Containment
import Caption.Proofs.Layout.Enlarged
import Caption.Proofs.Layout.Extents
import Caption.Proofs.Layout.Pen
import Caption.Proofs.Layout.Request
import Caption.Proofs.Layout.Settled
import Caption.Proofs.Layout.Shown
import Caption.Proofs.Layout.Unsigned
import Caption.Proofs.Layout.Wrapped
import Caption.Proofs.Line.Conservation
import Caption.Proofs.Line.Fit
import Caption.Proofs.Line.Greedy
import Caption.Proofs.Line.Paragraphs
import Caption.Proofs.Line.Wider
import Caption.Proofs.Pixels.Lookup
import Caption.Proofs.Png.Answer
import Caption.Proofs.Png.Lossless
import Caption.Proofs.Png.Stored
import Caption.Proofs.Scalar.Large
import Caption.Proofs.Scalar.Order
import Caption.Proofs.Scalar.Single
import Caption.Proofs.Scalar.Value
import Caption.Proofs.Scalar.Zero
import Caption.Proofs.Settings.CutOff
import Caption.Proofs.Settings.Form
import Caption.Proofs.Settings.List
import Caption.Proofs.Settings.Reading
import Caption.Proofs.Settings.RoundTrip
import Caption.Proofs.Source.Agreement
import Caption.Proofs.Source.Boxed
import Caption.Proofs.Source.Latest
import Caption.Proofs.Source.Update
import Caption.Proofs.State.Colors
import Caption.Proofs.State.Effective
import Caption.Proofs.State.Update
import Caption.Proofs.Text.Decoding
import Caption.Proofs.Text.Sequence
import Caption.Reader
import Caption.Scalar
import Caption.Settings.Basic
import Caption.Settings.File
import Caption.Settings.Json
import Caption.Source
import Caption.State
import Caption.Style
import Caption.Text.Blank
import Caption.Text.MacRoman
import Caption.Text.Printable
import Caption.Text.Quoted
import Caption.Text.Utf16
import Caption.Text.Utf8
import Caption.Text.WordBreak
import Caption.Text.WordClass
import Caption.Proofs.Memo.Once
import Caption.Proofs.CommandLine.Written
import Caption.Proofs.Font.Cached
import Caption.Proofs.CommandLine.Repeated
import Caption.Proofs.CommandLine.Accepted
import Caption.Proofs.CommandLine.Order
