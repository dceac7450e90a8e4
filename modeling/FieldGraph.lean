import FieldGraph.Config.Body.Basic
import FieldGraph.Config.Body.Reader
import FieldGraph.Config.Body.Schema
import FieldGraph.Config.Cursor
import FieldGraph.Config.Expr.Basic
import FieldGraph.Config.Expr.Eval
import FieldGraph.Config.Expr.Reader
import FieldGraph.Config.Expr.Template
import FieldGraph.Config.Literal
import FieldGraph.Config.Number.Basic
import FieldGraph.Config.Number.Written
import FieldGraph.Config.Problem
import FieldGraph.Config.Span
import FieldGraph.Config.Token
import FieldGraph.Config.Value.Access
import FieldGraph.Config.Value.Basic
import FieldGraph.Config.Value.Convert
import FieldGraph.Config.Value.Equal
import FieldGraph.Config.Value.Limits
import FieldGraph.Config.ValueType.Basic
import FieldGraph.Config.ValueType.Unify
import FieldGraph.Console.Flag
import FieldGraph.Console.Host
import FieldGraph.Console.Log
import FieldGraph.Console.Numeral
import FieldGraph.Console.Options
import FieldGraph.Console.Picture
import FieldGraph.Console.Run
import FieldGraph.Console.Watcher
import FieldGraph.Device.Basic
import FieldGraph.Field.Build
import FieldGraph.Field.Error
import FieldGraph.Field.Normals
import FieldGraph.Field.Pool
import FieldGraph.Field.Source
import FieldGraph.File.Artifact
import FieldGraph.File.Directory
import FieldGraph.File.Error
import FieldGraph.Geometry.Blend
import FieldGraph.Geometry.Shape
import FieldGraph.Geometry.Vec
import FieldGraph.Graph.Basic
import FieldGraph.Graph.Error
import FieldGraph.Graph.Order
import FieldGraph.Graph.Port
import FieldGraph.Graph.Report
import FieldGraph.Image.Colour
import FieldGraph.Image.Hue
import FieldGraph.Image.Png
import FieldGraph.Image.Raster
import FieldGraph.Image.Slice
import FieldGraph.Image.Upscale
import FieldGraph.Kind.Basic
import FieldGraph.Kind.Catalog
import FieldGraph.Kind.Draft
import FieldGraph.Kind.Pattern
import FieldGraph.Kind.Probe
import FieldGraph.Kind.Snippet
import FieldGraph.Kind.Standard
import FieldGraph.Main
import FieldGraph.Number.Binary
import FieldGraph.Number.Notation
import FieldGraph.Number.Scalar
import FieldGraph.Number.Shortest
import FieldGraph.Number.Single
import FieldGraph.Proofs.Graph.Edit
import FieldGraph.Proofs.Graph.Search
import FieldGraph.Proofs.Kind.Registered
import FieldGraph.Scene.Apply
import FieldGraph.Scene.Basic
import FieldGraph.Scene.Blocks
import FieldGraph.Scene.Decode
import FieldGraph.Scene.Finding
import FieldGraph.Scene.Load
import FieldGraph.Session.Basic
import FieldGraph.Session.Command
import FieldGraph.Session.Record
import FieldGraph.Shader.Basic
import FieldGraph.Shader.Compiled
import FieldGraph.Shader.Dialect
import FieldGraph.Shader.Error
import FieldGraph.Shader.Function
import FieldGraph.Shader.Library
import FieldGraph.Shader.Name
import FieldGraph.Shader.Program
import FieldGraph.Text.Blank
import FieldGraph.Text.Cluster
import FieldGraph.Text.Distance
import FieldGraph.Text.Normal.Basic
import FieldGraph.Text.Normal.Marks
import FieldGraph.Text.Normal.Pairs
import FieldGraph.Text.Normal.Singles
import FieldGraph.Text.Normal.Variants
import FieldGraph.Text.Printable
import FieldGraph.Text.Quoted
import FieldGraph.Text.Runs
import FieldGraph.Text.Settled
import FieldGraph.Text.Timestamp
import FieldGraph.Text.Word
import FieldGraph.Wgsl.Check
import FieldGraph.Wgsl.Module
import FieldGraph.Wgsl.Reader
import FieldGraph.Wgsl.Scope
import FieldGraph.Wgsl.Shape
import FieldGraph.Wgsl.Token
import FieldGraph.Wgsl.Tree
import FieldGraph.Proofs.Graph.Invariant
import FieldGraph.Proofs.Graph.Preservation
import FieldGraph.Proofs.Graph.Order
import FieldGraph.Proofs.Graph.Wiring
import FieldGraph.Proofs.Field.Build
import FieldGraph.Proofs.Shader.Generate
import FieldGraph.Proofs.Session.Compile
import FieldGraph.Proofs.Shader.Operand
import FieldGraph.Proofs.Shader.Meaning
import FieldGraph.Proofs.Kind.Formula
import FieldGraph.Proofs.Kind.Agreement
import FieldGraph.Proofs.Number.Rounding
import FieldGraph.Proofs.Number.Shortest
import FieldGraph.Proofs.Kind.Standard
import FieldGraph.Proofs.Shader.Parameter
import FieldGraph.Proofs.Shader.Naming
import FieldGraph.Proofs.Shader.Simulation
import FieldGraph.Proofs.Shader.Correctness
import FieldGraph.Proofs.Field.Cache
import FieldGraph.Proofs.Scene.Load
import FieldGraph.Proofs.Graph.Renumber
import FieldGraph.Proofs.Shader.Renumber
import FieldGraph.Proofs.Scene.Reload
import FieldGraph.Proofs.Graph.Upstream
import FieldGraph.Proofs.Graph.Aside
import FieldGraph.Proofs.Graph.Rewire
import FieldGraph.Proofs.Shader.Upstream
import FieldGraph.Proofs.Shader.Uniform
import FieldGraph.Proofs.Shader.Source
import FieldGraph.Proofs.Graph.Canonical
import FieldGraph.Proofs.Graph.Cycle
import FieldGraph.Proofs.Graph.Growth
import FieldGraph.Proofs.Scene.Steps
import FieldGraph.Proofs.Scene.Build
import FieldGraph.Proofs.Console.Run
import FieldGraph.Proofs.Graph.Connect
import FieldGraph.Proofs.Graph.Findings
import FieldGraph.Proofs.Shader.Packing
import FieldGraph.Proofs.Field.Reorder
import FieldGraph.Proofs.Shader.Reorder
import FieldGraph.Proofs.Graph.Removal
import FieldGraph.Proofs.Graph.Redo
import FieldGraph.Proofs.Config.Forward
import FieldGraph.Proofs.Config.Layout
import FieldGraph.Proofs.Scene.Declared
import FieldGraph.Proofs.Scene.Text
import FieldGraph.Proofs.Scene.Precedence
import FieldGraph.Proofs.Number.Nearest
import FieldGraph.Proofs.Shader.Literal
import FieldGraph.Proofs.Field.Pool
import FieldGraph.Proofs.Field.Source
import FieldGraph.Proofs.Field.Normals
import FieldGraph.Proofs.Image.Raster
import FieldGraph.Proofs.Text.Bytes
import FieldGraph.Proofs.Shader.Program
import FieldGraph.Proofs.Session.Observers
import FieldGraph.Proofs.Number.Comparison
import FieldGraph.Proofs.Kind.Catalog
import FieldGraph.Proofs.Field.Sharing
import FieldGraph.Proofs.Shader.Identifier
import FieldGraph.Proofs.Shader.Hash
import FieldGraph.Proofs.Shader.Reader
import FieldGraph.Proofs.Shader.Parentheses
import FieldGraph.Proofs.Number.Exact
import FieldGraph.Proofs.Geometry.Blend
import FieldGraph.Proofs.Image.Hue
