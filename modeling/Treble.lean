import Treble.Cli.Failure
import Treble.Cli.Json
import Treble.Cli.Options
import Treble.Cli.Places
import Treble.Cli.Run
import Treble.Detection.Compliance
import Treble.Detection.Config
import Treble.Detection.Detector
import Treble.Detection.MatrixCheck
import Treble.Detection.Resolution
import Treble.Detection.Verdict
import Treble.Engine.Basic
import Treble.Engine.Native
import Treble.Engine.Outcome
import Treble.Engine.Script
import Treble.Error
import Treble.FileSystem
import Treble.FileTree
import Treble.Main
import Treble.Mount
import Treble.Partition
import Treble.Proofs.Cli.Json
import Treble.Proofs.Cli.Options
import Treble.Proofs.Cli.PropertyFile
import Treble.Proofs.Cli.Reports
import Treble.Proofs.Detection.Compliance
import Treble.Proofs.Detection.Confirmation
import Treble.Proofs.Detection.Denial
import Treble.Proofs.Detection.Encodings
import Treble.Proofs.Detection.EngineInfluence
import Treble.Proofs.Detection.Failure
import Treble.Proofs.Detection.Findings
import Treble.Proofs.Detection.Fragments
import Treble.Proofs.Detection.Inputs
import Treble.Proofs.Detection.Manifests
import Treble.Proofs.Detection.MatrixCheck
import Treble.Proofs.Detection.Merging
import Treble.Proofs.Detection.Precedence
import Treble.Proofs.Detection.Provenance
import Treble.Proofs.Detection.ReadErrors
import Treble.Proofs.Detection.Rearrangement
import Treble.Proofs.Detection.Replay
import Treble.Proofs.Detection.Resolution
import Treble.Proofs.Detection.VerdictText
import Treble.Proofs.Detection.ZeroVersion
import Treble.Proofs.Engine.Binding
import Treble.Proofs.Engine.Replies
import Treble.Proofs.Except
import Treble.Proofs.Mount.Printing
import Treble.Proofs.Mount.Table
import Treble.Proofs.Partition.SystemRoot
import Treble.Proofs.Property.Dump
import Treble.Proofs.Text.Ascii
import Treble.Proofs.Text.Cutting
import Treble.Proofs.Text.Lines
import Treble.Proofs.Text.Search
import Treble.Proofs.Text.Stripping
import Treble.Proofs.Version.Best
import Treble.Proofs.Version.Printing
import Treble.Proofs.Version.Zero
import Treble.Proofs.Vintf.Agreement
import Treble.Proofs.Vintf.Comments
import Treble.Proofs.Vintf.Files
import Treble.Proofs.Vintf.Framework
import Treble.Proofs.Vintf.HalRemoval
import Treble.Proofs.Vintf.Location
import Treble.Proofs.Vintf.ManifestGrowth
import Treble.Proofs.Vintf.ManifestHals
import Treble.Proofs.Vintf.ManifestInsertion
import Treble.Proofs.Vintf.ManifestProgress
import Treble.Proofs.Vintf.ManifestScan
import Treble.Proofs.Vintf.ManifestTree
import Treble.Proofs.Vintf.ManifestVersions
import Treble.Proofs.Vintf.MatrixInsertion
import Treble.Proofs.Vintf.MatrixStop
import Treble.Proofs.Vintf.MatrixTree
import Treble.Proofs.Vintf.Outcomes
import Treble.Proofs.Vintf.PolicySource
import Treble.Proofs.Vintf.PolicyVersion
import Treble.Proofs.Vintf.SepolicyInsertion
import Treble.Proofs.Vintf.Tokens
import Treble.Proofs.Vintf.UnknownElements
import Treble.Proofs.Xml.Lexemes
import Treble.Proofs.Xml.OpenElements
import Treble.Proofs.Xml.Passages
import Treble.Property
import Treble.Property.Dump
import Treble.Text.Blank
import Treble.Text.CodeRanges
import Treble.Text.Cut
import Treble.Text.Decimal
import Treble.Text.Encoding
import Treble.Text.Encoding.RoundTrip
import Treble.Text.NameSet
import Treble.Text.Quoted
import Treble.Text.Word
import Treble.Version
import Treble.Vintf.Document
import Treble.Vintf.Error
import Treble.Vintf.Framework
import Treble.Vintf.Location
import Treble.Vintf.Manifest
import Treble.Vintf.Matrix
import Treble.Vintf.Sepolicy
import Treble.Xml.Attribute
import Treble.Xml.Event
import Treble.Xml.Fault
import Treble.Xml.Reference
import Treble.Xml.Token
import Treble.Xml.Tree
import Treble.Xml.Tree.Element
import Treble.Xml.Tree.Place
import Treble.Xml.Tree.Reading
