import BytecodeLint.Analysis.Basic
import BytecodeLint.Archive.Crc32
import BytecodeLint.Archive.Entry
import BytecodeLint.Archive.Inflate
import BytecodeLint.Archive.Zip
import BytecodeLint.Bytecode.Decode
import BytecodeLint.Bytecode.Length
import BytecodeLint.Bytes.Reader
import BytecodeLint.Class.Basic
import BytecodeLint.Class.Index
import BytecodeLint.ClassFile.Attribute
import BytecodeLint.ClassFile.ConstantPool
import BytecodeLint.ClassFile.Layout
import BytecodeLint.ClassFile.Resolve
import BytecodeLint.CommandLine.Options
import BytecodeLint.CommandLine.Run
import BytecodeLint.Crawl.Basic
import BytecodeLint.Crawl.Classpath
import BytecodeLint.Descriptor
import BytecodeLint.Endpoint
import BytecodeLint.Failure
import BytecodeLint.FileTree
import BytecodeLint.Guideline.AvoidEnums
import BytecodeLint.Guideline.AvoidFloat
import BytecodeLint.Guideline.Basic
import BytecodeLint.Guideline.ConstantFinal
import BytecodeLint.Guideline.InternalAccessors
import BytecodeLint.Guideline.LoopIterator
import BytecodeLint.Guideline.PreferStatic
import BytecodeLint.Guideline.PreferVirtual
import BytecodeLint.Guideline.Probe
import BytecodeLint.Guideline.Registry
import BytecodeLint.Guideline.SyntheticAccess
import BytecodeLint.Json.Basic
import BytecodeLint.Json.Record
import BytecodeLint.Json.Skim
import BytecodeLint.Json.Token
import BytecodeLint.Main
import BytecodeLint.Manifest
import BytecodeLint.Marker
import BytecodeLint.Marker.Store
import BytecodeLint.Path
import BytecodeLint.Project.Basic
import BytecodeLint.Project.Directory
import BytecodeLint.Project.Memory
import BytecodeLint.Proofs.Analysis.ClassOrder
import BytecodeLint.Proofs.Analysis.Course
import BytecodeLint.Proofs.Analysis.Fits
import BytecodeLint.Proofs.Analysis.Report
import BytecodeLint.Proofs.Analysis.Retry
import BytecodeLint.Proofs.Bytecode.Assembly
import BytecodeLint.Proofs.Bytecode.Coded
import BytecodeLint.Proofs.Bytecode.Decode
import BytecodeLint.Proofs.Bytecode.SwitchLength
import BytecodeLint.Proofs.Bytecode.Tiling
import BytecodeLint.Proofs.Bytecode.Walk
import BytecodeLint.Proofs.Class.Ambiguity
import BytecodeLint.Proofs.Class.Index
import BytecodeLint.Proofs.Class.Reachability
import BytecodeLint.Proofs.Class.SuperTypes
import BytecodeLint.Proofs.ClassFile.Bounds
import BytecodeLint.Proofs.ClassFile.Builder
import BytecodeLint.Proofs.ClassFile.ConstantPool
import BytecodeLint.Proofs.ClassFile.Readback
import BytecodeLint.Proofs.ClassFile.SourceLines
import BytecodeLint.Proofs.CommandLine.Agreement
import BytecodeLint.Proofs.CommandLine.Effects
import BytecodeLint.Proofs.CommandLine.Rerun
import BytecodeLint.Proofs.CommandLine.Stages
import BytecodeLint.Proofs.Crawl.Asides
import BytecodeLint.Proofs.Crawl.Circular
import BytecodeLint.Proofs.Crawl.Classpath
import BytecodeLint.Proofs.Crawl.Delivery
import BytecodeLint.Proofs.Crawl.EntryOrder
import BytecodeLint.Proofs.Crawl.Expansion
import BytecodeLint.Proofs.Crawl.JarRecognition
import BytecodeLint.Proofs.Descriptor
import BytecodeLint.Proofs.Endpoint
import BytecodeLint.Proofs.Except
import BytecodeLint.Proofs.FileTree
import BytecodeLint.Proofs.FileTree.Listing
import BytecodeLint.Proofs.FileTree.Roads
import BytecodeLint.Proofs.Guideline.Bodies
import BytecodeLint.Proofs.Guideline.Context
import BytecodeLint.Proofs.Guideline.EnumConstants
import BytecodeLint.Proofs.Guideline.InheritedAccessors
import BytecodeLint.Proofs.Guideline.Overriding
import BytecodeLint.Proofs.Guideline.Placement
import BytecodeLint.Proofs.Guideline.TrivialAccessors
import BytecodeLint.Proofs.Guideline.Verdicts
import BytecodeLint.Proofs.Json.Extent
import BytecodeLint.Proofs.Json.Nesting
import BytecodeLint.Proofs.Json.NumberExtent
import BytecodeLint.Proofs.Json.Record
import BytecodeLint.Proofs.Json.ShapeExtent
import BytecodeLint.Proofs.Json.Skim
import BytecodeLint.Proofs.Json.Token
import BytecodeLint.Proofs.Keyed
import BytecodeLint.Proofs.Manifest
import BytecodeLint.Proofs.Marker.Store
import BytecodeLint.Proofs.Project.Laws
import BytecodeLint.Proofs.Project.Persistence
import BytecodeLint.Proofs.Project.StoreText
import BytecodeLint.Proofs.Text.Cut
import BytecodeLint.Proofs.Unicode.Table
import BytecodeLint.Proofs.Url.Domain
import BytecodeLint.Proofs.Url.Host
import BytecodeLint.Proofs.Url.IpAddress
import BytecodeLint.Proofs.Url.LongForm
import BytecodeLint.Proofs.Url.NormalForm
import BytecodeLint.Proofs.Url.Percent
import BytecodeLint.Proofs.Url.Punycode
import BytecodeLint.Report.Basic
import BytecodeLint.Report.Sarif
import BytecodeLint.Text.Blank
import BytecodeLint.Text.ClassText
import BytecodeLint.Text.Digits
import BytecodeLint.Text.Mended
import BytecodeLint.Unicode.Composition
import BytecodeLint.Unicode.Direction
import BytecodeLint.Unicode.Joining
import BytecodeLint.Unicode.Mark
import BytecodeLint.Unicode.Span
import BytecodeLint.Unseen
import BytecodeLint.Url.Address
import BytecodeLint.Url.Basic
import BytecodeLint.Url.Domain.Basic
import BytecodeLint.Url.Domain.Label
import BytecodeLint.Url.Domain.Mapping
import BytecodeLint.Url.Host
import BytecodeLint.Url.Percent
import BytecodeLint.Url.Punycode
