import ReleaseBundle.Archive.Deflate
import ReleaseBundle.Archive.Format
import ReleaseBundle.Archive.Gzip
import ReleaseBundle.Archive.Item
import ReleaseBundle.Archive.Stream
import ReleaseBundle.Archive.Tar
import ReleaseBundle.Archive.Zip
import ReleaseBundle.Artifact
import ReleaseBundle.Bundle.Assembly
import ReleaseBundle.Bundle.Checksum
import ReleaseBundle.Bundle.Packing
import ReleaseBundle.Bundle.Walk
import ReleaseBundle.Bytes.Basic
import ReleaseBundle.Bytes.Letters
import ReleaseBundle.Bytes.Text
import ReleaseBundle.CommandLine.Arguments
import ReleaseBundle.CommandLine.Execute
import ReleaseBundle.CommandLine.LogFilter
import ReleaseBundle.CommandLine.Options
import ReleaseBundle.CommandLine.Refusal
import ReleaseBundle.CommandLine.Similarity
import ReleaseBundle.Console.Escape
import ReleaseBundle.Console.Message
import ReleaseBundle.Digest.Crc32
import ReleaseBundle.Digest.Sha256
import ReleaseBundle.Disk.Basic
import ReleaseBundle.Disk.Change
import ReleaseBundle.Disk.Difference
import ReleaseBundle.Disk.ErrorNumber
import ReleaseBundle.Disk.Fault
import ReleaseBundle.Disk.Lookup
import ReleaseBundle.Failure
import ReleaseBundle.Job
import ReleaseBundle.Log
import ReleaseBundle.Main
import ReleaseBundle.Manifest
import ReleaseBundle.Path
import ReleaseBundle.Pattern.Expression
import ReleaseBundle.Pattern.Footprint
import ReleaseBundle.Pattern.Meaning
import ReleaseBundle.Pattern.Members
import ReleaseBundle.Pattern.Problem
import ReleaseBundle.Pattern.Reader
import ReleaseBundle.Pattern.Search
import ReleaseBundle.Pattern.Tree
import ReleaseBundle.Pipeline
import ReleaseBundle.Proofs.Archive.Deflate
import ReleaseBundle.Proofs.Archive.Tar
import ReleaseBundle.Proofs.Archive.Unpacking
import ReleaseBundle.Proofs.Archive.Writing
import ReleaseBundle.Proofs.Archive.Zip
import ReleaseBundle.Proofs.Bundle.AllOrNothing
import ReleaseBundle.Proofs.Bundle.Assembly
import ReleaseBundle.Proofs.Bundle.Checks
import ReleaseBundle.Proofs.Bundle.Contents
import ReleaseBundle.Proofs.Bundle.Coverage
import ReleaseBundle.Proofs.Bundle.Description
import ReleaseBundle.Proofs.Bundle.Faithful
import ReleaseBundle.Proofs.Bundle.Formats
import ReleaseBundle.Proofs.Bundle.Fresh
import ReleaseBundle.Proofs.Bundle.Interruption
import ReleaseBundle.Proofs.Bundle.Loops
import ReleaseBundle.Proofs.Bundle.Order
import ReleaseBundle.Proofs.Bundle.Overwriting
import ReleaseBundle.Proofs.Bundle.Packing
import ReleaseBundle.Proofs.Bundle.Reassembly
import ReleaseBundle.Proofs.Bundle.Relisting
import ReleaseBundle.Proofs.Bundle.Repacking
import ReleaseBundle.Proofs.Bundle.Reproducible
import ReleaseBundle.Proofs.Bundle.Tour
import ReleaseBundle.Proofs.Bundle.Walk
import ReleaseBundle.Proofs.Bundle.Writable
import ReleaseBundle.Proofs.Bytes.Encoding
import ReleaseBundle.Proofs.Bytes.Utf8
import ReleaseBundle.Proofs.CommandLine.ExitStatus
import ReleaseBundle.Proofs.CommandLine.Verbosity
import ReleaseBundle.Proofs.Digest.Streaming
import ReleaseBundle.Proofs.Disk.Agreement
import ReleaseBundle.Proofs.Disk.Below
import ReleaseBundle.Proofs.Disk.Files
import ReleaseBundle.Proofs.Disk.Growth
import ReleaseBundle.Proofs.Disk.Plain
import ReleaseBundle.Proofs.Disk.Route
import ReleaseBundle.Proofs.Disk.Table
import ReleaseBundle.Proofs.Layout
import ReleaseBundle.Proofs.Moments
import ReleaseBundle.Proofs.Outcome
import ReleaseBundle.Proofs.Path.Meaning
import ReleaseBundle.Proofs.Path.Parts
import ReleaseBundle.Proofs.Pipeline.Acceptance
import ReleaseBundle.Proofs.Pipeline.Containment
import ReleaseBundle.Proofs.Pipeline.Course
import ReleaseBundle.Proofs.Pipeline.Failure
import ReleaseBundle.Proofs.Pipeline.Inputs
import ReleaseBundle.Proofs.Pipeline.Naming
import ReleaseBundle.Proofs.Pipeline.Places
import ReleaseBundle.Proofs.Pipeline.Released
import ReleaseBundle.Proofs.Pipeline.Rerun
import ReleaseBundle.Proofs.Pipeline.Stages
import ReleaseBundle.Proofs.Reporting
import ReleaseBundle.Proofs.Version
import ReleaseBundle.Proofs.Xml.Agreement
import ReleaseBundle.Proofs.Xml.Document
import ReleaseBundle.Proofs.Xml.Reading
import ReleaseBundle.Proofs.Xml.References
import ReleaseBundle.Proofs.Xml.Rendering
import ReleaseBundle.Proofs.Xml.Scanning
import ReleaseBundle.Proofs.Xml.Tags
import ReleaseBundle.Settings
import ReleaseBundle.Shell.Arithmetic
import ReleaseBundle.Shell.Builtins
import ReleaseBundle.Shell.Catalogue
import ReleaseBundle.Shell.Condition
import ReleaseBundle.Shell.Evaluation
import ReleaseBundle.Shell.Executable
import ReleaseBundle.Shell.Execution
import ReleaseBundle.Shell.Expansion
import ReleaseBundle.Shell.Format
import ReleaseBundle.Shell.Machine
import ReleaseBundle.Shell.Open
import ReleaseBundle.Shell.Programs.Answers
import ReleaseBundle.Shell.Programs.Blocks
import ReleaseBundle.Shell.Programs.Edit.Editor
import ReleaseBundle.Shell.Programs.Edit.Script
import ReleaseBundle.Shell.Programs.Editing
import ReleaseBundle.Shell.Programs.Files
import ReleaseBundle.Shell.Programs.Finding
import ReleaseBundle.Shell.Programs.Launching
import ReleaseBundle.Shell.Programs.Lines
import ReleaseBundle.Shell.Programs.Listing
import ReleaseBundle.Shell.Programs.Matching
import ReleaseBundle.Shell.Programs.Mode
import ReleaseBundle.Shell.Programs.Options
import ReleaseBundle.Shell.Programs.Reckoning
import ReleaseBundle.Shell.Programs.Record.Format
import ReleaseBundle.Shell.Programs.Record.Pattern
import ReleaseBundle.Shell.Programs.Record.Reader
import ReleaseBundle.Shell.Programs.Record.Run
import ReleaseBundle.Shell.Programs.Record.Session
import ReleaseBundle.Shell.Programs.Record.Table
import ReleaseBundle.Shell.Programs.Record.Token
import ReleaseBundle.Shell.Programs.Record.Tree
import ReleaseBundle.Shell.Programs.Record.Value
import ReleaseBundle.Shell.Programs.Records
import ReleaseBundle.Shell.Programs.Regex
import ReleaseBundle.Shell.Programs.Text
import ReleaseBundle.Shell.Reader
import ReleaseBundle.Shell.Redirection
import ReleaseBundle.Shell.Run
import ReleaseBundle.Shell.Script
import ReleaseBundle.Shell.Signal
import ReleaseBundle.Shell.State
import ReleaseBundle.Shell.Wildcard
import ReleaseBundle.Stage
import ReleaseBundle.Toolchain.Build
import ReleaseBundle.Toolchain.Command
import ReleaseBundle.Toolchain.Host
import ReleaseBundle.Toolchain.Search
import ReleaseBundle.Xml.Alphabet
import ReleaseBundle.Xml.Namespaces
import ReleaseBundle.Xml.Problem
import ReleaseBundle.Xml.Reader
import ReleaseBundle.Xml.Reference
import ReleaseBundle.Xml.Scan
import ReleaseBundle.Xml.Tree
import ReleaseBundle.Proofs.Bundle.Checksum
import ReleaseBundle.Proofs.Bundle.Arrangement
import ReleaseBundle.Proofs.CommandLine.RoundTrip
