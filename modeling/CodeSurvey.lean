import CodeSurvey.Text.Number
import CodeSurvey.Insn.Listing
import CodeSurvey.Image.Survey
import CodeSurvey.Json.Value
import CodeSurvey.Json.Problem
import CodeSurvey.Json.Reader
import CodeSurvey.Json.Number
import CodeSurvey.Json.Record
import CodeSurvey.Json.Forms
import CodeSurvey.Settings.Basic
import CodeSurvey.CommandLine.Arguments
import CodeSurvey.CommandLine.Report
import CodeSurvey.CommandLine.Request
import CodeSurvey.CommandLine.Run
import CodeSurvey.Main
import CodeSurvey.Proofs.Encoding.Opcodes
import CodeSurvey.Proofs.Encoding.Reading
import CodeSurvey.Proofs.Encoding.Format
import CodeSurvey.Proofs.Encoding.Faults
import CodeSurvey.Proofs.Decode.Placement
import CodeSurvey.Proofs.Decode.RoundTrip
import CodeSurvey.Proofs.Decode.FrontPart
import CodeSurvey.Proofs.Narrowing
import CodeSurvey.Proofs.Decode.Bounds
import CodeSurvey.Proofs.Decode.Faults
import CodeSurvey.Proofs.Decode.Relocation
import CodeSurvey.Proofs.Sweep.FirstMatch
import CodeSurvey.Proofs.Sweep.Linear
import CodeSurvey.Proofs.Sweep.Starts
import CodeSurvey.Proofs.Sweep.Stream
import CodeSurvey.Proofs.Sweep.Tiling
import CodeSurvey.Proofs.Sweep.Resumption
import CodeSurvey.Proofs.Sweep.Rounds
import CodeSurvey.Proofs.Sweep.Stop
import CodeSurvey.Proofs.Sweep.Policies
import CodeSurvey.Proofs.Sweep.Markers
import CodeSurvey.Proofs.Image.Parts
import CodeSurvey.Proofs.Image.SweptHits
import CodeSurvey.Proofs.Image.StoppedHits
import CodeSurvey.Proofs.Image.StrictHits
import CodeSurvey.Proofs.Image.Markers
import CodeSurvey.Proofs.Sweep.Relocation
import CodeSurvey.Proofs.Image.Relocation
import CodeSurvey.Proofs.Image.Lookup
import CodeSurvey.Proofs.Image.Provenance
import CodeSurvey.Proofs.Image.Noninterference
import CodeSurvey.Proofs.CommandLine.Windows
import CodeSurvey.Proofs.CommandLine.FoundAgain
import CodeSurvey.Proofs.Decode.OperandSize
import CodeSurvey.Proofs.Image.Alignment
import CodeSurvey.Proofs.Decode.Kinds
import CodeSurvey.Proofs.Decode.Destinations
import CodeSurvey.Proofs.Decode.OpcodeNames
import CodeSurvey.Proofs.Decode.Names
import CodeSurvey.Proofs.Sweep.LandingPads
import CodeSurvey.Proofs.Sweep.Filler
import CodeSurvey.Proofs.Sweep.Strict
import CodeSurvey.Proofs.Text.HexBytes
import CodeSurvey.Proofs.CommandLine.Listing
import CodeSurvey.Proofs.Image.SegmentCode
import CodeSurvey.Proofs.Overlap
import CodeSurvey.Proofs.Elf.Words
import CodeSurvey.Proofs.Image.LinkAddress
import CodeSurvey.Proofs.Image.Containment
import CodeSurvey.Proofs.Json.Numerals
import CodeSurvey.Proofs.Json.Strings
import CodeSurvey.Proofs.Json.Objects
import CodeSurvey.Proofs.Json.Unchecked
import CodeSurvey.Proofs.Narrowing.Chains
import CodeSurvey.Proofs.Narrowing.Tails
import CodeSurvey.Proofs.Text.Numbers
import CodeSurvey.Proofs.Json.Partial
import CodeSurvey.Proofs.Settings.Files
import CodeSurvey.Proofs.Protection
