import HostReadiness.Check.Custom
import HostReadiness.Main
import HostReadiness.Overrides
import HostReadiness.Proofs.Engine.Isolation
import HostReadiness.Proofs.Paragraph.Lines
import HostReadiness.Proofs.Report.Lines
import HostReadiness.Proofs.Report.Verdict
import HostReadiness.Proofs.Binary64.Rounding
import HostReadiness.Proofs.Binary64.Whole
import HostReadiness.Proofs.Memory.WiggleRoom
import HostReadiness.Proofs.Memory.Sources
import HostReadiness.Proofs.Memory.Verdict
import HostReadiness.Proofs.Memory.Fallback
import HostReadiness.Proofs.Probe.Footprint
import HostReadiness.Proofs.Check.Footprint
import HostReadiness.Proofs.Check.Independence
import HostReadiness.Proofs.Check.Trace
import HostReadiness.Proofs.CommandLine.Arguments
import HostReadiness.Proofs.Json.Printer
import HostReadiness.Proofs.CommandLine.Acceptance
import HostReadiness.Proofs.CommandLine.FrontEnd
import HostReadiness.Proofs.CommandLine.ExitCode
import HostReadiness.Proofs.Engine.Channels
import HostReadiness.Proofs.Numeral.Decimal
import HostReadiness.Proofs.Json.Scan
import HostReadiness.Proofs.Json.Reader
import HostReadiness.Proofs.CommandLine.MachineOutput
import HostReadiness.Proofs.Paragraph.Content
import HostReadiness.Proofs.Report.Entries
import HostReadiness.Proofs.Template.Expand
import HostReadiness.Proofs.Binary64.Range
import HostReadiness.Proofs.Reading.Overlong
import HostReadiness.Proofs.Check.Ending
import HostReadiness.Proofs.Memory.Ending
import HostReadiness.Proofs.Check.Faults
import HostReadiness.Proofs.Text.Strip
import HostReadiness.Proofs.LinkSpeed.Figure
import HostReadiness.Proofs.Check.Improvement
import HostReadiness.Proofs.Memory.Ranges
import HostReadiness.Proofs.Host.Faults
import HostReadiness.Proofs.Cpu.Verdict
import HostReadiness.Proofs.Check.Presence
import HostReadiness.Proofs.CommandLine.DevicePath
import HostReadiness.Proofs.CommandLine.ValidOptions
import HostReadiness.Proofs.Host.Reading
import HostReadiness.Proofs.Paragraph.Greedy
import HostReadiness.Proofs.Report.Width
import HostReadiness.Proofs.Requirements.Validation
import HostReadiness.Proofs.Reading.Count
import HostReadiness.Proofs.LinkSpeed.SpeedFile
import HostReadiness.Proofs.Memory.FirstTotal
