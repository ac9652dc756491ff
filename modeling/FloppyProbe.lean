import FloppyProbe.Probe.Restoration
import FloppyProbe.Probe.Verdict
import FloppyProbe.Probe.Changeability
import FloppyProbe.Probe.OverCbi
import FloppyProbe.Probe.PageCodec
import FloppyProbe.Probe.Classification
import FloppyProbe.Probe.FalseAlarm
import FloppyProbe.Probe.LostRequest
import FloppyProbe.Probe.Inspection
import FloppyProbe.Cbi.PhaseLoss
import FloppyProbe.Cbi.GoodResult
import FloppyProbe.Mac.Agreement
import FloppyProbe.Mac.Initialised
import FloppyProbe.Mac.OpenFlag
import FloppyProbe.Mac.Ownership
import FloppyProbe.Interaction.Layer
import FloppyProbe.Output.Encoding
import FloppyProbe.Output.Schema
import FloppyProbe.Main.SeizureGate
import FloppyProbe.Main.ExitStatus
import FloppyProbe.Ufi.FormatList
import FloppyProbe.Ufi.Accesses
import FloppyProbe.Probe.Extraction
import FloppyProbe.Main.OutputGate
import FloppyProbe.Main.Grammar
import FloppyProbe.Output.JsonInvariant
import FloppyProbe.Layout.Interleave
import FloppyProbe.Scsi.Delivery
import FloppyProbe.Process.Bracket
import FloppyProbe.Process.Wire
import FloppyProbe.Process.Inspection
import FloppyProbe.Process.Sending
import FloppyProbe.Kit.ScsiCreation
import FloppyProbe.Kit.ProcessRefinement
