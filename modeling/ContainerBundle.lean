import ContainerBundle.Descriptor.Template
import ContainerBundle.Main
import ContainerBundle.Proofs.CommandLine.AllOrNothing
import ContainerBundle.Proofs.Directory.Runs
import ContainerBundle.Proofs.Json.RoundTrip
import ContainerBundle.Proofs.Json.Determined
import ContainerBundle.Proofs.Json.Typed
import ContainerBundle.Proofs.Descriptor.Declared
import ContainerBundle.Proofs.Descriptor.Determined
import ContainerBundle.Proofs.Daemon.Answers
import ContainerBundle.Proofs.Conversion.Namespaces
import ContainerBundle.Proofs.Daemon.Peers
import ContainerBundle.Proofs.Text.DigitTokens
import ContainerBundle.Proofs.Conversion.Identity
import ContainerBundle.Proofs.Conversion.Config
import ContainerBundle.Proofs.Text.Utf8
import ContainerBundle.Proofs.Account.Lookups
import ContainerBundle.Proofs.Conversion.DeviceRules
import ContainerBundle.Proofs.Conversion.DeviceNodes
import ContainerBundle.Proofs.Conversion.Runtime
import ContainerBundle.Proofs.Json.Routes
import ContainerBundle.Proofs.Daemon.Readings
import ContainerBundle.Proofs.Conversion.Variations
import ContainerBundle.Proofs.Conversion.NullMembers
import ContainerBundle.Proofs.Daemon.BareTexts
import ContainerBundle.Proofs.Conversion.Templates
import ContainerBundle.Proofs.Capability.Granted
import ContainerBundle.Proofs.Capability.Histories
import ContainerBundle.Proofs.Hook.Compilation
import ContainerBundle.Proofs.Conversion.CoveredMounts
import ContainerBundle.Proofs.Events
import ContainerBundle.Proofs.Capability.Privileged
import ContainerBundle.Proofs.Json.Nesting
import ContainerBundle.Proofs.Conversion.Privilege
import ContainerBundle.Proofs.Daemon.PeerSteps
import ContainerBundle.Proofs.Daemon.RepeatedInspections
import ContainerBundle.Proofs.CommandLine.Commands
import ContainerBundle.Proofs.CommandLine.TextArguments
import ContainerBundle.Proofs.Json.Rearranging
import ContainerBundle.Proofs.Daemon.KeyOrder
import ContainerBundle.Proofs.Conversion.KeyOrder
import ContainerBundle.Proofs.Conversion.NamespaceList
import ContainerBundle.Proofs.Conversion.DeviceAlignment
import ContainerBundle.Proofs.Account.Lines
import ContainerBundle.Proofs.Conversion.ResolvedIdentity
import ContainerBundle.Proofs.Text.Words
import ContainerBundle.Proofs.Hook.Declarations
import ContainerBundle.Proofs.FirstOccurrences
import ContainerBundle.Proofs.Conversion.Environment
import ContainerBundle.Proofs.Conversion.MountList
import ContainerBundle.Proofs.Conversion.MountOptions
import ContainerBundle.Proofs.Conversion.BareEntries
import ContainerBundle.Proofs.Conversion.WrittenLimits
import ContainerBundle.Proofs.Conversion.RuleTexts
import ContainerBundle.Proofs.Conversion.PrivateHostname
import ContainerBundle.Proofs.Directory.LongPaths
