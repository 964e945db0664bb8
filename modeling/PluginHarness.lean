import PluginHarness.CommandLine.Command
import PluginHarness.Connection.System
import PluginHarness.Proofs.Ownership.Suite
import PluginHarness.Proofs.Ownership.System
import PluginHarness.Proofs.Places
import PluginHarness.Proofs.Redial
import PluginHarness.Proofs.Setup
import PluginHarness.Proofs.Setup.Credentials
import PluginHarness.Proofs.Setup.Sharing
import PluginHarness.Proofs.Addresses
import PluginHarness.Proofs.Setup.Failure
import PluginHarness.Proofs.Secrets
import PluginHarness.Proofs.Setup.Success
import PluginHarness.Proofs.Entries
import PluginHarness.Proofs.TextEntries
import PluginHarness.Proofs.Secrets.Routing
import PluginHarness.Proofs.Startup
import PluginHarness.Proofs.Files.Path
import PluginHarness.Proofs.Files.Tree
import PluginHarness.Proofs.RoundTrip
import PluginHarness.Proofs.Naming
import PluginHarness.Proofs.Pair
import PluginHarness.Proofs.Alike
import PluginHarness.Proofs.Pair.Agreement
import PluginHarness.Proofs.Text.Encoding
import PluginHarness.Proofs.Loading
import PluginHarness.Proofs.Arguments
import PluginHarness.Proofs.Config
import PluginHarness.Proofs.Config.Rebuilt
import PluginHarness.Proofs.Files.Walk
import PluginHarness.Proofs.Files.Making
import PluginHarness.Proofs.Location.Commands
import PluginHarness.Proofs.Location.Creating
import PluginHarness.Proofs.Location.Mechanism
import PluginHarness.Proofs.Location.Removing
import PluginHarness.Proofs.Setup.Again
import PluginHarness.Proofs.Config.Precedence
import PluginHarness.Proofs.Config.Textual
import PluginHarness.Proofs.Config.Deadlines
import PluginHarness.Proofs.Setup.Emptiness
import PluginHarness.Proofs.Config.Parameters
import PluginHarness.Proofs.Targets
