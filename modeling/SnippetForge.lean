import SnippetForge.Main
import SnippetForge.Proofs.CommandLine.Modes
import SnippetForge.Proofs.CommandLine.Sources
import SnippetForge.Proofs.Compilation.Cancellation
import SnippetForge.Proofs.Compilation.Isolation
import SnippetForge.Proofs.Compilation.Limits
import SnippetForge.Proofs.Compilation.Order
import SnippetForge.Proofs.Compilation.Transport
import SnippetForge.Proofs.Discovery.Packages
import SnippetForge.Proofs.Requests
import SnippetForge.Proofs.Staging.Closing
import SnippetForge.Proofs.Staging.Ownership
import SnippetForge.Proofs.Staging.Tags
import SnippetForge.Proofs.Webpack.Outcomes
import SnippetForge.Proofs.Webpack.Streams
import SnippetForge.Toolchain.Script
