import ShaderBuild.Library.Header
import ShaderBuild.Main
import ShaderBuild.Version.Bump
import ShaderBuild.Version.Checkout
import ShaderBuild.Proofs.Build.Dependencies
import ShaderBuild.Proofs.Library.FirstFailure
import ShaderBuild.Proofs.Library.Handles
import ShaderBuild.Proofs.Options.Recognition
import ShaderBuild.Proofs.Build.Course
import ShaderBuild.Proofs.Library.Settings
import ShaderBuild.Proofs.Invocation.InStep
import ShaderBuild.Proofs.Options.InStep
import ShaderBuild.Proofs.Options.Forms
import ShaderBuild.Proofs.Build.Expansion
import ShaderBuild.Proofs.Library.FileBytes
import ShaderBuild.Proofs.FileTree
import ShaderBuild.Proofs.Artifact.Words
import ShaderBuild.Proofs.Artifact.Write
import ShaderBuild.Proofs.Build.Escaping
import ShaderBuild.Proofs.Build.Reported
import ShaderBuild.Proofs.Version.Bump
import ShaderBuild.Proofs.CommandLine.Run
import ShaderBuild.Proofs.Invocation.Layout
import ShaderBuild.Proofs.Options.Arguments
import ShaderBuild.Proofs.Invocation.Spans
import ShaderBuild.Proofs.Include.Record
import ShaderBuild.Proofs.Build.Names
import ShaderBuild.Proofs.Options.Stage
import ShaderBuild.Proofs.Include.Elsewhere
import ShaderBuild.Proofs.Artifact.Rules
import ShaderBuild.Proofs.Artifact.Module
import ShaderBuild.Proofs.Options.Vulkan
import ShaderBuild.Proofs.Version.Checkout
import ShaderBuild.Proofs.Diagnostics
import ShaderBuild.Proofs.Report
import ShaderBuild.Proofs.Enumeration
import ShaderBuild.Proofs.Options.Stream
