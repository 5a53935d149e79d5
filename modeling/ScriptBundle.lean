import ScriptBundle.Main
import ScriptBundle.Proofs.Build.Reachability
import ScriptBundle.Proofs.FileSystem.Location
import ScriptBundle.Proofs.Lookup.Anchor
import ScriptBundle.Proofs.Build.Libraries
import ScriptBundle.Proofs.Build.Templates
import ScriptBundle.Proofs.Component.ScriptLines
import ScriptBundle.Proofs.Require.LastLine
import ScriptBundle.Proofs.Build.Ending
import ScriptBundle.Proofs.Build.Styles
import ScriptBundle.Proofs.Build.Alike
import ScriptBundle.Proofs.Bundle.Decoding
import ScriptBundle.Proofs.Build.Circles
import ScriptBundle.Proofs.Job.Writing
import ScriptBundle.Proofs.Build.Mirror
import ScriptBundle.Proofs.FileSystem.Shape
import ScriptBundle.Proofs.Build.Inputs
import ScriptBundle.Proofs.Build.Compiled
import ScriptBundle.Proofs.Build.Compiling
import ScriptBundle.Proofs.Build.Start
import ScriptBundle.Proofs.Require.Occurrences
import ScriptBundle.Proofs.Build.Texts
import ScriptBundle.Proofs.Component.Composition
import ScriptBundle.Proofs.Path.Canonical
import ScriptBundle.Proofs.Require.Incremental
import ScriptBundle.Proofs.Require.Fragment
import ScriptBundle.Proofs.Build.Inlining
import ScriptBundle.Proofs.Component.Slot
import ScriptBundle.Proofs.Component.Nesting
import ScriptBundle.Proofs.Component.Members
import ScriptBundle.Proofs.Component.WholeScripts
import ScriptBundle.Proofs.Build.TemplateFiles
import ScriptBundle.Proofs.Build.Exports
import ScriptBundle.Proofs.Build.Invariant
import ScriptBundle.Proofs.Markup.Answer
