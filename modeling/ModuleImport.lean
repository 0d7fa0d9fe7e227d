import ModuleImport.Loading.Recorder
import ModuleImport.Main
import ModuleImport.Proofs.Artifact.Canonical
import ModuleImport.Proofs.Artifact.Damage
import ModuleImport.Proofs.Artifact.Refusal
import ModuleImport.Proofs.Code.Constants
import ModuleImport.Proofs.Code.Lines
import ModuleImport.Proofs.CommandLine.Options
import ModuleImport.Proofs.Interpreter.Asked
import ModuleImport.Proofs.Interpreter.Descent
import ModuleImport.Proofs.Interpreter.EntryPoint
import ModuleImport.Proofs.Interpreter.Extended
import ModuleImport.Proofs.Interpreter.Links
import ModuleImport.Proofs.Interpreter.Order
import ModuleImport.Proofs.Interpreter.Reopening
import ModuleImport.Proofs.Interpreter.Spared
import ModuleImport.Proofs.Interpreter.Unfinished
import ModuleImport.Proofs.Loading.Protocol
import ModuleImport.Proofs.Repository.Directories
import ModuleImport.Proofs.Repository.Probes
