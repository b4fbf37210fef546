import FluentBuilder.Main
import FluentBuilder.Session
import FluentBuilder.Proofs.Course
import FluentBuilder.Proofs.Member
import FluentBuilder.Proofs.Effects
import FluentBuilder.Proofs.Trail
import FluentBuilder.Proofs.Declaration
import FluentBuilder.Proofs.Precedence
import FluentBuilder.Proofs.Pairing
import FluentBuilder.Proofs.Printing
import FluentBuilder.Proofs.Alike
import FluentBuilder.Proofs.Layout
import FluentBuilder.Proofs.LineBreaks
import FluentBuilder.Proofs.Terminators
import FluentBuilder.Proofs.Agreement
import FluentBuilder.Proofs.Relayout
import FluentBuilder.Proofs.Disk
import FluentBuilder.Proofs.Path
import FluentBuilder.Proofs.Sibling
import FluentBuilder.Proofs.Refusal
import FluentBuilder.Proofs.NameScan
import FluentBuilder.Proofs.TypeScan
import FluentBuilder.Proofs.ReadBack
import FluentBuilder.Proofs.Lines
import FluentBuilder.Proofs.FirstDeclaration
import FluentBuilder.Proofs.OptionalMarker
import FluentBuilder.Proofs.SetterNames
import FluentBuilder.Proofs.Settings
import FluentBuilder.Proofs.WorkingDirectory
import FluentBuilder.Proofs.Addition
import FluentBuilder.Proofs.Commands
import FluentBuilder.Proofs.Initialization
