import TypeLens.Main
import TypeLens.Command.FileTree
import TypeLens.Proofs.Origin
import TypeLens.Proofs.Layout
import TypeLens.Proofs.Separators
import TypeLens.Proofs.Unambiguous
import TypeLens.Proofs.Respelled
import TypeLens.Proofs.Violations
import TypeLens.Proofs.Normalised
import TypeLens.Proofs.Standing
import TypeLens.Proofs.Matched
import TypeLens.Proofs.Traced
import TypeLens.Proofs.Indented
import TypeLens.Proofs.Adjusted
import TypeLens.Proofs.FirstFault
import TypeLens.Proofs.Unfinished
import TypeLens.Proofs.Assembled
import TypeLens.Proofs.Template
import TypeLens.Proofs.Woven
import TypeLens.Proofs.Canonical
import TypeLens.Proofs.Recased
import TypeLens.Proofs.HitName
import TypeLens.Proofs.Framed
import TypeLens.Proofs.Arguments
