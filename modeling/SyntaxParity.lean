import SyntaxParity.Session.Run
import SyntaxParity.Main
import SyntaxParity.Proofs.Equivalence
import SyntaxParity.Proofs.ComparisonAnswer
import SyntaxParity.Proofs.History
import SyntaxParity.Proofs.Memory
import SyntaxParity.Proofs.Independence
import SyntaxParity.Proofs.Decoding
import SyntaxParity.Proofs.EqualTexts
import SyntaxParity.Proofs.Mirror
import SyntaxParity.Proofs.RoundTrip
import SyntaxParity.Proofs.Legible
import SyntaxParity.Proofs.Shape
import SyntaxParity.Proofs.FaithfulOutline
import SyntaxParity.Proofs.CommandWords
import SyntaxParity.Proofs.CommandRuns
import SyntaxParity.Proofs.Verbosity
import SyntaxParity.Proofs.CommandAgreement
import SyntaxParity.Proofs.OutlineLines
import SyntaxParity.Proofs.Respacing
import SyntaxParity.Proofs.Words
import SyntaxParity.Proofs.CommandOperands
import SyntaxParity.Proofs.CommandGroups
import SyntaxParity.Proofs.CommandVerdict
import SyntaxParity.Proofs.ParseAnswer
import SyntaxParity.Proofs.Preorder
import SyntaxParity.Proofs.Lowercase
import SyntaxParity.Proofs.NormalForm
import SyntaxParity.Proofs.Spelling
import SyntaxParity.Proofs.Components
import SyntaxParity.Proofs.FileLanguage
import SyntaxParity.Proofs.LineEndings
import SyntaxParity.Proofs.PlaceNames
