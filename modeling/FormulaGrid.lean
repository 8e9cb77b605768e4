import FormulaGrid.Main
import FormulaGrid.Proofs.Formula.Phrase
import FormulaGrid.Proofs.Formula.UniqueReading
import FormulaGrid.Proofs.Agreement
import FormulaGrid.Proofs.Formula.Arithmetic
import FormulaGrid.Proofs.Formula.Completeness
import FormulaGrid.Proofs.Formula.Contract
import FormulaGrid.Proofs.Formula.Lexemes
import FormulaGrid.Proofs.Formula.Safety
import FormulaGrid.Proofs.Message.Bits
import FormulaGrid.Proofs.Message.Decoding
import FormulaGrid.Proofs.Grid
import FormulaGrid.Proofs.Message.Encoding
import FormulaGrid.Proofs.Message.TrustBoundary
import FormulaGrid.Proofs.Variant.Classification
import FormulaGrid.Proofs.Variant.Diversity
import FormulaGrid.Proofs.Number.Spelling
import FormulaGrid.Proofs.Variant.Candidates
import FormulaGrid.Proofs.Grid.Text
import FormulaGrid.Proofs.Message.Tampering
import FormulaGrid.Proofs.Console.Replies
import FormulaGrid.Proofs.Console.Pipe
import FormulaGrid.Proofs.Text.Blank
import FormulaGrid.Proofs.Formula.Lookahead
import FormulaGrid.Proofs.Formula.Places
import FormulaGrid.Proofs.Formula.Spans
import FormulaGrid.Proofs.Formula.Lockstep
import FormulaGrid.Proofs.Formula.Substitution
import FormulaGrid.Proofs.Formula.Rejection
import FormulaGrid.Proofs.Formula.Origins
import FormulaGrid.Proofs.Formula.FirstOffence
import FormulaGrid.Proofs.Formula.Payloads
import FormulaGrid.Proofs.Variant.Extension
import FormulaGrid.Proofs.Formula.Relocation
import FormulaGrid.Proofs.Formula.Respelling
import FormulaGrid.Proofs.Variant.RoundTrip
import FormulaGrid.Proofs.Formula.RealReading
import FormulaGrid.Proofs.Formula.Printing
import FormulaGrid.Proofs.Formula.Denoting
import FormulaGrid.Proofs.Variant.Forms
import FormulaGrid.Proofs.Variant.Soundness
import FormulaGrid.Proofs.Variant.Account
import FormulaGrid.Proofs.Variant.Accounting
import FormulaGrid.Proofs.Variant.Distinctness
import FormulaGrid.Proofs.Message.Turns
import FormulaGrid.Proofs.Message.Extension
import FormulaGrid.Proofs.Message.Arrangement
import FormulaGrid.Proofs.Message.Tolerance
import FormulaGrid.Proofs.Signature
import FormulaGrid.Proofs.Grid.Layout
import FormulaGrid.Proofs.Message.Refusal
import FormulaGrid.Proofs.Message.Reencoding
import FormulaGrid.Proofs.Catalog
import FormulaGrid.Proofs.Signature.Period
import FormulaGrid.Proofs.Agreement.Equivalence
import FormulaGrid.Proofs.Message.TolerantBits
import FormulaGrid.Proofs.Formula.Progress
