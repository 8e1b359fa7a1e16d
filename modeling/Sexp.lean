import Sexp.Proofs.ExprStream.Concatenation
import Sexp.Proofs.ExprStream.Delimited
import Sexp.Proofs.ExprStream.DepthReport
import Sexp.Proofs.ExprStream.Enclosure
import Sexp.Proofs.ExprStream.Endings
import Sexp.Proofs.ExprStream.Equality
import Sexp.Proofs.ExprStream.FloatValue
import Sexp.Proofs.ExprStream.IntegerRange
import Sexp.Proofs.ExprStream.Limit
import Sexp.Proofs.ExprStream.Records
import Sexp.Proofs.ExprStream.Respacing
import Sexp.Proofs.ExprStream.Spelling
import Sexp.Proofs.Plain
import Sexp.Proofs.TokenStream.Progress
import Sexp.Proofs.TokenStream.SecondPoint
import Sexp.Proofs.TokenStream.Sharing
import Sexp.Reading
