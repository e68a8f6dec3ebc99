import LiteralLang.Main
import LiteralLang.Call
import LiteralLang.Demand
import LiteralLang.Proofs.Grammar
import LiteralLang.Proofs.Alphabet
import LiteralLang.Proofs.Lexing
import LiteralLang.Proofs.Rendering
import LiteralLang.Proofs.Layout
import LiteralLang.Proofs.Locality
import LiteralLang.Proofs.Template
import LiteralLang.Proofs.Concatenation
import LiteralLang.Proofs.Diagnosis
import LiteralLang.Proofs.Evaluation
import LiteralLang.Proofs.CodePoint
import LiteralLang.Proofs.Position
import LiteralLang.Proofs.Conversation
import LiteralLang.Proofs.Quotation
import LiteralLang.Proofs.Log
import LiteralLang.Proofs.Trail
import LiteralLang.Proofs.FirstDefect
import LiteralLang.Proofs.Noninterference
import LiteralLang.Proofs.EntryPoints
import LiteralLang.Proofs.Forms
import LiteralLang.Proofs.Keyword
import LiteralLang.Proofs.Progress
import LiteralLang.Proofs.LineEnd
import LiteralLang.Proofs.Decompilation
import LiteralLang.Proofs.Respelling
import LiteralLang.Proofs.Nesting
import LiteralLang.Proofs.Lines
import LiteralLang.Proofs.Resumption
import LiteralLang.Proofs.Passes
