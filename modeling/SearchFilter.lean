import SearchFilter.Main
import SearchFilter.Record.Typed
import SearchFilter.Session
import SearchFilter.Text.Category
import SearchFilter.Text.CategoryData
import SearchFilter.Text.Property
import SearchFilter.Regex.Atom
import SearchFilter.Regex.Brackets
import SearchFilter.Regex.Reader
import SearchFilter.Regex.CharClass
import SearchFilter.Regex.Compile
import SearchFilter.Proofs.LowerCase
import SearchFilter.Proofs.Tiling
import SearchFilter.Proofs.Building
import SearchFilter.Proofs.Nesting
import SearchFilter.Proofs.Assembly
import SearchFilter.Proofs.Sentence
import SearchFilter.Proofs.Grammar
import SearchFilter.Proofs.Meaning
import SearchFilter.Proofs.Duality
import SearchFilter.Proofs.Spelling
import SearchFilter.Proofs.ByteOrder
import SearchFilter.Proofs.InferredSchema
import SearchFilter.Proofs.JsonText
import SearchFilter.Proofs.RecordFiles
import SearchFilter.Proofs.Diagnosis
import SearchFilter.Proofs.WellFormed
import SearchFilter.Proofs.Calls
import SearchFilter.Proofs.Rendering
import SearchFilter.Proofs.CaseBlind
import SearchFilter.Proofs.Recasing
import SearchFilter.Proofs.PatternCache
import SearchFilter.Proofs.Reconfiguration
import SearchFilter.Proofs.Selection
import SearchFilter.Proofs.Lossless
import SearchFilter.Proofs.Flattening
import SearchFilter.Proofs.Custody
import SearchFilter.Proofs.Matching
import SearchFilter.Proofs.Translation
import SearchFilter.Proofs.Wildcards
import SearchFilter.Proofs.ShortCut
import SearchFilter.Proofs.PhoneticCode
import SearchFilter.Proofs.NullFields
import SearchFilter.Proofs.Rounding
import SearchFilter.Proofs.WholeNumbers
import SearchFilter.Proofs.Construction
