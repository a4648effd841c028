import GroovyNew.Main
import GroovyNew.Proofs.Applicability.Expansion
import GroovyNew.Proofs.Applicability.Labels
import GroovyNew.Proofs.Applicability.Widening
import GroovyNew.Proofs.Cache.Freshness
import GroovyNew.Proofs.ClassIndex.Ancestors
import GroovyNew.Proofs.ClassIndex.Candidates
import GroovyNew.Proofs.ClassIndex.Indexing
import GroovyNew.Proofs.ClassIndex.OnDemand
import GroovyNew.Proofs.ClassIndex.Order
import GroovyNew.Proofs.ClassIndex.OuterLoops
import GroovyNew.Proofs.ClassIndex.Shadowing
import GroovyNew.Proofs.ClassIndex.Shape
import GroovyNew.Proofs.ClassIndex.Varargs
import GroovyNew.Proofs.Constructors.Enclosing
import GroovyNew.Proofs.Constructors.Innermost
import GroovyNew.Proofs.Constructors.NamedArguments
import GroovyNew.Proofs.Constructors.NamedContent
import GroovyNew.Proofs.Constructors.ParameterTypes
import GroovyNew.Proofs.Constructors.TypeParameters
import GroovyNew.Proofs.Constructors.VariableArity
import GroovyNew.Proofs.Constructors.Views
import GroovyNew.Proofs.Encoding.Expressions
import GroovyNew.Proofs.Encoding.Reading
import GroovyNew.Proofs.Encoding.Record
import GroovyNew.Proofs.Encoding.Types
import GroovyNew.Proofs.Encoding.Workspace
import GroovyNew.Proofs.Inference.ConstructedClass
import GroovyNew.Proofs.Inference.FlatTypes
import GroovyNew.Proofs.Session.Noise
import GroovyNew.Proofs.Session.Report
import GroovyNew.Proofs.Session.Transparency
import GroovyNew.Proofs.Subtyping.Preorder
import GroovyNew.Proofs.Syntax.AddedArgument
import GroovyNew.Proofs.Syntax.IntegerLiteral
import GroovyNew.Proofs.TypeRef.Bindings
import GroovyNew.Proofs.TypeRef.ClassShape
import GroovyNew.Proofs.TypeRef.CursorMoves
import GroovyNew.Proofs.TypeRef.Dimensions
import GroovyNew.Proofs.TypeRef.Flatness
import GroovyNew.Proofs.TypeRef.Grammar
import GroovyNew.Proofs.TypeRef.ParserSteps
import GroovyNew.Proofs.TypeRef.Parsing
import GroovyNew.Proofs.TypeRef.Parts
import GroovyNew.Proofs.TypeRef.Positions
import GroovyNew.Proofs.TypeRef.References
import GroovyNew.Proofs.TypeRef.RoundTrip
import GroovyNew.Proofs.TypeRef.SourceShape
import GroovyNew.Proofs.TypeRef.Spelling
import GroovyNew.Proofs.TypeRef.Substitution
import GroovyNew.Proofs.Workspace.Loading
