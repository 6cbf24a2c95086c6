import SwiftDecl.Main
import SwiftDecl.Proofs.Text.Joined
import SwiftDecl.Proofs.TypeRef.Sameness
import SwiftDecl.Proofs.TypeRef.Spelling
import SwiftDecl.Proofs.Identifier.Characters
import SwiftDecl.Proofs.Function.Validation
import SwiftDecl.Proofs.Layout.Writer
import SwiftDecl.Proofs.Layout.Composition
import SwiftDecl.Proofs.Layout.Signature
import SwiftDecl.Proofs.Layout.FunctionText
import SwiftDecl.Proofs.Layout.ReadBack
import SwiftDecl.Proofs.Layout.Verbatim
import SwiftDecl.Proofs.Dependencies.Listing
import SwiftDecl.Proofs.Manifest.Conversion
import SwiftDecl.Proofs.Manifest.Imports
import SwiftDecl.Proofs.Unicode.CodeSet
import SwiftDecl.Proofs.Unicode.RoundTrip
import SwiftDecl.Proofs.Identifier.Shape
import SwiftDecl.Proofs.Identifier.Again
import SwiftDecl.Proofs.TypeRef.Hashing
import SwiftDecl.Proofs.Dependencies.Nodes
import SwiftDecl.Proofs.Json.Members
import SwiftDecl.Proofs.Json.Placed
import SwiftDecl.Proofs.Json.Reading
import SwiftDecl.Proofs.Manifest.TypeForms
import SwiftDecl.Proofs.Manifest.Records
import SwiftDecl.Proofs.Manifest.Documents
import SwiftDecl.Proofs.TypeRef.Plain
import SwiftDecl.Proofs.Function.Interchange
import SwiftDecl.Proofs.Manifest.TypeRespelling
import SwiftDecl.Proofs.Manifest.Respelling
import SwiftDecl.Proofs.CommandLine.Reading
import SwiftDecl.Proofs.CommandLine.Outcome
import SwiftDecl.Proofs.Layout.Page
import SwiftDecl.Proofs.Layout.Tidiness
import SwiftDecl.Proofs.Layout.Documentation
import SwiftDecl.Proofs.Dependencies.Rendered
import SwiftDecl.Proofs.Function.Bindings
import SwiftDecl.Proofs.Manifest.Traversal
import SwiftDecl.Proofs.Layout.Outline
import SwiftDecl.Proofs.Identifier.CamelCase
import SwiftDecl.Proofs.Identifier.Kept
import SwiftDecl.Proofs.Function.Separators
import SwiftDecl.Proofs.Function.Order
import SwiftDecl.Proofs.Parameter.LocalName
import SwiftDecl.Proofs.Dependencies.Unique
import SwiftDecl.Proofs.Function.Sameness
import SwiftDecl.Proofs.Layout.LineEnds
import SwiftDecl.Proofs.Function.Settings
