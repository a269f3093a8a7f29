import LuaBinder.CType.Basic
import LuaBinder.CType.Declarator
import LuaBinder.CType.Primitive
import LuaBinder.CType.Reading
import LuaBinder.CommandLine.Arguments
import LuaBinder.CommandLine.Run
import LuaBinder.CommandLine.Usage
import LuaBinder.Declaration.Basic
import LuaBinder.Declaration.Scalar
import LuaBinder.Declaration.Store
import LuaBinder.Diagnostic
import LuaBinder.File.Glob
import LuaBinder.File.Path
import LuaBinder.File.Tree
import LuaBinder.Generation
import LuaBinder.Header.Comment
import LuaBinder.Header.Cursor
import LuaBinder.Header.Kind
import LuaBinder.Header.Literal
import LuaBinder.Header.Node
import LuaBinder.Header.Parsed
import LuaBinder.Header.Reported
import LuaBinder.Header.Tree
import LuaBinder.Json.Basic
import LuaBinder.Json.Parser
import LuaBinder.Json.Printer
import LuaBinder.LuaModule.Cdef
import LuaBinder.LuaModule.Code
import LuaBinder.LuaModule.Fault
import LuaBinder.LuaModule.Layout
import LuaBinder.LuaModule.Literal
import LuaBinder.LuaModule.Order
import LuaBinder.LuaModule.Stub
import LuaBinder.LuaModule.Text
import LuaBinder.Main
import LuaBinder.Number.Binary64
import LuaBinder.Number.Format
import LuaBinder.Number.Limit
import LuaBinder.Number.Reading
import LuaBinder.Number.Shortest
import LuaBinder.Pattern.Basic
import LuaBinder.Pattern.CharTest
import LuaBinder.Pattern.Escape
import LuaBinder.Pattern.Fault
import LuaBinder.Pattern.Flags
import LuaBinder.Pattern.Folding
import LuaBinder.Pattern.Machine
import LuaBinder.Pattern.Match
import LuaBinder.Pattern.Parser
import LuaBinder.Pattern.Program
import LuaBinder.Pattern.Reader
import LuaBinder.Pattern.Template
import LuaBinder.Policy.Basic
import LuaBinder.Policy.CallSignature
import LuaBinder.Policy.Fault
import LuaBinder.Policy.Preset
import LuaBinder.Policy.Reader
import LuaBinder.Policy.Selection
import LuaBinder.Proofs.CType.Declarators
import LuaBinder.Proofs.CType.Grammar
import LuaBinder.Proofs.CType.Levels
import LuaBinder.Proofs.CType.Objects
import LuaBinder.Proofs.CType.Parameters
import LuaBinder.Proofs.CType.Placeholders
import LuaBinder.Proofs.CType.Qualifiers
import LuaBinder.Proofs.CType.Shapes
import LuaBinder.Proofs.CType.Tokens
import LuaBinder.Proofs.CType.TypeTexts
import LuaBinder.Proofs.CType.Typedefs
import LuaBinder.Proofs.Declaration.ByValue
import LuaBinder.Proofs.Declaration.Growth
import LuaBinder.Proofs.Declaration.Store
import LuaBinder.Proofs.Declaration.Unfolding
import LuaBinder.Proofs.Header.Comments
import LuaBinder.Proofs.Header.Escapes
import LuaBinder.Proofs.Header.Macros
import LuaBinder.Proofs.Header.Numbers
import LuaBinder.Proofs.Header.Part
import LuaBinder.Proofs.Header.Reference
import LuaBinder.Proofs.Lua.Literals
import LuaBinder.Proofs.LuaModule.Agreement
import LuaBinder.Proofs.LuaModule.Annotations
import LuaBinder.Proofs.LuaModule.Assignments
import LuaBinder.Proofs.LuaModule.Collisions
import LuaBinder.Proofs.LuaModule.Declarations
import LuaBinder.Proofs.LuaModule.Documentation
import LuaBinder.Proofs.LuaModule.Faults
import LuaBinder.Proofs.LuaModule.Fields
import LuaBinder.Proofs.LuaModule.Globals
import LuaBinder.Proofs.LuaModule.Granting
import LuaBinder.Proofs.LuaModule.Names
import LuaBinder.Proofs.LuaModule.Objective
import LuaBinder.Proofs.LuaModule.Ordering
import LuaBinder.Proofs.LuaModule.Precedence
import LuaBinder.Proofs.LuaModule.Search
import LuaBinder.Proofs.LuaModule.Sections
import LuaBinder.Proofs.LuaModule.Sizes
import LuaBinder.Proofs.LuaModule.Symbols
import LuaBinder.Proofs.LuaModule.Wrappers
import LuaBinder.Proofs.Pattern.Outcomes
import LuaBinder.Proofs.Policy.Acceptance
import LuaBinder.Proofs.Policy.Mapping
import LuaBinder.Proofs.Policy.Renaming
import LuaBinder.Proofs.Policy.Selections
import LuaBinder.Proofs.Policy.Signatures
import LuaBinder.Proofs.Policy.Typing
import LuaBinder.Proofs.Session.Agreeing.Building
import LuaBinder.Proofs.Session.Agreeing.Resolving
import LuaBinder.Proofs.Session.Agreeing.Running
import LuaBinder.Proofs.Session.Agreeing.Values
import LuaBinder.Proofs.Session.Agreeing.Visiting
import LuaBinder.Proofs.Session.Answer
import LuaBinder.Proofs.Session.Building
import LuaBinder.Proofs.Session.CompleteRecords
import LuaBinder.Proofs.Session.Conduct
import LuaBinder.Proofs.Session.Conduct.Visiting
import LuaBinder.Proofs.Session.Courses
import LuaBinder.Proofs.Session.Declaring
import LuaBinder.Proofs.Session.Emission
import LuaBinder.Proofs.Session.Fares.Building
import LuaBinder.Proofs.Session.Fares.Resolving
import LuaBinder.Proofs.Session.Fares.Running
import LuaBinder.Proofs.Session.Fares.Visiting
import LuaBinder.Proofs.Session.Forecast
import LuaBinder.Proofs.Session.Fuel
import LuaBinder.Proofs.Session.History
import LuaBinder.Proofs.Session.Identity
import LuaBinder.Proofs.Session.Inert.Building
import LuaBinder.Proofs.Session.Inert.Pairing
import LuaBinder.Proofs.Session.Inert.Running
import LuaBinder.Proofs.Session.Interface
import LuaBinder.Proofs.Session.Laying
import LuaBinder.Proofs.Session.Layouts.Authors
import LuaBinder.Proofs.Session.Layouts.Precedence
import LuaBinder.Proofs.Session.Layouts.Worsening
import LuaBinder.Proofs.Session.Naming
import LuaBinder.Proofs.Session.Naming.Numbering
import LuaBinder.Proofs.Session.Naming.Tags
import LuaBinder.Proofs.Session.Naming.Titles
import LuaBinder.Proofs.Session.Nesting
import LuaBinder.Proofs.Session.Opacity
import LuaBinder.Proofs.Session.Opacity.Accounting
import LuaBinder.Proofs.Session.Opacity.Closure
import LuaBinder.Proofs.Session.OrderIndependence
import LuaBinder.Proofs.Session.Placeholders
import LuaBinder.Proofs.Session.Reporting
import LuaBinder.Proofs.Session.Resolution
import LuaBinder.Proofs.Session.Returning
import LuaBinder.Proofs.Session.Revisiting
import LuaBinder.Proofs.Session.Sources
import LuaBinder.Proofs.Session.Step
import LuaBinder.Proofs.Session.Termination
import LuaBinder.Proofs.Session.Tracing
import LuaBinder.Proofs.Session.Values.Accounting
import LuaBinder.Proofs.Session.Values.Minding
import LuaBinder.Proofs.Session.Values.Spelling
import LuaBinder.Proofs.Session.Values.Variadics
import LuaBinder.Proofs.Session.Visiting
import LuaBinder.Report.Declaration
import LuaBinder.Report.Policy
import LuaBinder.Session.Build
import LuaBinder.Session.Context
import LuaBinder.Session.Resolve
import LuaBinder.Session.Run
import LuaBinder.Session.State
import LuaBinder.Session.Visit
import LuaBinder.Text.Blank
import LuaBinder.Text.CharacterName
import LuaBinder.Text.Letter
import LuaBinder.Text.Lines
import LuaBinder.Text.Order
import LuaBinder.Text.Quoted
import LuaBinder.Text.Surrogate
import LuaBinder.Text.Table.Alphanumeric
import LuaBinder.Text.Table.Case
import LuaBinder.Text.Table.CharacterNames.Aliases
import LuaBinder.Text.Table.CharacterNames.Alphabets
import LuaBinder.Text.Table.CharacterNames.Ancient
import LuaBinder.Text.Table.CharacterNames.Cuneiform
import LuaBinder.Text.Table.CharacterNames.EastAsian
import LuaBinder.Text.Table.CharacterNames.Forms
import LuaBinder.Text.Table.CharacterNames.Hieroglyphs
import LuaBinder.Text.Table.CharacterNames.Ideographs
import LuaBinder.Text.Table.CharacterNames.Notation
import LuaBinder.Text.Table.CharacterNames.Pictographs
import LuaBinder.Text.Table.CharacterNames.Scripts
import LuaBinder.Text.Table.CharacterNames.Symbols
import LuaBinder.Text.Table.Digit
import LuaBinder.Text.Table.Name
import LuaBinder.Text.Table.Unprintable
