import LuaBinder.Report.Declaration

namespace LuaBinder.Report

/-! Policies in JSON. -/

def patterns (patterns : List Pattern.Compiled) : Json :=
  each patterns fun pattern => .string pattern.source

def rules (rules : List RenameRule) : Json :=
  each rules fun rule => .array [.string rule.pattern.source, rule.replacement]

def selection (selection : Selection) : Json :=
  .object
    [("include", (selection.included.map patterns).getD .null),
      ("exclude", patterns selection.excluded), ("rename", rules selection.renames),
      ("member_rename", each selection.memberRenames fun entry =>
        .array [.string entry.owner.source, rules entry.rules]),
      ("symbol_address", patterns selection.addresses)]

def signature (signature : CallSignature) : Json :=
  .array [.string signature.suffix, each signature.types (type id)]

/-- Hyphens become underscores in the names of fields. -/
def fieldName (name : String) : String :=
  String.ofList (name.toList.map fun c => if c == '-' then '_' else c)

def policy (policy : Policy) : Json :=
  .object
    [("module", .string policy.moduleName), ("output", .string policy.output),
      ("comments", .bool policy.comments), ("compiler_opts", texts policy.compilerOptions),
      ("entry_points", texts policy.entryPoints),
      ("include_directives", texts policy.includeDirectives),
      ("filters", .object <| SelectionKind.all.map fun kind =>
        (fieldName kind.name, selection (policy.selection kind))),
      ("var_args", each policy.signatures fun entry =>
        .array [.string entry.1, each entry.2 signature]),
      ("native", native policy.native)]

end LuaBinder.Report
