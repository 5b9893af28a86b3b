import TransferAudit.Program.Arguments

namespace TransferAudit.Program

def Opt.helpLine (o : Opt) : String :=
  let short := if o == .filter then "  -f, " else "      "
  let note (key : String) (value : Option String) := (value.map fun v => " [" ++ key ++ ": " ++ v ++ "]").getD ""
  short ++ "--" ++ o.long ++ " <" ++ o.valueName ++ ">" ++ note "env" o.fallback? ++
    note "default" o.default? ++ "\n"

def helpText : String :=
  "Usage: transfer-check [OPTIONS] --private-key <PRIVATE_KEY>\n\nOptions:\n" ++
    String.join (Opt.all.map Opt.helpLine) ++
    "      --json\n  -h, --help\n  -V, --version\n"

def Usage.text : Usage → String
  | .help => helpText
  | .version => versionText
  | .unknownArgument => "error: unexpected argument found\n"
  | .repeated => "error: an argument cannot be used multiple times\n"
  | .valueMissing => "error: a value is required but none was supplied\n"
  | .valueUnwanted => "error: unexpected value for a flag\n"
  | .requiredMissing => "error: the following required arguments were not provided:\n  --private-key <PRIVATE_KEY>\n"
  | .badValue o value reason => (Usage.badValue o value reason).message?.getD ""

end TransferAudit.Program
