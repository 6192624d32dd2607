import ThreatScan.Rule.Shipped
/-!
The configuration files that come with the scanner. Their values are the shipped settings and rules.
-/
namespace ThreatScan

/-- The settings file that comes with the scanner, as it is written. -/
def shippedSettingsText : String :=
  Text.join "\n"
    ["# OSS-Guardian System Configuration",
     "",
     "# Dynamic analysis timeout in seconds",
     "timeout: 30",
     "",
     "# Log file storage path",
     "log_path: data/logs/",
     "",
     "# Report output path",
     "report_path: data/reports/",
     "",
     "# Intermediate results storage path",
     "intermediate_path: data/intermediate/",
     "",
     "# Upload directory for user files",
     "upload_path: data/uploads/",
     "",
     "# Maximum file size for upload (in bytes, 10MB default)",
     "max_file_size: 10485760",
     "",
     "# Enable/disable dynamic analysis (requires hooking)",
     "enable_dynamic_analysis: true",
     "",
     "# Enable/disable static analysis",
     "enable_static_analysis: true",
     "",
     "# Logging level: DEBUG, INFO, WARNING, ERROR, CRITICAL",
     "log_level: INFO",
     ""]

/-- The headings between the rules, each with the rule that it stands before. -/
def ruleHeadings : List (String × String) :=
  [("webshell_eval", "WebShell Detection Rules"), ("sql_injection_string_concat", "SQL Injection Detection Rules"),
   ("rce_os_system", "RCE (Remote Code Execution) Detection Rules"), ("file_traversal", "File Operation Risks"),
   ("network_socket_connect", "Network Connection Risks"), ("backdoor_hardcoded_password", "Backdoor Detection"),
   ("info_debug_print", "Information Disclosure"), ("go_rce_exec_command", "Go Language Security Rules"),
   ("java_rce_runtime_exec", "Java Language Security Rules")]

/-- A text in double quotes, with a backslash before backslashes and quotes. -/
def inQuotes (s : String) : String := "\"" ++ Text.replace (Text.replace s "\\" "\\\\") "\"" "\\\"" ++ "\""

/-- The lines of a field of a rule; the first field comes behind a dash, and perhaps a heading. -/
def ruleFieldLines : String × Value → List String
  | ("id", .str id) => ((ruleHeadings.lookup id).map ("  # " ++ ·)).toList ++ ["  - id: " ++ id]
  | (key, .str s) => ["    " ++ key ++ ": " ++ inQuotes s]
  | _ => []

def ruleLines : Value → List String
  | .dict fields => fields.flatMap ruleFieldLines ++ [if (fields.lookup "language").isSome then "  " else "    "]
  | _ => []

def shippedRulesText : String :=
  Text.join "\n"
    (["# OSS-Guardian Security Detection Rules",
      "# Each rule contains: id, name, pattern (regex), severity, description", "", "rules:"] ++
     (shippedRules.flatMap ruleLines).dropLast ++ [""])

end ThreatScan
