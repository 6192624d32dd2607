import ThreatScan.Value.Basic
/-!
The rules and settings that come with the scanner.
-/
namespace ThreatScan

/-- A shipped rule as a record; a rule that names no language is for Python. -/
def shippedRule (id name pattern severity description : String) (language : Option String) : Value :=
  .dict ([("id", .str id), ("name", .str name), ("pattern", .str pattern), ("severity", .str severity),
    ("description", .str description)] ++
    match language with
    | some l => [("language", .str l)]
    | none => [])

def shippedRules : List Value := [
  shippedRule "webshell_eval" "WebShell - eval() Usage"
    "eval\\s*\\("
    "critical" "Detects usage of eval() function which can execute arbitrary code"
    none,
  shippedRule "webshell_exec" "WebShell - exec() Usage"
    "exec\\s*\\("
    "critical" "Detects usage of exec() function which can execute arbitrary code"
    none,
  shippedRule "webshell_import" "WebShell - __import__() Usage"
    "__import__\\s*\\("
    "high" "Detects usage of __import__() which can dynamically import modules"
    none,
  shippedRule "webshell_compile" "WebShell - compile() Usage"
    "compile\\s*\\("
    "high" "Detects usage of compile() which can compile and execute code"
    none,
  shippedRule "webshell_getattr" "WebShell - getattr() with Dangerous Functions"
    "getattr\\s*\\([^,]+,\\s*['\"](eval|exec|__import__|compile)['\"]"
    "high" "Detects getattr() calls that may access dangerous functions"
    none,
  shippedRule "sql_injection_string_concat" "SQL Injection - String Concatenation"
    "(SELECT|INSERT|UPDATE|DELETE|DROP|CREATE|ALTER)\\s+.*\\+.*['\"]"
    "high" "Detects SQL queries with string concatenation that may lead to injection"
    none,
  shippedRule "sql_injection_format" "SQL Injection - String Formatting"
    "(SELECT|INSERT|UPDATE|DELETE|DROP|CREATE|ALTER).*%[sd]"
    "high" "Detects SQL queries using string formatting that may be vulnerable"
    none,
  shippedRule "sql_injection_raw_sql" "SQL Injection - Raw SQL Execution"
    "(execute|executemany|query)\\s*\\([^)]*\\+[^)]*\\)"
    "high" "Detects raw SQL execution with string concatenation"
    none,
  shippedRule "rce_os_system" "RCE - os.system() Call"
    "os\\.system\\s*\\("
    "critical" "Detects os.system() calls which can execute system commands"
    none,
  shippedRule "rce_subprocess_call" "RCE - subprocess.call()"
    "subprocess\\.(call|run|Popen)\\s*\\("
    "critical" "Detects subprocess calls which can execute system commands"
    none,
  shippedRule "rce_os_popen" "RCE - os.popen() Call"
    "os\\.popen\\s*\\("
    "high" "Detects os.popen() calls which can execute commands"
    none,
  shippedRule "rce_commands_getoutput" "RCE - commands.getoutput()"
    "commands\\.getoutput\\s*\\("
    "high" "Detects commands.getoutput() calls (Python 2 legacy, but still dangerous)"
    none,
  shippedRule "file_traversal" "Path Traversal Attack"
    "\\.\\./|\\.\\.\\\\"
    "medium" "Detects path traversal patterns (../ or ..\\)"
    none,
  shippedRule "file_sensitive_read" "Sensitive File Read"
    "open\\s*\\([^)]*['\"](/etc/passwd|/etc/shadow|C:\\\\Windows\\\\System32|\\.env|\\.git/config)['\"]"
    "high" "Detects attempts to read sensitive system files"
    none,
  shippedRule "file_arbitrary_write" "Arbitrary File Write"
    "open\\s*\\([^)]*['\"]w['\"]|open\\s*\\([^)]*['\"]a['\"]"
    "medium" "Detects file write operations (may be legitimate, but needs review)"
    none,
  shippedRule "network_socket_connect" "Network - socket.connect()"
    "\\.connect\\s*\\("
    "medium" "Detects socket connection attempts"
    none,
  shippedRule "network_urllib" "Network - urllib Usage"
    "urllib\\.(urlopen|request|urlretrieve)"
    "low" "Detects urllib usage for network operations"
    none,
  shippedRule "network_requests" "Network - requests Library"
    "requests\\.(get|post|put|delete|patch)"
    "low" "Detects requests library usage (usually legitimate, but may indicate data exfiltration)"
    none,
  shippedRule "backdoor_hardcoded_password" "Backdoor - Hardcoded Password"
    "(password|passwd|pwd)\\s*=\\s*['\"][^'\"]\x7b3,\x7d['\"]"
    "high" "Detects hardcoded passwords in code"
    none,
  shippedRule "backdoor_secret_key" "Backdoor - Hardcoded Secret Key"
    "(secret|key|token|api_key)\\s*=\\s*['\"][^'\"]\x7b10,\x7d['\"]"
    "high" "Detects hardcoded secret keys or API tokens"
    none,
  shippedRule "backdoor_base64_decode" "Backdoor - Base64 Decoding"
    "base64\\.(b64decode|decodestring)"
    "medium" "Detects base64 decoding which may be used to obfuscate malicious code"
    none,
  shippedRule "backdoor_reverse_shell" "Backdoor - Reverse Shell Pattern"
    "(socket|subprocess|os\\.system).*['\"](bash|sh|cmd|powershell).*['\"]"
    "critical" "Detects potential reverse shell patterns"
    none,
  shippedRule "info_debug_print" "Information Disclosure - Debug Print"
    "print\\s*\\([^)]*(password|secret|key|token|api)"
    "low" "Detects print statements that may leak sensitive information"
    none,
  shippedRule "info_stack_trace" "Information Disclosure - Stack Trace Exposure"
    "traceback\\.print_exc|sys\\.exc_info"
    "low" "Detects stack trace printing which may expose system information"
    (some "python"),
  shippedRule "go_rce_exec_command" "Go RCE - exec.Command()"
    "exec\\.Command\\s*\\("
    "critical" "Detects exec.Command() calls which can execute system commands"
    (some "go"),
  shippedRule "go_os_exec" "Go RCE - os/exec Usage"
    "os/exec|exec\\.(Command|Run|Start)"
    "critical" "Detects os/exec package usage for command execution"
    (some "go"),
  shippedRule "go_network_dial" "Go Network - net.Dial()"
    "net\\.Dial\\s*\\("
    "medium" "Detects network dial operations"
    (some "go"),
  shippedRule "go_sql_injection" "Go SQL Injection - String Concatenation"
    "(Query|Exec|QueryRow)\\s*\\([^)]*\\+[^)]*\\)"
    "high" "Detects SQL queries with string concatenation"
    (some "go"),
  shippedRule "go_file_write" "Go File Write Operation"
    "os\\.(Create|OpenFile|WriteFile)\\s*\\("
    "medium" "Detects file write operations"
    (some "go"),
  shippedRule "java_rce_runtime_exec" "Java RCE - Runtime.exec()"
    "Runtime\\.getRuntime\\(\\)\\.exec\\s*\\("
    "critical" "Detects Runtime.exec() calls which can execute system commands"
    (some "java"),
  shippedRule "java_rce_processbuilder" "Java RCE - ProcessBuilder"
    "(new\\s+)?ProcessBuilder\\s*\\("
    "critical" "Detects ProcessBuilder usage for command execution"
    (some "java"),
  shippedRule "java_sql_injection" "Java SQL Injection - String Concatenation"
    "(Statement|PreparedStatement)\\.(executeQuery|executeUpdate|execute)\\s*\\([^)]*\\+[^)]*\\)"
    "high" "Detects SQL queries with string concatenation"
    (some "java"),
  shippedRule "java_file_operation" "Java File Operation"
    "(FileWriter|FileOutputStream|PrintWriter)\\s*\\("
    "medium" "Detects file write operations"
    (some "java"),
  shippedRule "java_network_connection" "Java Network Connection"
    "(Socket|URL|HttpURLConnection)\\s*\\(|connect\\s*\\("
    "medium" "Detects network connection operations"
    (some "java"),
  shippedRule "java_deserialization" "Java Deserialization Risk"
    "(ObjectInputStream|readObject|readUnshared)\\s*\\("
    "high" "Detects deserialization operations which may be vulnerable"
    (some "java")]

def shippedRuleFile : Value := .dict [("rules", .list shippedRules)]

def shippedSettings : List (String × Value) :=
  [("timeout", .int 30), ("log_path", .str "data/logs/"), ("report_path", .str "data/reports/"),
   ("intermediate_path", .str "data/intermediate/"), ("upload_path", .str "data/uploads/"),
   ("max_file_size", .int 10485760), ("enable_dynamic_analysis", .bool true),
   ("enable_static_analysis", .bool true), ("log_level", .str "INFO")]

end ThreatScan
