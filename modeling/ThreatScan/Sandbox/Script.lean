import ThreatScan.Host.Basic
/-!
The script that a sandbox runs: it installs the hooks and then runs the target.
-/
namespace ThreatScan.Sandbox

def rawLiteral (s : String) : String := "r'" ++ s ++ "'"

/-- The lines of the script. `root` is where the hooks are found. -/
def scriptLines (root target log : String) (args : List String) : List String :=
  ["#!/usr/bin/env python",
   "# -*- coding: utf-8 -*-",
   "# Auto-generated hook runner script",
   "",
   "import sys",
   "import os",
   "",
   "# Add engines directory to path",
   "sys.path.insert(0, " ++ rawLiteral root ++ ")",
   "",
   "# Import and install hooks",
   "from engines.dynamic.syscall_monitor import install_hooks",
   "",
   "# Install hooks before importing target",
   "install_hooks(" ++ rawLiteral log ++ ")",
   "",
   "# Now run the target file",
   "target_file = " ++ rawLiteral target,
   "sys.argv = [target_file] + " ++ (Value.list (args.map .str)).display,
   "",
   "# Execute target file",
   "with open(target_file, 'r', encoding='utf-8') as f:",
   "    code = f.read()",
   "",
   "exec(compile(code, target_file, 'exec'), \x7b'__name__': '__main__', '__file__': target_file\x7d)",
   ""]

def script (target log : String) (args : List String) : String :=
  Text.join "\n" (scriptLines Path.work (Path.absolute target) (Path.absolute log) args)

def writeScript (target log : String) (args : List String) : Act String := do
  let path := Path.temp ++ "/hook_runner_" ++ (← Host.tempName) ++ ".py"
  Host.writeText path (script target log args)
  return path

end ThreatScan.Sandbox
