import ThreatScan.Text.Basic
/-!
Text inside markup.
-/
namespace ThreatScan.Markup

/-- The text with its ampersands, angle brackets and quotes replaced by entities. The ampersands go first, so that those
of the entities stay. -/
def escape (s : String) : String :=
  let s := Text.replace s "&" "&amp;"
  let s := Text.replace s "<" "&lt;"
  let s := Text.replace s ">" "&gt;"
  let s := Text.replace s "\"" "&quot;"
  Text.replace s "'" "&#39;"

end ThreatScan.Markup
