import ThreatScan.Value.Basic
/-!
The advisories that come with the scanner.
-/
namespace ThreatScan.Advisory

def entry (package id description severity vulnerable fixed : String) : Value :=
  .dict [("package", .str package), ("cve_id", .str id), ("description", .str description), ("severity", .str severity),
    ("vulnerable_versions", .str vulnerable), ("fixed_version", .str fixed)]

/-- The advisories used when no database is named. -/
def shippedDatabase : Value := .list
  [entry "requests" "CVE-2023-32681" "Requests library vulnerable to SSRF"
      "high" "<2.31.0" "2.31.0",
   entry "urllib3" "CVE-2023-45803" "urllib3 vulnerable to request smuggling"
      "medium" "<2.0.7" "2.0.7",
   entry "crypto" "CVE-2023-23931" "Crypto library vulnerable to timing attack"
      "high" "<1.0.0" "1.0.0",
   entry "golang.org/x/crypto" "CVE-2023-29491" "Go crypto package vulnerable to timing attack"
      "high" "<0.17.0" "0.17.0",
   entry "org.apache.commons:commons-collections4" "CVE-2023-42860" "Apache Commons Collections vulnerable to deserialization"
      "critical" "<4.5" "4.5",
   entry "org.springframework:spring-core" "CVE-2023-20863" "Spring Framework vulnerable to RCE"
      "critical" "<6.0.0" "6.0.0"]

end ThreatScan.Advisory
