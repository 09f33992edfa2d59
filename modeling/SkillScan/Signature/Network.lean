import SkillScan.Rule
import SkillScan.Signature.CharKind
import SkillScan.Signature.Execution

/-!
# Network access

Downloads of programs and archives from hosts that are not trusted, and requests to other machines.
-/

namespace SkillScan.Signature

open Pattern Text

/-- Beginnings of hosts whose downloads are not reported. -/
def trustedHosts : List String :=
  ["github.com", "raw.githubusercontent", "npmjs", "nodejs", "pypi", "files.pythonhosted.org"]

/-- The extensions of programs and archives. -/
def payloadExtensions : List String :=
  ["zip", "exe", "bin", "dmg", "msi", "pkg", "tgz", "tar.gz", "deb", "rpm", "appimage"]

/-- A web address that does not begin with a trusted host and has a payload extension at a word's end. -/
def untrustedDownload : Pattern :=
  inOrder [anyCase "http", optional (anyCase "s"), anyCase "://",
    .unless (oneOf (trustedHosts.map anyCase)), Pattern.some isSolid, anyCase ".",
    oneOf (payloadExtensions.map anyCase), wordEdge]

/-- A function that sends a request, applied to something. -/
def networkRequest : Pattern :=
  oneOf [
    inOrder [wordEdge, text "fetch", many isBlank, text "(", many isBlank, one isStringMark,
      Pattern.some isInString, one isStringMark],
    inOrder [wordEdge, oneOf [text "requests", text "httpx"], text ".",
      oneOf (["get", "post", "put", "patch", "delete", "head", "request"].map text), many isBlank,
      text "("],
    call (text "urlopen")]

/-- The rule about downloads. -/
def downloadRule : Rule :=
  .ofPattern "Download from Untrusted Source" .high "Verify source is trustworthy before downloading"
    untrustedDownload

/-- The rule about requests. -/
def requestRule : Rule :=
  .ofPattern "External Network Request" .medium "Verify URLs are legitimate and necessary" networkRequest

end SkillScan.Signature
