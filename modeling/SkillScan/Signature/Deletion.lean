import SkillScan.Rule
import SkillScan.Signature.Execution

/-!
# Deletion of files

Library functions that remove files or directories.
-/

namespace SkillScan.Signature

open Pattern

/-- A library function that deletes. -/
def fileDeletion : Pattern :=
  oneOf [
    inOrder [wordEdge, text "fs.", oneOf [text "unlink", text "rmdir", text "rm"]],
    call (inOrder [text "os.", oneOf [text "remove", text "unlink"]]),
    call (text "shutil.rmtree")]

/-- The rule about deletion. -/
def deletionRule : Rule :=
  .ofPattern "File Deletion Operations" .medium "Ensure proper path validation" fileDeletion

end SkillScan.Signature
