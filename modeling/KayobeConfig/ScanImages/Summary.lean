import Mathlib.Data.List.Infix
import Mathlib.Data.List.ReduceOption
import Mathlib.Data.String.Basic
import KayobeConfig.Library.Csv
import KayobeConfig.Library.Dict

/-!
`tools/scan-images.sh` on a Grype report: the summary it writes of the high and
critical matches outside kernel packages, and the list it puts the image on.
-/

namespace ScanImages

open Library

structure Match where
  id : String
  severity : String
  fixVersions : List String
  dataSource : Option String
  artifactName : String
  artifactType : Option String
  purl : Option String
  paths : List (Option String)

/-- `test("^level$"; "i")`. -/
def severityIs (level : String) (entry : Match) : Bool :=
  beforeEnd (fun chars => chars.map Char.toUpper == level.toList.map Char.toUpper) entry.severity

def nonKernel (entry : Match) : Bool :=
  !(["kernel", "linux-kernel", "linux-libc-dev"].any (startswith entry.artifactName)) &&
    !startswith (entry.artifactType.getD "") "linux-kernel"

def selectedMatches (report : List Match) : List Match :=
  report.filter fun entry => (severityIs "high" entry || severityIs "critical" entry) && nonKernel entry

def uniqueSorted (texts : List String) : List String := sortedBy id (unique texts)

def joinTexts (texts : List String) : String :=
  String.ofList ([';'].intercalate (texts.map String.toList))

/-- `group_by(.vulnerability.id)`: groups by ascending id, each in the report's order. -/
def groupById (entries : List Match) : List (List Match) :=
  (uniqueSorted (entries.map Match.id)).map fun id => entries.filter fun entry => entry.id = id

def summaryFields (group : List Match) : List (Option String) :=
  [some (joinTexts (uniqueSorted (group.map Match.artifactName))),
    some (joinTexts (uniqueSorted (group.flatMap fun entry => entry.paths.reduceOption))),
    group.head?.bind Match.purl, group.head?.map Match.id,
    some (joinTexts ((group.head?.map Match.fixVersions).getD [])),
    group.head?.bind Match.dataSource, group.head?.map fun entry => asciiUpper entry.severity]

def summaryHeader : String :=
  "\"PkgName\",\"PkgPath\",\"PkgID\",\"VulnerabilityID\",\"FixedVersion\",\"PrimaryURL\",\"Severity\""

def summaryRows (report : List Match) : List Char :=
  (groupById (selectedMatches report)).flatMap fun group => csvLine (summaryFields group) ++ ['\n']

def generateSummaryCsv (report : List Match) : List Char :=
  summaryHeader.toList ++ '\n' :: summaryRows report

def grepCount (word : List Char) (text : List Char) : Nat :=
  (text.splitOn '\n').countP fun line => word <:+: line

def afterFirstLine (text : List Char) : List Char := ((splitFirst '\n' text).map Prod.snd).getD []

inductive Category
  | clean
  | high
  | critical
  deriving DecidableEq

structure ScanOutput where
  cleanImages : List String
  highImages : List String
  criticalImages : List String
  deriving DecidableEq

def ScanOutput.record (output : ScanOutput) (image : String) : Category → ScanOutput
  | .clean => { output with cleanImages := output.cleanImages ++ [image] }
  | .high => { output with highImages := output.highImages ++ [image] }
  | .critical => { output with criticalImages := output.criticalImages ++ [image] }

def critical : List Char := "CRITICAL".toList

def categoriseImage (summary : List Char) : Category :=
  if grepCount critical summary > 0 then .critical else .high

/-- `scan_image` once Grype has exited. Only the codes 0 and 2 record the image. -/
def scanImage (image : String) (exitCode : Nat) (report : List Match) (output : ScanOutput) :
    Option ScanOutput :=
  if exitCode = 0 then some (output.record image .clean)
  else if exitCode ≠ 2 then none
  else
    let summary := generateSummaryCsv report
    if (afterFirstLine summary).count '\n' = 0 then some (output.record image .clean)
    else some (output.record image (categoriseImage summary))

end ScanImages
