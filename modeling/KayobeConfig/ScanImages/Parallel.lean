import Mathlib.Data.List.DropRight
import KayobeConfig.Library.Processes
import KayobeConfig.Library.Runs
import KayobeConfig.ScanImages.Summary

/-!
The jobs of `tools/scan-images.sh`: the commands of one scan under errexit, the job that
records its failure, and the loop that starts the jobs.
-/

namespace ScanImages

open Library

/-- The commands whose failure ends the scan. -/
inductive Command
  | filename
  | imagename
  | mkdir
  | globalVulnerabilities
  | familyVulnerabilities
  | imageVulnerabilities
  | configHeader
  | configIgnores
  | echoSbom
  | generateSbom
  | echoScan
  | removeScan
  | dropIgnoredMatches
  | moveScan
  | summaryHeader
  | summaryRows
  | record (category : Category)
  deriving DecidableEq

/-- The commands inside the condition of an `if`, where errexit does not apply. -/
inductive Test
  | summaryIsEmpty
  | summaryHasCritical
  deriving DecidableEq

/-- What is left to run of a scan. -/
inductive Script
  | run (command : Command) (rest : Script)
  | grype (clean error vulnerable : Script)
  | test (condition : Test) (holds fails : Script)
  | record (category : Category)
  | exit

def basename (path : List Char) : List Char :=
  let stem := path.rdropWhile fun c => c = '/'
  if stem = [] then path.take 1 else stem.rtakeWhile fun c => c ≠ '/'

def filename (image : String) : List Char :=
  (basename image.toList).map fun c => if c = ':' then '.' else c

def imagename (image : String) : List Char :=
  ((filename image).takeWhile fun c => c ≠ '.').map fun c => if c = '-' then '_' else c

def generateGrypeConfig (imagename : List Char) : List Command :=
  [.globalVulnerabilities] ++
    (if (imagename.takeWhile fun c => c ≠ '_') ≠ imagename then [.familyVulnerabilities] else []) ++
    [.imageVulnerabilities, .configHeader, .configIgnores]

def Script.runAll (commands : List Command) (rest : Script) : Script := commands.foldr .run rest

def categoriseScript : Script :=
  .test .summaryHasCritical (.record .critical) (.record .high)

def scanImageScript (generateSbom : Bool) (image : String) : Script :=
  .runAll ([.filename, .imagename, .mkdir] ++ generateGrypeConfig (imagename image) ++
      (if generateSbom then [.echoSbom, .generateSbom] else []) ++ [.echoScan]) <|
    .grype
      (.run .removeScan (.record .clean))
      .exit
      (.runAll [.dropIgnoredMatches, .moveScan, .summaryHeader, .summaryRows]
        (.test .summaryIsEmpty (.record .clean) categoriseScript))

/-- How the commands of an image's scan end. -/
structure Scan where
  errors : Command → Bool
  exitCode : Nat
  report : List Match
  testErrors : Test → Bool
  misread : Test → Option Nat

/-- The number that the pipeline in a condition prints, if it prints one. -/
def Scan.reads (scan : Scan) (condition : Test) : Option Nat :=
  if scan.testErrors condition then scan.misread condition
  else
    let summary := generateSummaryCsv scan.report
    match condition with
    | .summaryIsEmpty => some ((afterFirstLine summary).count '\n')
    | .summaryHasCritical => some (grepCount critical summary)

def Scan.holds (scan : Scan) : Test → Bool
  | .summaryIsEmpty => scan.reads .summaryIsEmpty = some 0
  | .summaryHasCritical => (scan.reads .summaryHasCritical).any fun count => 0 < count

def Scan.select {α : Type} (scan : Scan) (clean error vulnerable : α) : α :=
  if scan.exitCode = 0 then clean
  else if scan.exitCode ≠ 2 then error
  else vulnerable

/-- Where a scan is once its next command has ended. No category stands for exit status 1. -/
inductive Progress
  | running (left : Script)
  | exited (result : Option Category)

def Scan.advance (scan : Scan) : Script → Progress
  | .run command rest => if scan.errors command then .exited none else .running rest
  | .grype clean error vulnerable => .running (scan.select clean error vulnerable)
  | .test condition holds fails => .running (if scan.holds condition then holds else fails)
  | .record category => .exited (if scan.errors (.record category) then none else some category)
  | .exit => .exited none

/-- The jobs of one image: the scan in its subshell, then the shell that waits for it. -/
inductive Phase
  | idle
  | scanning (left : Script)
  | exited (result : Option Category)
  | ended (result : Option Category) (waited : Bool)

def Phase.isScanning : Phase → Bool
  | .scanning _ => true
  | _ => false

def Phase.isRunning : Phase → Bool
  | .scanning _ | .exited _ => true
  | _ => false

def Phase.isUnwaited : Phase → Bool
  | .ended _ waited => !waited
  | _ => false

def Phase.result : Phase → Option (Option Category)
  | .exited result | .ended result _ => some result
  | _ => none

/-- Where the shell that starts the jobs is. -/
inductive Position
  | throttling
  | waiting
  | checking
  | starting
  | draining
  | reporting
  | exited (status : Nat)
  deriving DecidableEq

structure Setup where
  images : List String
  scanParallelism : Nat
  generateSbom : Bool
  scans : String → Scan
  distinct : images.Nodup
  parallel : 0 < scanParallelism

structure System where
  position : Position
  pending : List String
  phases : String → Phase
  output : ScanOutput
  failedImages : List String

/-- The directory as `file_prep` leaves it. -/
def Setup.start (setup : Setup) : System where
  position := .throttling
  pending := setup.images
  phases := fun _ => .idle
  output := ⟨[], [], []⟩
  failedImages := []

def Setup.howMany (setup : Setup) (state : System) (counts : Phase → Bool) : Nat :=
  total setup.images (fun _ phase => (counts phase).toNat) state.phases

inductive Event
  | count (observed : Nat)
  | waitNext (image : String)
  | waitNone
  | check
  | start (image : String)
  | endLoop
  | wait
  | report
  | scan (image : String)
  | record (image : String)
  | forget (image : String)
  deriving DecidableEq

/-- `jobs -r` may still count a job that has ended, and `wait -n` returns for any job that it
has not returned for and that the shell has not dropped, or when there is none. -/
def Setup.Enabled (setup : Setup) (state : System) : Event → Prop
  | .count observed =>
      state.position = .throttling ∧ state.pending ≠ [] ∧
        setup.howMany state Phase.isRunning ≤ observed ∧
        observed ≤ setup.howMany state Phase.isRunning + setup.howMany state Phase.isUnwaited
  | .waitNext image => state.position = .waiting ∧ (state.phases image).isUnwaited
  | .waitNone =>
      state.position = .waiting ∧ setup.howMany state Phase.isRunning = 0 ∧
        setup.howMany state Phase.isUnwaited = 0
  | .check => state.position = .checking
  | .start image => state.position = .starting ∧ state.pending.head? = some image
  | .endLoop => state.position = .throttling ∧ state.pending = []
  | .wait => state.position = .draining ∧ setup.howMany state Phase.isRunning = 0
  | .report => state.position = .reporting
  | .scan image => (state.phases image).isScanning
  | .record image => (state.phases image).isRunning ∧ ¬(state.phases image).isScanning
  | .forget image => (state.phases image).isUnwaited

instance (setup : Setup) (state : System) (event : Event) : Decidable (setup.Enabled state event) := by
  cases event <;> unfold Setup.Enabled <;> infer_instance

def System.move (state : System) (image : String) (phase : Phase) : System :=
  { state with phases := Function.update state.phases image phase }

def System.finishScan (state : System) (image : String) : Option Category → System
  | none => state
  | some category => { state with output := state.output.record image category }

def Setup.scanStep (setup : Setup) (state : System) (image : String) : System :=
  match state.phases image with
  | .scanning left =>
      match (setup.scans image).advance left with
      | .running rest => state.move image (.scanning rest)
      | .exited result => (state.finishScan image result).move image (.exited result)
  | _ => state

/-- `wait $! || echo "$1" >> failed-images.txt`, after which the job has ended. -/
def System.recordFailure (state : System) (image : String) : System :=
  match state.phases image with
  | .exited none =>
      { state with failedImages := state.failedImages ++ [image] }.move image (.ended none false)
  | .exited (some category) => state.move image (.ended (some category) false)
  | _ => state

def System.markWaited (state : System) (image : String) : System :=
  match state.phases image with
  | .ended result _ => state.move image (.ended result true)
  | _ => state

def Setup.perform (setup : Setup) (state : System) : Event → System
  | .count observed =>
      { state with
        position := if setup.scanParallelism ≤ observed then .waiting else .checking }
  | .waitNext image => { state.markWaited image with position := .throttling }
  | .waitNone => { state with position := .throttling }
  | .check =>
      { state with position := if state.failedImages = [] then .starting else .draining }
  | .start image =>
      { state with position := .throttling, pending := state.pending.tail }.move image
        (.scanning (scanImageScript setup.generateSbom image))
  | .endLoop => { state with position := .draining }
  | .wait => { state with position := .reporting }
  | .report => { state with position := .exited (if state.failedImages = [] then 0 else 1) }
  | .scan image => setup.scanStep state image
  | .record image => state.recordFailure image
  | .forget image => state.markWaited image

/-- The interleavings of the loop and its jobs. -/
def Setup.Run (setup : Setup) (events : List Event) : Prop :=
  Along setup.perform setup.Enabled setup.start events

def Setup.after (setup : Setup) (events : List Event) : System :=
  runFrom setup.perform setup.start events

end ScanImages
