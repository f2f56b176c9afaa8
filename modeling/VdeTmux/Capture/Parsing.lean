import VdeTmux.Capture.Server
import VdeTmux.Foundation.Text

/-!
# Reading the capture

The output is cut at the boundaries of the jobs, each job at its delimiters, and each pane's section
must stand between its two markers.
-/

open Foundation Foundation.Text Foundation.Cutting
open VdeTmux.SessionManager (ServerIdentity)
namespace VdeTmux.Capture

structure CapturedScreen where
  tail : List Char
  viewportStart : ℕ
deriving DecidableEq

structure CaptureBatchOutput where
  exitCode : Option ℤ
  stdout : List Char

inductive CaptureBatchError
  | processFailed (exitCode : Option ℤ)
  | invalidIdentityHeader
  | identityMismatch (expected actual : ServerIdentity)
  | delimiterMismatch (expected actual : ℕ)
  | invalidViewport
deriving DecidableEq

inductive CaptureJobOutcome
  | observation (screens : Except CaptureBatchError (List CapturedScreen))
deriving DecidableEq

def u32Max : ℕ := 2 ^ 32 - 1

def i64Min : ℤ := -2 ^ 63

def i64Max : ℤ := 2 ^ 63 - 1

def lineValue (line : List Char) : List Char :=
  stripCr (if line.getLast? = some '\n' then line.dropLast else line)

def lineIs (value line : List Char) : Bool := lineValue line = value

def shape (line marker : List Char) : Option (ℕ × ℕ) := do
  let rest ← stripStart marker (line.rdropWhile fun c => c = '\r' || c = '\n')
  let (width, height) ← splitOnce [':'] rest
  let width ← parseNat usizeMax width
  let height ← parseNat usizeMax height
  if 0 < width ∧ 0 < height then some (width, height) else none

def parseSection (delimiter sectionText : List Char) : Except CaptureBatchError CapturedScreen :=
  let lines := splitInclusive '\n' sectionText
  if (lines.getLast?.any fun line => (obsOkMarker delimiter).isPrefixOf line) = false then
    .error (.processFailed none)
  else
    let before := lines.head?.bind fun line => shape line (obsViewMarker delimiter)
    let after := lines.getLast?.bind fun line => shape line (obsOkMarker delimiter)
    match before.filter fun _ => before = after with
    | none => .error .invalidViewport
    | some (_, height) =>
      let rows := lines.dropLast.drop 1
      if rows.length < height then .error .invalidViewport
      else
        .ok ⟨rows.flatten, ((rows.take (rows.length - height)).map charBytes).sum⟩

def splitSections (body delimiter : List Char) : List (List Char) :=
  let sections := cut (lineIs delimiter) (splitInclusive '\n' body)
  (sections.1 :: sections.2).map List.flatten

def parseSections (delimiter : List Char) :
    List (List Char) → Except CaptureBatchError (List CapturedScreen)
  | [] => .ok []
  | sectionText :: sections => do
    let screen ← parseSection delimiter sectionText
    let screens ← parseSections delimiter sections
    return screen :: screens

def parseObservationJob (body : List Char) (paneCount : ℕ) (delimiter : List Char) :
    Except CaptureBatchError (List CapturedScreen) :=
  if paneCount = 0 then .ok []
  else
    let sections := splitSections body delimiter
    if sections.length ≠ paneCount then
      .error (.delimiterMismatch (paneCount - 1) (sections.length - 1))
    else parseSections delimiter sections

def identityOf (delimiter line : List Char) : Option ServerIdentity := do
  let value ← stripStart (captureIdentityPrefix delimiter) (stripCr line)
  let (pid, startTime) ← splitOnce [':'] value
  let pid ← parseNat u32Max pid
  let startTime ← parseInt i64Min i64Max startTime
  return ⟨pid, startTime⟩

def jobBodies (delimiter stdout : List Char) : List (List Char) :=
  (cut (lineIs (jobBoundaryMarker delimiter)) (splitInclusive '\n' stdout)).2.map List.flatten

def parseJob (delimiter : List Char) (job : CaptureJobSpec) (body : List Char) :
    CaptureJobOutcome :=
  match job with
  | .observationPlain panes => .observation (parseObservationJob body panes.length delimiter)

def parseCombinedCapture (output : CaptureBatchOutput) (jobs : List CaptureJobSpec)
    (delimiter : List Char) (expectedIdentity : ServerIdentity) :
    Except CaptureBatchError (List CaptureJobOutcome) :=
  if output.exitCode ≠ some 0 ∧ output.stdout = [] then
    .error (.processFailed output.exitCode)
  else
    match splitOnce ['\n'] output.stdout with
    | none => .error .invalidIdentityHeader
    | some (identityLine, stdout) =>
      match identityOf delimiter identityLine with
      | none => .error .invalidIdentityHeader
      | some identity =>
        if identity ≠ expectedIdentity then
          .error (.identityMismatch expectedIdentity identity)
        else
          let bodies := jobBodies delimiter stdout
          if bodies.length ≠ jobs.length then
            .error (.delimiterMismatch jobs.length bodies.length)
          else .ok (List.zipWith (parseJob delimiter) jobs bodies)

end VdeTmux.Capture
