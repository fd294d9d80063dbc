import SourceContract.CommandLine.Usage
import Std.Time.Format

/-!
# The program

The disk of the system, the clock and the streams around `CommandLine.run`.
-/

namespace SourceContract.Program

/-! ## Faults of the system -/

def describe : IO.Error → UInt32 × String
  | .alreadyExists _ code text => (code, text)
  | .otherError code text => (code, text)
  | .resourceBusy code text => (code, text)
  | .resourceVanished code text => (code, text)
  | .unsupportedOperation code text => (code, text)
  | .hardwareFault code text => (code, text)
  | .unsatisfiedConstraints code text => (code, text)
  | .illegalOperation code text => (code, text)
  | .protocolError code text => (code, text)
  | .timeExpired code text => (code, text)
  | .interrupted _ code text => (code, text)
  | .noFileOrDirectory _ code text => (code, text)
  | .invalidArgument _ code text => (code, text)
  | .permissionDenied _ code text => (code, text)
  | .resourceExhausted _ code text => (code, text)
  | .inappropriateType _ code text => (code, text)
  | .noSuchThing _ code text => (code, text)
  | .unexpectedEof => (0, "unexpected end of file")
  | .userError text => (0, text)

def attempt {α : Type} (act : IO α) : IO (Except FileFault α) := do
  try return .ok (← act)
  catch e =>
    let (code, text) := describe e
    return .error (FileFault.ofCode code.toNat text)

/-! ## The disk -/

def kindOf (path : String) : IO (Except FileFault IO.FS.FileType) :=
  attempt do return (← (← IO.FS.realPath path).metadata).type

def canonicalize (path : String) : IO (Except FileFault String) :=
  attempt do return (← IO.FS.realPath path).toString

mutual

partial def walkBelow (trail : List (String × String)) (path : String) :
    IO (Except WalkFault (List WalkedFile)) := do
  match ← attempt do (← IO.FS.realPath path).readDir with
  | .error fault => return .error (.unreadable path fault)
  | .ok entries =>
      let mut files : List WalkedFile := []
      for entry in entries do
        let child := Path.join path entry.fileName
        let isLink := (← entry.path.symlinkMetadata).type == .symlink
        match ← kindOf child with
        | .error fault => return .error (.unreadable child fault)
        | .ok .dir =>
            match ← enter trail isLink child with
            | .error fault => return .error fault
            | .ok found => files := files ++ found
        | .ok .file => files := files ++ [⟨child, entry.fileName⟩]
        | .ok _ => pure ()
      return .ok files

/-- Only a link can lead back to a directory of the trail. -/
partial def enter (trail : List (String × String)) (isLink : Bool) (path : String) :
    IO (Except WalkFault (List WalkedFile)) := do
  match ← canonicalize path with
  | .error fault => return .error (.unreadable path fault)
  | .ok here =>
      match if isLink then trail.lookup here else none with
      | some ancestor => return .error (.loop path ancestor)
      | none => walkBelow ((here, path) :: trail) path

end

def disk : Disk IO where
  currentDirectory := return (← IO.currentDir).toString
  canonicalize := canonicalize
  isDirectory path := return match ← kindOf path with
    | .ok .dir => true
    | _ => false
  isFile path := return match ← kindOf path with
    | .ok .file => true
    | _ => false
  read path := attempt (IO.FS.readBinFile path)
  walk := enter [] false
  makeDirectories path := attempt (IO.FS.createDirAll path)
  write path text := attempt (IO.FS.writeFile path text)

/-! ## Clock and terminal -/

def now : IO String := do
  let time := Std.Time.DateTime.ofTimestampWithZone (← Std.Time.Timestamp.now) .UTC
  return time.format "uuuu-MM-dd HH:mm:ss" ++ " UTC"

def colour : IO Bool := do
  let wishes : CommandLine.ColourWishes := ⟨← IO.getEnv "CLICOLOR", ← IO.getEnv "NO_COLOR",
    ← IO.getEnv "CLICOLOR_FORCE"⟩
  return wishes.decide (← (← IO.getStdout).isTty)

def outcome (args : List String) : IO CommandLine.Outcome := do
  match CommandLine.Options.ofArguments args with
  | .error refusal => return refusal.outcome
  | .ok options => CommandLine.run disk (← colour) (← now) options

end SourceContract.Program

def main (args : List String) : IO UInt32 := do
  let outcome ← SourceContract.Program.outcome args
  IO.print outcome.stdout
  IO.eprint outcome.stderr
  return outcome.exitCode.toUInt32
