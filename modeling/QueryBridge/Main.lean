import QueryBridge.Command.Run

set_option autoImplicit false

namespace QueryBridge

def faultOf : IO.Error → FileFault
  | .noFileOrDirectory _ _ _ => .missing
  | .inappropriateType _ _ _ => .throughFile
  | _ => .isDirectory

def readTextFile (path : String) : IO (Except FileFault String) := do
  try
    match String.fromUTF8? (← IO.FS.readBinFile path) with
    | some text => return .ok text
    | none => return .error .undecodable
  catch e => return .error (faultOf e)

def writeTextFile (path text : String) : IO (Except FileFault Unit) := do
  try
    IO.FS.writeFile path text
    return .ok ()
  catch e => return .error (faultOf e)

def variableOf (entry : String) : String × String :=
  let cs := entry.toList
  (String.ofList (cs.takeWhile (· != '=')), String.ofList ((cs.dropWhile (· != '=')).drop 1))

def processEnvironment : IO Environment := do
  match ← readTextFile "/proc/self/environ" with
  | .ok text =>
    let entries := (text.splitOn "\x00").map variableOf
    return fun name => entries.lookup name
  | .error _ => return fun _ => none

def processHost : IO (Host IO) := do
  let stdout ← IO.getStdout
  let stderr ← IO.getStderr
  return {
    environment := ← processEnvironment
    files := ⟨readTextFile, writeTextFile⟩
    print := stdout.putStrLn
    complain := stderr.putStrLn }

end QueryBridge

def main (arguments : List String) : IO UInt32 := do
  let host ← QueryBridge.processHost
  return (← QueryBridge.runCommandLine host arguments).number.toUInt32
