import QuizPackage.Command.Run

namespace QuizPackage

def entryAt (path : String) : IO.FS.DirEntry := ⟨path, ""⟩

def succeeding {α : Type} (path : String) (action : IO α) : IO (Option α) := do
  if Path.isUsable path then
    try return some (← action) catch _ => return none
  else
    return none

def namesAt (path : String) : IO (List String) := do
  return (← (entryAt path).root.readDir).toList.map IO.FS.DirEntry.fileName

def randomToken : IO String := do
  let bytes ← IO.getRandomBytes 4
  let digits := bytes.toList.flatMap fun byte =>
    [Nat.digitChar (byte.toNat / 16), Nat.digitChar (byte.toNat % 16)]
  return String.ofList digits

instance : Host IO where
  content? path := succeeding path (IO.FS.readBinFile path)
  names? path := succeeding path (namesAt path)
  present path := return (← succeeding path (entryAt path).root.pathExists).getD false
  directory path := return (← succeeding path (entryAt path).root.isDir).getD false
  makeDirectory path := do
    if path == "" then return true
    return (← succeeding path (IO.FS.createDirAll path)).isSome
  writeFile path content := return (← succeeding path (IO.FS.writeBinFile path content)).isSome
  setting? name := if name.toList.contains '\x00' then return none else IO.getEnv name
  freshToken := randomToken
  print text := IO.print text

end QuizPackage

def main (arguments : List String) : IO UInt32 := do
  let ending ← QuizPackage.Command.run arguments
  if ending.code != 0 then
    IO.eprintln ending.complaint
  return ending.code
