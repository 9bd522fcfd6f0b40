namespace QuizPackage

/-- A system to run on, whose steps take place in `m`. -/
class Host (m : Type → Type) where
  /-- The content of a file, if it can be read. -/
  content? : String → m (Option ByteArray)
  /-- The names in a directory, if it can be listed. -/
  names? : String → m (Option (List String))
  present : String → m Bool
  directory : String → m Bool
  makeDirectory : String → m Bool
  writeFile : String → ByteArray → m Bool
  /-- The value of a variable, if it is set. -/
  setting? : String → m (Option String)
  /-- A token that no one has seen before. -/
  freshToken : m String
  print : String → m Unit

instance {ε : Type} {m : Type → Type} [Monad m] [Host m] : Host (ExceptT ε m) where
  content? path := ExceptT.lift (Host.content? path)
  names? path := ExceptT.lift (Host.names? path)
  present path := ExceptT.lift (Host.present path)
  directory path := ExceptT.lift (Host.directory path)
  makeDirectory path := ExceptT.lift (Host.makeDirectory path)
  writeFile path content := ExceptT.lift (Host.writeFile path content)
  setting? name := ExceptT.lift (Host.setting? name)
  freshToken := ExceptT.lift Host.freshToken
  print text := ExceptT.lift (Host.print text)

end QuizPackage
