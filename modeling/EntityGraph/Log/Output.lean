import EntityGraph.Log.File
import EntityGraph.Log.Format
import EntityGraph.Log.Size
import EntityGraph.Settings.Basic
/-!
Where log records go.

* `Output`: the least level that is written, the form of the lines, an optional file, and what has
  been written so far.
* `Output.configure`: a new configuration takes the place of the old one; what has been written
  stays.
* `Output.write`: one record goes to the console and to the file, if there is one.
-/

namespace EntityGraph.Log

/-- A configuration of the output. -/
structure Configuration where
  level : String := "INFO"
  format : String := "json"
  file : Option String := none
  rotation : String := "10MB"
  retention : Int := 30
  deriving DecidableEq, Repr, Inhabited

/-- The configuration that the settings ask for. -/
def Configuration.ofSettings (s : Settings) : Configuration :=
  { level := s.logLevel, format := s.logFormat, file := s.logFile, rotation := s.logRotation
    retention := s.logRetention }

/-- The state of the output. -/
structure Output where
  /-- The least level that is written, if one is set. -/
  level : Option Level
  format : Format
  file : Option FileLog
  console : String
  files : Files
  deriving Repr, Inhabited

/-- A letter without its case, as far as it can be part of the name of a level: the dotless i is
taken for an I and the long s for an S. -/
def levelLetter (c : Char) : Char :=
  if c = '\u0131' then 'I' else if c = '\u017f' then 'S' else c.toUpper

/-- The level with a name in any case. One name unsets the level, and an unknown name stands for the
usual level. -/
def levelNamed (name : String) : Option Level :=
  let name := String.ofList (name.toList.map levelLetter)
  if name = "NOTSET" then none else some ((Level.ofName? name).getD .info)

namespace Output

/-- The output before it is configured. -/
def initial : Output := ⟨some .info, .json, none, "", []⟩

/-- A new configuration. The file, if one is named, is opened at once. -/
def configure (o : Output) (c : Configuration) : Except SizeError Output := do
  let o := { o with level := levelNamed c.level, format := .ofName c.format, file := none }
  match c.file with
  | none => return o
  | some path =>
    if path.isEmpty then return o
    else
      let maxBytes ← readSize c.rotation
      let path := resolvePath path
      return { o with file := some ⟨path, maxBytes, c.retention⟩, files := o.files.touch path }

/-- The least level that is written: warnings, unless another one is set. -/
def leastLevel (o : Output) : Level := o.level.getD .warning

/-- Write a record at a moment, unless its level is too low. -/
def write (o : Output) (r : Record) (moment : Nat) : Output :=
  if r.level.rank < o.leastLevel.rank then o
  else
    let line := r.line o.format moment ++ "\n"
    { o with
      console := o.console ++ line
      files := match o.file with
        | some f => f.append o.files line
        | none => o.files }

end Output

end EntityGraph.Log
