import UefiBuild.Pcd.Access
import UefiBuild.SourcePath
import UefiBuild.Table

namespace UefiBuild

inductive Section
  | defines
  | packages
  | libraryClasses
  | libraryInstances
  | protocols
  | ppis
  | guids
  | includes
  | sources
  | binaries
  | pcds (part : PcdSection)
  | depex
  | buildOptions
  | skuIds
  | components
  | sourceOverridePaths
  deriving DecidableEq

/-- One row of a section. Its architecture and scope are those of the section it stands in; the rows
inside a component's braces are owned by the component's own row. -/
structure Record where
  values : List String
  arch : String := "COMMON"
  scope : String := "COMMON"
  owner? : Option Nat := none
  id : Nat := 0
  line : Nat := 0
  deriving DecidableEq, Inhabited

namespace Record

def value (record : Record) (index : Nat) : String := record.values.getD index ""

def appliesTo (record : Record) (arch : String) : Bool :=
  Text.sameIgnoringAsciiCase record.arch arch || record.arch = "COMMON"

end Record

structure RecordStore where
  files : Table SourcePath (List (Section × Record)) := ∅
  lastId : Nat := 0
  deriving Inhabited

namespace RecordStore

/-- A descriptor without rows is known nevertheless. -/
def addFile (store : RecordStore) (file : SourcePath) : RecordStore :=
  { store with files := store.files.update file fun rows => rows.getD [] }

def push (store : RecordStore) (file : SourcePath) (place : Section) (record : Record) :
    RecordStore × Nat :=
  let lastId := if record.id = 0 then store.lastId + 1 else store.lastId
  let id := if record.id = 0 then lastId else record.id
  let row := (place, { record with id })
  ({ files := store.files.update file fun rows => rows.getD [] ++ [row], lastId }, id)

def add (store : RecordStore) (file : SourcePath) (place : Section) (values : List String) :
    RecordStore × Nat :=
  store.push file place { values }

def define (store : RecordStore) (file : SourcePath) (name value : String) : RecordStore :=
  (store.add file .defines [name, value]).1

def contains (store : RecordStore) (file : SourcePath) : Bool := store.files.contains file

def rows (store : RecordStore) (file : SourcePath) : List (Section × Record) :=
  store.files.getD file []

def query (store : RecordStore) (file : SourcePath) (place : Section) (arch? : Option String)
    (owner? : Option Nat) : List Record :=
  (store.rows file).filterMap fun (origin, record) =>
    if origin = place ∧ record.owner? = owner? ∧ arch?.all record.appliesTo then some record else none

def fileCount (store : RecordStore) : Nat := store.files.size

def rowCount (store : RecordStore) : Nat := store.files.values.flatten.length

end RecordStore

end UefiBuild
