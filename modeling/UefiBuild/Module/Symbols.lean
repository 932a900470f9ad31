import UefiBuild.Module.Basic

namespace UefiBuild

inductive SymbolUse
  | protocol
  | ppi
  | guid
  deriving DecidableEq

namespace SymbolUse

def name : SymbolUse → String
  | protocol => "Protocol"
  | ppi => "PPI"
  | guid => "Guid"

def place : SymbolUse → Section
  | protocol => .protocols
  | ppi => .ppis
  | guid => .guids

def table : SymbolUse → Package → Table String String
  | protocol => Package.protocols
  | ppi => Package.ppis
  | guid => Package.guids

def value? (use : SymbolUse) (packages : List Package) (name : String) : Option String :=
  packages.findSome? fun package => (use.table package).get? name

end SymbolUse

namespace Module

def packageList (packages : List Package) : String :=
  Text.join "\n\t" (packages.map fun package => package.file.text)

def symbolFailure (packages : List Package) (cause : Cause) (file : SourcePath) (line : Nat) : Failure :=
  ((Failure.of cause).atLine file line).withDetail (packageList packages)

def symbols (packages : List Package) (use : SymbolUse) (file : SourcePath) (records : List Record) :
    Checked (Table String String) := do
  let named ← records.mapM fun record =>
    let name := record.value 0
    match use.value? packages name with
    | some value => .ok (name, value)
    | none =>
      .error (symbolFailure packages (.symbolMissing use.name name) file record.line)
  return .ofList named

def depexWords : List String :=
  ["BEFORE", "AFTER", "PUSH", "AND", "OR", "NOT", "END", "SOR", "TRUE", "FALSE", "(", ")"]

def depexSymbol? (packages : List Package) (name : String) : Option String :=
  (SymbolUse.protocol.value? packages name).or
    ((SymbolUse.ppi.value? packages name).or (SymbolUse.guid.value? packages name))

end Module

end UefiBuild
