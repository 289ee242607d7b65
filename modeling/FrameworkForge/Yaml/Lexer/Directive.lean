import FrameworkForge.Yaml.Fault
import FrameworkForge.Yaml.Lexer.Property

/-!
Directives in front of a document: the version of the language, handles of tags, and others, which
say nothing here.
-/

namespace FrameworkForge.Yaml.Directive

def number : Scan Int := do
  let digits ← Scan.takeWhile Char.isDigit
  Scan.check (!digits.isEmpty)
  match readInteger 10 (digits.map .char) with
  | .ok n => return n
  | .error e => throw e

def readVersion : Scan Directive := do
  Scan.skipWhile (· = ' ')
  let major ← number
  Scan.check (goesOn (· = '.') (← Scan.rest))
  Scan.skip 1
  let minor ← number
  Scan.check (endsOr isSpaceOrBreak (← Scan.rest))
  return .version major minor

def readHandle : Scan Directive := do
  Scan.skipWhile (· = ' ')
  let handle ← Property.handle
  Scan.check (goesOn (· = ' ') (← Scan.rest))
  Scan.skipWhile (· = ' ')
  let target ← Property.uri
  Scan.check (endsOr isSpaceOrBreak (← Scan.rest))
  return .handle handle target

def read : Scan Directive := do
  Scan.skip 1
  let name ← Scan.takeWhile Property.isNameChar
  Scan.check (!name.isEmpty && endsOr isSpaceOrBreak (← Scan.rest))
  let directive ←
    match String.ofList name with
    | "YAML" => readVersion
    | "TAG" => readHandle
    | _ => do
      Scan.skipWhile (!isBreak ·)
      pure .other
  Scan.restOfLine
  return directive

end FrameworkForge.Yaml.Directive
