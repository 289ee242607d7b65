import FrameworkForge.Error
import FrameworkForge.Path.Link
import FrameworkForge.Table
import FrameworkForge.Value

/-!
What a build reads of the machine it runs on: variables, home directories, the current directory,
links, and files, with the reader of the documents in them. All of it is read before a process is
started.
-/

namespace FrameworkForge

inductive Content where
  | text (s : String)
  | bytes (bs : List UInt8)

/-- A reader of documents, from the content of a file to the value of its document. -/
abbrev Reader := Content → Except ReaderFault Value

structure Host where
  environment : Environment
  currentDirectory : Path
  /-- The home directory of the user who builds, as the list of users has it. -/
  ownHome : Option String
  homeOf : String → Option String
  /-- The links by every name that a walk can make, from the root or from the current directory. -/
  links : List Link
  /-- Whether the system gives up on a path, since a link on the way has no end. -/
  isEndless : Path → Bool
  /-- What a file holds, if there is one, or the code by which the system refuses to look at it or
  to open it. -/
  content? : Path → Option (Except Int Content)
  reader : Reader

namespace Host

/-- A machine without variables, users, links and files. -/
def empty : Host where
  environment := .empty
  currentDirectory := .root
  ownHome := none
  homeOf _ := none
  links := []
  isEndless _ := false
  content? _ := none
  reader _ := .ok .null

/-- Where relative paths start; a current directory is absolute. -/
def start (host : Host) : Path :=
  Path.root.join host.currentDirectory

/-- The path seen from the root, without steps to the parent. -/
def absolute (host : Host) (p : Path) : Path :=
  ⟨(host.start.join p).lead, Path.fold [] (host.start.join p).parts⟩

/-- Where a path leads that stops at a link without an end. What is left of it is read by its text
alone, and is refused only if the system finds no end there either. -/
def pastEndless (host : Host) (place : Path) (rest : List Component) : Except Error Path :=
  let place := host.absolute ⟨place.lead, place.parts ++ rest⟩
  if place.parts.any Component.hasNull then .error (.nullInPath "stat")
  else if host.isEndless place then .error (.linkLoop place.text)
  else .ok place

/-- The place without links and steps to the parent that a path comes to. A relative path is walked
from the current directory, by names that are relative as well. -/
def resolve (host : Host) (p : Path) : Except Error Path :=
  match Path.walk host.links [] (if p.isAbsolute then .root else .here) p.parts with
  | .reached place => .ok (host.absolute place)
  | .endless place rest => host.pastEndless place rest
  | .refused => .error (.nullInPath "lstat")

/-- The home directory of a user by name. Without a name it is the one of the variable for it, or
else the one of the user who builds. -/
def homeText? (host : Host) (user : String) : Option String :=
  if user = "" then (host.environment.get? "HOME").or host.ownHome else host.homeOf user

/-- Slashes at the end of a home directory do not count. -/
def home (host : Host) (user : String) : Except Error Path :=
  if Char.ofNat 0 ∈ user.toList then .error .nullInUser
  else match host.homeText? user with
    | none => .error .unknownHome
    | some s =>
      let shortened := String.ofList (s.toList.reverse.dropWhile (· = '/')).reverse
      if shortened.startsWith "~" then .error .unknownHome
      else .ok (Path.parse (if shortened = "" then "/" else shortened))

/-- A tilde in front of a relative path, with the name of a user or without one, is a home
directory. -/
def expandHome (host : Host) (p : Path) : Except Error Path :=
  match p.lead, p.parts with
  | .relative, c :: cs =>
    match c.name.toList with
    | '~' :: user => do
      let home ← host.home (String.ofList user)
      return ⟨home.lead, home.parts ++ cs⟩
    | _ => .ok p
  | _, _ => .ok p

end Host

end FrameworkForge
