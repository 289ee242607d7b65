import FrameworkForge.Host
import FrameworkForge.Process

/-!
Hosts that are laid down by tables of links, files and directories. Files and directories are known
by the places that lead to them through all links; nothing else needs to be there on the way.
-/

namespace FrameworkForge

structure Tables where
  environment : Environment
  currentDirectory : Path
  links : List Link := []
  directories : List Path := []
  files : List (Path × Except Int Content) := []

namespace Tables

/-- Where the links lead from the root, if they come to an end. -/
def place? (tables : Tables) (p : Path) : Option Path :=
  match Path.walk tables.links [] .root (tables.currentDirectory.join p).parts with
  | .reached place => some place
  | _ => none

def content? (tables : Tables) (p : Path) : Option (Except Int Content) :=
  (tables.place? p).bind fun place =>
    (tables.files.find? fun file => file.1 = place).map Prod.snd

def look (tables : Tables) (p : Path) : Sight :=
  if (tables.place? p).any (· ∈ tables.directories) then .directory else .other

/-- Users are not known, and every link comes to an end. -/
def host (tables : Tables) (reader : Reader) : Host where
  environment := tables.environment
  currentDirectory := tables.currentDirectory
  ownHome := none
  homeOf _ := none
  links := tables.links
  isEndless _ := false
  content? := tables.content?
  reader := reader

end Tables

end FrameworkForge
