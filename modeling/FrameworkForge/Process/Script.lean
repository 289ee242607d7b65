import FrameworkForge.Process

/-!
Processes whose behaviour is laid down by rules. A rule applies to some of the spawns that it
matches, counted from the first; where no rule applies, a process exits with zero.
-/

namespace FrameworkForge

structure Rule where
  /-- The name of the program without its directory, or nothing for any program. -/
  tool : Option String
  /-- An argument that has to be there. -/
  argument : Option String
  skip : Int
  /-- How often the rule applies, or nothing for always. -/
  times : Option Int
  outcome : Outcome
  deriving DecidableEq

namespace Rule

def baseName (program : String) : String :=
  String.ofList (program.toList.reverse.takeWhile (· ≠ '/')).reverse

def isFor (r : Rule) (spawn : Spawn) : Bool :=
  match spawn.argv with
  | [] => false
  | program :: arguments =>
    r.tool.all (· = baseName program) && r.argument.all (· ∈ arguments)

def appliesAt (r : Rule) (hits : Nat) : Bool :=
  r.skip < hits && r.times.all (fun times => hits - r.skip ≤ times)

end Rule

/-- Rules in order, with the count of the matches of each. -/
abbrev Script := List (Rule × Nat)

namespace Script

def ofRules (rules : List Rule) : Script :=
  rules.map fun rule => (rule, 0)

/-- The first rule that applies decides. Matches of the rules before it count. -/
def answer (spawn : Spawn) : Script → Outcome × Script
  | [] => (.exited 0, [])
  | (rule, hits) :: rules =>
    if rule.isFor spawn then
      if rule.appliesAt (hits + 1) then (rule.outcome, (rule, hits + 1) :: rules)
      else
        let (outcome, rules) := answer spawn rules
        (outcome, (rule, hits + 1) :: rules)
    else
      let (outcome, rules) := answer spawn rules
      (outcome, (rule, hits) :: rules)

/-- The directories look as given, whatever was started. -/
def processes (look : Path → Sight) : Processes Script where
  start script spawn := answer spawn script
  look _ p := look p

end Script

end FrameworkForge
