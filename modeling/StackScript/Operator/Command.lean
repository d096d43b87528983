import StackScript.Text.Basic

/-!
# Creatures and the commands that change them

The second family of operators works on values of its own: nine creatures in
three chains of three.  A command moves a creature along its chain or takes it
out of the machine.
-/

namespace StackScript

/-- A creature of one of the three chains. -/
inductive Creature where
  | bulbasaur
  | ivysaur
  | venusaur
  | charmander
  | charmeleon
  | charizard
  | squirtle
  | wartortle
  | blastoise
deriving DecidableEq, Repr

namespace Creature

def all : List Creature :=
  [.bulbasaur, .ivysaur, .venusaur, .charmander, .charmeleon, .charizard,
    .squirtle, .wartortle, .blastoise]

def name : Creature → String
  | .bulbasaur => "Bulbasaur"
  | .ivysaur => "Ivysaur"
  | .venusaur => "Venusaur"
  | .charmander => "Charmander"
  | .charmeleon => "Charmeleon"
  | .charizard => "Charizard"
  | .squirtle => "Squirtle"
  | .wartortle => "Wartortle"
  | .blastoise => "Blastoise"

def ofName? (name : String) : Option Creature :=
  all.find? fun creature => creature.name == name

/-- The next creature of the chain; the last one stays as it is. -/
def evolved : Creature → Creature
  | .bulbasaur => .ivysaur
  | .ivysaur => .venusaur
  | .charmander => .charmeleon
  | .charmeleon => .charizard
  | .squirtle => .wartortle
  | .wartortle => .blastoise
  | last => last

/-- The creature before in the chain; the first one stays as it is. -/
def devolved : Creature → Creature
  | .ivysaur => .bulbasaur
  | .venusaur => .ivysaur
  | .charmeleon => .charmander
  | .charizard => .charmeleon
  | .wartortle => .squirtle
  | .blastoise => .wartortle
  | first => first

def render (creature : Creature) : String :=
  "<Creature." ++ creature.name ++ ": '" ++ creature.name ++ "'>"

end Creature

/-- A command to a creature. -/
inductive Command where
  | evolve
  | devolve
  | close
deriving DecidableEq, Repr

namespace Command

def all : List Command := [.evolve, .devolve, .close]

def name : Command → String
  | .evolve => "Evolve"
  | .devolve => "Devolve"
  | .close => "Close"

def ofName? (name : Text) : Option Command :=
  all.find? fun command => Text.ofString command.name == name

def familyName : String := "Command"

def render (command : Command) : String :=
  "<" ++ familyName ++ "." ++ command.name ++ ": '" ++ command.name ++ "'>"

end Command
end StackScript
